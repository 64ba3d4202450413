import HttpRouting.Middleware.Adjustments
import HttpRouting.Proofs.HeaderFields
import HttpRouting.Proofs.LetterCase
import HttpRouting.Proofs.Pipelines
import HttpRouting.Route.MethodTable
import Mathlib.Data.List.Basic

/-! # Middleware for some methods

A middleware for some methods compares the method of a request as it stands with the listed names in upper
case, while the tables of a router read it in any letter case. The two agree on every method that the platform
puts in upper case, and on no spelling of `PATCH` but the one in capitals: the router still sends such a request
to the endpoint of `PATCH`, and the middleware lets it pass.
-/

namespace HttpRouting

open Text

def Ascii (text : String) : Prop :=
  ∀ char ∈ text.toList, char.toNat < 0x80

/-- In ASCII the two ways to write in upper case are the same. -/
theorem upper_eq_upperAscii {text : String} (ascii : Ascii text) : upper text = upperAscii text := by
  rw [Ascii] at ascii
  rw [upper, upperAscii]
  generalize text.toList = chars at ascii
  congr 1
  induction chars with
  | nil => rfl
  | cons char chars ih =>
    obtain ⟨here, later⟩ := List.forall_mem_cons.mp ascii
    rw [List.flatMap_cons, ih later, upperChar, if_pos here]
    rfl

private theorem ascii_upperAscii {text : String} (ascii : Ascii text) : Ascii (upperAscii text) := by
  intro char member
  rw [upperAscii, String.toList_ofList] at member
  obtain ⟨origin, originMem, rfl⟩ := List.mem_map.mp member
  exact forall_ascii (motive := fun char => char.toUpper.toNat < 0x80) (by decide) (ascii origin originMem)

/-- Nothing small is left in a text in upper case. -/
theorem upperAscii_idem {text : String} (ascii : Ascii text) : upperAscii (upperAscii text) = upperAscii text := by
  have raised : ∀ char ∈ text.toList, (Char.toUpper ∘ Char.toUpper) char = char.toUpper := by
    intro char member
    exact forall_ascii (motive := fun char => char.toUpper.toUpper = char.toUpper) (by decide) (ascii char member)
  rw [upperAscii, upperAscii, String.toList_ofList, List.map_map, List.map_congr_left raised]

/-- A text in ASCII without small letters is in upper case. -/
theorem upperAscii_eq_self {text : String} (ascii : Ascii text)
    (capital : ∀ char ∈ text.toList, ¬IsSmall char) : upperAscii text = text := by
  have same : ∀ char ∈ text.toList, char.toUpper = char := by
    intro char member
    exact forall_ascii (motive := fun char => ¬IsSmall char → char.toUpper = char) (by decide) (ascii char member)
      (capital char member)
  rw [upperAscii, List.map_congr_left same, List.map_id', String.ofList_toList]

private theorem toNat_lt_of_isAlphanum {char : Char} (alphanumeric : char.isAlphanum = true) : char.toNat < 0x80 := by
  change (decide (65 ≤ char.val ∧ char.val ≤ 90) || decide (97 ≤ char.val) && decide (char.val ≤ 122) ||
    decide (48 ≤ char.val) && decide (char.val ≤ 57)) = true at alphanumeric
  simp only [Bool.or_eq_true, Bool.and_eq_true, decide_eq_true_eq, UInt32.le_iff_toNat_le] at alphanumeric
  rcases alphanumeric with (⟨_, bound⟩ | ⟨_, bound⟩) | ⟨_, bound⟩ <;>
    exact Nat.lt_of_le_of_lt bound (by decide)

theorem ascii_of_isToken {text : String} (token : Headers.isToken text = true) : Ascii text := by
  rw [Headers.isToken, Bool.and_eq_true, List.all_eq_true] at token
  intro char member
  have allowed := token.2 char member
  rw [Headers.isTokenChar, Bool.or_eq_true] at allowed
  rcases allowed with alphanumeric | sign
  · exact toNat_lt_of_isAlphanum alphanumeric
  · have signs : ("!#$%&'*+-.^_|~\x60".toList.all fun char => char.toNat < 0x80) = true := by decide +kernel
    exact of_decide_eq_true (List.all_eq_true.mp signs char (List.contains_iff_mem.mp sign))

/-- What the platform makes of the method of a message: ASCII, none of those that are forbidden, and in upper
case if it is one of those whose letter case does not matter. -/
theorem of_messageMethod {text method : String} (made : messageMethod text = .ok method) :
    Ascii method ∧ upperAscii method ∉ forbiddenMethods ∧
      (upperAscii method ∈ caselessMethods → upperAscii method = method) := by
  have passed : Headers.isToken text = true ∧ upperAscii text ∉ forbiddenMethods := by
    by_contra refused
    rw [messageMethod, if_pos (by simpa [imp_iff_not_or] using refused)] at made
    cases made
  have ascii := ascii_of_isToken passed.1
  rw [messageMethod, if_neg (by simpa using passed)] at made
  split_ifs at made with caseless
  · cases made
    rw [upperAscii_idem ascii]
    exact ⟨ascii_upperAscii ascii, passed.2, fun _ => rfl⟩
  · cases made
    exact ⟨ascii, passed.2, fun listed => absurd (List.contains_iff_mem.mpr listed) caseless⟩

namespace Method

variable {method : Method} {text : String}

private theorem ofName?_eq_some_iff {name : String} : ofName? name = some method ↔ name = method.name := by
  constructor
  · intro found
    rw [ofName?] at found
    have same := List.find?_some found
    exact (beq_iff_eq.mp same).symm
  · rintro rfl
    exact ofName?_name method

/-- Whether tables that bind a method answer a method text by what they bind to it. -/
def PickedBy (method : Method) (text : String) : Prop :=
  ∀ table : MethodTable Endpoint, table.binds method = true →
    table.get? Endpoint.headOf text = table.bound? method

/-- An endpoint that is told apart from the one that answers `HEAD` in its place. -/
def tagged : Endpoint :=
  { Endpoint.notFound with tag := some 0 }

theorem pickedBy_iff : method.PickedBy text ↔ parse? text = some method := by
  constructor
  · intro picked
    -- a table of this method alone tells it from the others, and the tag from an answer to `HEAD` by `GET`
    have bound (other : Method) :
        (⟨[(method, tagged)], none⟩ : MethodTable Endpoint).bound? other =
          if other = method then some tagged else none := by
      by_cases same : other = method
      · simp [MethodTable.bound?, same]
      · simp [MethodTable.bound?, same, List.lookup_cons, beq_false_of_ne same]
    have answers := picked ⟨[(method, tagged)], none⟩ (by rw [MethodTable.binds, bound, if_pos rfl]; rfl)
    rw [bound, if_pos rfl, MethodTable.get?] at answers
    by_contra differs
    have unbound : (parse? text).bind (⟨[(method, tagged)], none⟩ : MethodTable Endpoint).bound? = none := by
      cases parsed : parse? text with
      | none => rfl
      | some other => rw [Option.bind_some, bound, if_neg fun same : other = method => differs (same ▸ parsed)]
    rw [unbound, bound] at answers
    change (if parse? text = some head then _ else none) = some tagged at answers
    split_ifs at answers
    · have tags := congrArg Endpoint.tag (Option.some.inj answers)
      cases tags
    · cases answers
  · intro parsed table binds
    obtain ⟨endpoint, bound⟩ := Option.isSome_iff_exists.mp binds
    rw [MethodTable.get?, parsed, bound, Option.bind_some, bound]
    rfl

/-- Whether one of the names means the method, in any letter case. -/
def ListedIn (method : Method) (names : List String) : Prop :=
  ∃ name ∈ names, parse? name = some method

instance (method : Method) (names : List String) : Decidable (method.ListedIn names) :=
  inferInstanceAs (Decidable (∃ name ∈ names, _))

private theorem parse?_eq_some_iff : parse? text = some method ↔ upper text = method.name :=
  ofName?_eq_some_iff

end Method

/-- Only `PATCH` can reach a router in another spelling than that of its name. -/
theorem method_eq_name {address : Option Address} {options : MessageOptions} {message : Message}
    (made : Message.make address options = .ok message) {method : Method}
    (meant : Method.parse? message.method = some method) :
    upperAscii message.method = method.name ∧ (method ≠ .patch → message.method = method.name) := by
  obtain ⟨ascii, allowed, capital⟩ := of_messageMethod (Message.of_make made).1
  rw [Method.parse?_eq_some_iff, upper_eq_upperAscii ascii] at meant
  rw [meant] at allowed capital
  refine ⟨meant, fun other => (capital ?_).symm⟩
  cases method <;> first | decide | contradiction

/-- The names of a list in upper case hold the method of a message exactly when it is listed and the message has
its name as it stands. -/
theorem contains_map_upper_iff {address : Option Address} {options : MessageOptions} {message : Message}
    (made : Message.make address options = .ok message) {method : Method}
    (meant : Method.parse? message.method = some method) (names : List String) :
    (names.map upper).contains message.method = true ↔
      method.ListedIn names ∧ message.method = method.name := by
  obtain ⟨ascii, _⟩ := of_messageMethod (Message.of_make made).1
  obtain ⟨raised, _⟩ := method_eq_name made meant
  rw [List.contains_iff_mem, List.mem_map]
  constructor
  · rintro ⟨name, nameMem, same⟩
    have capital : ∀ char ∈ message.method.toList, ¬IsSmall char := by
      intro char member small
      rw [← same] at member
      exact not_mem_upper small member
    have named : message.method = method.name := by
      rw [← upperAscii_eq_self ascii capital, raised]
    exact ⟨⟨name, nameMem, Method.parse?_eq_some_iff.mpr (same.trans named)⟩, named⟩
  · rintro ⟨⟨name, nameMem, parsed⟩, named⟩
    exact ⟨name, nameMem, (Method.parse?_eq_some_iff.mp parsed).trans named.symm⟩

namespace Middleware

variable {inner wrapped guard : Endpoint} {layer : Middleware} {condition : Request → Bool}

theorem transform_conditional_eq_ok {holds : Request → Act Bool} :
    (Middleware.conditional holds layer).transform inner = .ok guard ↔
      ∃ wrapped, layer.transform inner = .ok wrapped ∧ guard = choose holds wrapped inner := by
  rw [transform, bind_eq_ok]
  simp only [pure_eq_ok, eq_comm (a := guard)]

/-- A condition that only looks at the request chooses between the two endpoints. -/
theorem call_choose (wrapped : Endpoint) (request : Request) :
    (choose (fun request => return condition request) wrapped inner).call request =
      (Endpoint.guarded (if condition request then wrapped.call else inner.call)).call request := by
  rw [choose, Endpoint.guarded, Endpoint.guarded]
  simp only [pure_bind]
  split_ifs <;> rfl

/-- What a middleware for some methods does with a request that tables answer by the slot of a method: the
request goes through the middleware when the method is listed, in any letter case, and the request has its name
in capitals. It has, unless the method is `PATCH`. -/
theorem forMethods_call (names : List String) (built : layer.transform inner = .ok wrapped)
    {address : Option Address} {options : MessageOptions} {request : Request} {method : Method}
    (made : Message.make address options = .ok request.message) (picked : method.PickedBy request.method) :
    ∃ guard, (forMethods names layer).transform inner = .ok guard ∧
      guard.call request = (Endpoint.guarded
        (if method.ListedIn names ∧ request.method = method.name then wrapped.call else inner.call)).call request ∧
      (method ≠ .patch → request.method = method.name) := by
  have meant : Method.parse? request.message.method = some method := Method.pickedBy_iff.mp picked
  refine ⟨_, transform_conditional_eq_ok.mpr ⟨wrapped, built, rfl⟩, ?_, (method_eq_name made meant).2⟩
  rw [call_choose]
  have condition := contains_map_upper_iff made meant names
  change (names.map upper).contains request.method = true ↔
    method.ListedIn names ∧ request.method = method.name at condition
  simp only [condition]

def methodRequest (method : String) : Request where
  message := ⟨method, { scheme := "http", path := .segments [""] }, {}, none⟩
  cell := 0
  path := "/"

/-- A middleware that leaves a mark when it sees a request. -/
def watching : Middleware :=
  .before fun request => do
    mark "seen"
    return request

private theorem call_watching {inner wrapped : Endpoint} (built : watching.transform inner = .ok wrapped)
    (request : Request) (sites : Sites) (world : World) :
    wrapped.call request sites world = inner.call request sites (world.record (.mark "seen")) := by
  cases built
  rfl

theorem forMethods_call_capitals : ∃ wrapped guard, watching.transform steady = .ok wrapped ∧
    Message.make (some { scheme := "http", path := .segments [""] }) { method := some "PATCH" } =
      .ok (methodRequest "PATCH").message ∧
    Method.patch.PickedBy (methodRequest "PATCH").method ∧ Method.patch.ListedIn ["patch"] ∧
    (forMethods ["patch"] watching).transform steady = .ok guard ∧
    guard.call (methodRequest "PATCH") = (Endpoint.guarded wrapped.call).call (methodRequest "PATCH") := by
  have made : Message.make (some { scheme := "http", path := .segments [""] }) { method := some "PATCH" } =
      .ok (methodRequest "PATCH").message := rfl
  have picked : Method.patch.PickedBy (methodRequest "PATCH").method := Method.pickedBy_iff.mpr (by decide +kernel)
  have listed : Method.patch.ListedIn ["patch"] := by decide +kernel
  obtain ⟨wrapped, wraps⟩ : ∃ wrapped, watching.transform steady = .ok wrapped := ⟨_, rfl⟩
  obtain ⟨guard, built, called, _⟩ := forMethods_call ["patch"] wraps made picked
  rw [if_pos ⟨listed, rfl⟩] at called
  exact ⟨wrapped, guard, wraps, made, picked, listed, built, called⟩

/-- A request with the method `patch` goes past a middleware for `PATCH`, though tables answer it by the slot of
`PATCH`: the endpoint answers it, and the middleware has not seen it. -/
theorem forMethods_passes_patch : ∃ wrapped guard, watching.transform steady = .ok wrapped ∧
    Message.make (some { scheme := "http", path := .segments [""] }) { method := some "patch" } =
      .ok (methodRequest "patch").message ∧
    Method.patch.PickedBy (methodRequest "patch").method ∧ Method.patch.ListedIn ["PATCH"] ∧
    (forMethods ["PATCH"] watching).transform steady = .ok guard ∧
    ∀ sites world,
      wrapped.call (methodRequest "patch") sites world = (.ok { status := 200 }, world.record (.mark "seen")) ∧
      guard.call (methodRequest "patch") sites world = (.ok { status := 200 }, world) := by
  have picked : Method.patch.PickedBy (methodRequest "patch").method := Method.pickedBy_iff.mpr (by decide +kernel)
  have listed : Method.patch.ListedIn ["PATCH"] := by decide +kernel
  have passed : ¬(["PATCH"].map upper).contains (methodRequest "patch").method = true := by decide +kernel
  refine ⟨_, _, rfl, rfl, picked, listed, rfl, fun sites world => ⟨call_watching rfl _ sites world, ?_⟩⟩
  rw [call_choose, if_neg passed]
  rfl

end Middleware

end HttpRouting

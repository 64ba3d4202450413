import HttpRouting.Middleware.Cors
import HttpRouting.Proofs.HeaderCopies
import HttpRouting.Proofs.Pipelines

/-! # What is granted to other origins

The middleware for other origins names an origin in an answer exactly when the request tells one that the options
admit, whoever gives the answer. A preflight is answered without the endpoint. The answer to any other request is
the endpoint's own, with four header fields set anew at most.

The name of the origin is written as a value of a field, so it loses blanks at its end. An origin that is read from
one field has none there; only one that joins several fields, of which the last is empty, does. The header fields of
the endpoint's own answer are copied, and so lose such blanks as well.
-/

namespace HttpRouting

open Headers (isToken isValue normalValue lowerName copiedValues)

namespace Response

/-- Whether a response may be made again with other headers: its status is one that a response may be made with, and
it has a body only where the status allows one, and one that has not been used. -/
def Proper (response : Response) : Prop :=
  isStatus response.status = true ∧
    (response.body.isSome = true → response.status ∉ bodyless ∧ response.bodyUsed = false)

instance (response : Response) : Decidable response.Proper :=
  inferInstanceAs (Decidable (_ ∧ _))

theorem proper_of_notFound {response : Response} (status : response.status = 404)
    (unused : response.bodyUsed = false) : response.Proper :=
  ⟨by rw [status]; rfl, fun _ => ⟨by rw [status]; decide, unused⟩⟩

def remade (response : Response) (headers : Headers) : Response :=
  { response with headers := headers.copied, bodyUsed := false }

variable {response : Response}

/-- Whether a response is made again does not depend on its headers. -/
theorem recast_cases (response : Response) :
    (response.Proper ∧ ∀ headers, response.recast headers response.body = .ok (response.remade headers)) ∨
      (¬response.Proper ∧ ∃ kind, ∀ headers, response.recast headers response.body = .error kind) := by
  rw [Proper]
  cases used : response.body.isSome && response.bodyUsed with
  | true =>
    obtain ⟨some, used'⟩ := Bool.and_eq_true_iff.mp used
    refine .inr ⟨fun proper => ?_, .wrongSort, fun headers => by rw [recast, used]; rfl⟩
    cases used'.symm.trans (proper.2 some).2
  | false =>
    cases status : isStatus response.status with
    | false => exact .inr ⟨by simp, .outOfRange, fun headers => by rw [recast, used, status]; rfl⟩
    | true =>
      cases body : response.body.isSome && bodyless.contains response.status with
      | false =>
        refine .inl ⟨⟨rfl, fun some => ⟨by simpa [some] using body, by simpa [some] using used⟩⟩, fun headers => ?_⟩
        rw [recast, used, status, body]
        rfl
      | true =>
        obtain ⟨some, listed⟩ := Bool.and_eq_true_iff.mp body
        refine .inr ⟨fun proper => (proper.2 some).1 (List.contains_iff_mem.mp listed), .wrongSort, fun headers => ?_⟩
        rw [recast, used, status, body]
        rfl

theorem withHeaders_eq_ok {edit : Headers → Except Violation Headers} {headers : Headers} (proper : response.Proper)
    (edited : edit response.headers.copied = .ok headers) :
    response.withHeaders edit = .ok (response.remade headers) := by
  rw [withHeaders, edited]
  rcases recast_cases response with ⟨_, made⟩ | ⟨improper, _⟩
  · exact made headers
  · exact absurd proper improper

/-- A response whose headers were edited differs from the one before in nothing else. -/
theorem of_withHeaders {answer : Response} {edit : Headers → Except Violation Headers}
    (made : response.withHeaders edit = .ok answer) :
    ∃ headers, edit response.headers.copied = .ok headers ∧ answer = response.remade headers := by
  obtain ⟨headers, edited, made⟩ := bind_eq_ok.mp made
  rcases recast_cases response with ⟨_, same⟩ | ⟨_, kind, refused⟩
  · rw [same] at made
    cases made
    exact ⟨headers, edited, rfl⟩
  · cases (refused headers).symm.trans made

end Response

namespace OriginRule

/-- Which origins a rule admits: all, the one, those of a list, or those that a predicate accepts. -/
inductive Admits : OriginRule → String → Prop
  | any (origin : String) : Admits .any origin
  | exact (origin : String) : Admits (.exact origin) origin
  | oneOf {origins : List String} {origin : String} (listed : origin ∈ origins) : Admits (.oneOf origins) origin
  | satisfying {accepts : String → Bool} {origin : String} (accepted : accepts origin = true) :
      Admits (.satisfying accepts) origin

private theorem grants_iff {rule : OriginRule} {origin : String} : rule.grants origin = true ↔ rule.Admits origin := by
  constructor
  · intro granted
    cases rule with
    | any => exact .any origin
    | exact other =>
      obtain rfl : origin = other := of_decide_eq_true granted
      exact .exact origin
    | oneOf origins => exact .oneOf (List.contains_iff_mem.mp granted)
    | satisfying accepts => exact .satisfying granted
    | none => cases granted
  · intro admitted
    cases admitted with
    | any => rfl
    | exact => exact beq_self_eq_true origin
    | oneOf listed => exact List.contains_iff_mem.mpr listed
    | satisfying accepted => exact accepted

/-- What an answer names for an origin: a star if all origins are admitted, else the origin itself. -/
def nameFor : OriginRule → String → String
  | .any, _ => "*"
  | _, origin => origin

theorem nameFor_of_ne_any {rule : OriginRule} (selective : rule ≠ .any) (origin : String) :
    rule.nameFor origin = origin := by
  cases rule with
  | any => exact absurd rfl selective
  | exact | oneOf | satisfying | none => rfl

/-- An origin is named exactly when the request tells one, which is not empty, that the rule admits. -/
theorem answer?_eq_some_iff {rule : OriginRule} {told : Option String} {named : String} :
    rule.answer? told = some named ↔
      ∃ origin, told = some origin ∧ origin ≠ "" ∧ rule.Admits origin ∧ named = rule.nameFor origin := by
  cases told with
  | none => cases rule <;> simp [answer?]
  | some origin =>
    by_cases empty : origin = ""
    · subst empty
      cases rule <;> simp [answer?]
    · have read : rule.answer? (some origin) =
          if rule.grants origin = true then some (rule.nameFor origin) else Option.none := by
        cases rule <;> simp [answer?, grants, nameFor]
      rw [read, Option.ite_none_right_eq_some, grants_iff]
      simp [empty, eq_comm (a := named)]

end OriginRule

namespace CorsOptions

/-- Whether the texts of the options may stand in header fields. -/
structure Valid (options : CorsOptions) : Prop where
  methods : isValue (normalValue (Text.join ", " options.methods)) = true
  allowedHeaders : isValue (normalValue (Text.join ", " options.allowedHeaders)) = true
  exposedHeaders : isValue (normalValue (Text.join ", " options.exposedHeaders)) = true

variable {options : CorsOptions} {request : Request}

/-- Whether the options grant access to the origin that a request tells. -/
def GrantsTo (options : CorsOptions) (request : Request) (origin : String) : Prop :=
  request.header "Origin" = some origin ∧ origin ≠ "" ∧ options.origin.Admits origin

end CorsOptions

namespace Builder

/-- The fields that tell what a preflight allows. -/
def preflightFields : List String :=
  ["access-control-allow-methods", "access-control-allow-headers", "access-control-max-age"]

/-- Whether a builder is on the way to a preflight answer: it has the status, no body, and only fields that tell
what is allowed. -/
structure OfPreflight (builder : Builder) : Prop where
  status : builder.status = 204
  body : builder.body = none
  fields : ∀ field ∈ builder.headers.fields, field.1 ∈ preflightFields ∧ isValue field.2 = true

variable {builder : Builder}

theorem OfPreflight.header (begun : builder.OfPreflight) {name value : String} (token : isToken name = true)
    (known : lowerName name ∈ preflightFields) (proper : isValue (normalValue value) = true) :
    ∃ next, builder.header name value = .ok next ∧ next.OfPreflight := by
  have put : builder.headers.set name value = .ok _ := Headers.set_eq_ok.mpr ⟨⟨token, proper⟩, rfl⟩
  refine ⟨_, bind_eq_ok.mpr ⟨_, put, rfl⟩, begun.status, begun.body, fun field member => ?_⟩
  rcases List.mem_append.mp member with old | new
  · exact begun.fields field (List.mem_of_mem_filter old)
  · rw [List.mem_singleton.mp new]
    exact ⟨known, proper⟩

/-- The finished preflight answer has no other fields. -/
theorem OfPreflight.build (begun : builder.OfPreflight) :
    ∃ response, builder.build = .ok response ∧ response.status = 204 ∧ response.body = none ∧
      ∀ name, lowerName name ∉ preflightFields → response.headers.values name = [] := by
  have known : ∀ name ∈ preflightFields,
      Headers.fitsOctets name = true ∧ isToken name = true ∧ lowerName name = name := by decide
  have octets : builder.headers.fields.all
      (fun pair => Headers.fitsOctets pair.1 && Headers.fitsOctets pair.2) = true := by
    refine List.all_eq_true.mpr fun field member => ?_
    obtain ⟨listed, proper⟩ := begun.fields field member
    rw [isValue, Bool.and_eq_true] at proper
    rw [(known _ listed).1, proper.1, Bool.and_self]
  obtain ⟨headers, made⟩ := Headers.exists_ofPairs_iff.mpr <| List.all_eq_true.mpr fun field member => by
    obtain ⟨listed, proper⟩ := begun.fields field member
    rw [(known _ listed).2.1, Headers.isValue_normalValue proper, Bool.and_self]
  have built : builder.build = .ok ⟨204, "", headers, none, false, rfl⟩ := by
    rw [Builder.build, begun.status, begun.body, Response.make]
    dsimp only
    rw [octets, made]
    rfl
  refine ⟨_, built, rfl, rfl, fun name other => ?_⟩
  have keep (current : Headers) (field : String × String) (member : field ∈ builder.headers.fields)
      (next : Headers) (nothing : current.values name = [])
      (added : current.append field.1 field.2 = .ok next) : next.values name = [] := by
    obtain ⟨listed, _⟩ := begun.fields field member
    have apart : lowerName field.1 ≠ lowerName name := by
      rw [(known _ listed).2.2]
      exact fun same => other (same ▸ listed)
    rw [Headers.values_append added, nothing, if_neg apart, List.append_nil]
  exact foldlM_ok_induction_mem keep rfl made

end Builder

namespace CorsOptions

variable {options : CorsOptions} {request : Request}

/-- A preflight answer is a response of its own, to which the changes are made that every answer gets. -/
theorem Valid.exists_bare (valid : options.Valid) : ∃ bare : Response, bare.Proper ∧ bare.status = 204 ∧
    (∀ name, lowerName name ∉ Builder.preflightFields → bare.headers.values name = []) ∧
    ∀ allowed, options.preflight allowed = bare.withHeaders (·.edit (options.common allowed)) := by
  have start : Builder.OfPreflight { status := 204 } := ⟨rfl, rfl, by simp⟩
  have tokens : isToken "Access-Control-Allow-Methods" = true ∧ isToken "Access-Control-Allow-Headers" = true := by
    decide
  obtain ⟨first, named, begun⟩ := start.header tokens.1 (by decide) valid.methods
  obtain ⟨second, named', begun⟩ := begun.header tokens.2 (by decide) valid.allowedHeaders
  obtain ⟨last, aged, begun⟩ : ∃ last, (if options.maxAge.isZero = true then pure second
      else second.header "Access-Control-Max-Age" options.maxAge.render) = Except.ok last ∧ last.OfPreflight := by
    split_ifs
    · exact ⟨second, rfl, begun⟩
    · exact begun.header (by decide) (by decide) (Headers.isValue_normalValue (Number.isValue_render _))
  obtain ⟨bare, built, status, body, others⟩ := begun.build
  refine ⟨bare, ⟨by rw [status]; rfl, by simp [body]⟩, status, others, fun allowed => ?_⟩
  have ok_bind {α β : Type} (value : α) (next : α → Except Violation β) : Except.ok value >>= next = next value := rfl
  cases zero : options.maxAge.isZero <;>
    simp only [zero, Bool.false_eq_true, ↓reduceIte] at aged <;>
    simp only [preflight, named, named', ok_bind, zero, Bool.false_eq_true, ↓reduceIte, aged, built]

/-- The changes by which an answer names an origin. -/
def naming : Option String → List HeaderEdit
  | none => []
  | some origin =>
    .set "Access-Control-Allow-Origin" origin :: if origin = "*" then [] else [.append "Vary" "Origin"]

/-- The names of the other fields that are set in an answer. -/
def furtherFields : List String :=
  ["access-control-allow-credentials", "access-control-expose-headers"]

/-- Whether changes are well formed and about other fields than those by which an origin is named. -/
def Further (edits : List HeaderEdit) : Prop :=
  ∀ edit ∈ edits, edit.isProper = true ∧ lowerName edit.name ∈ furtherFields

theorem exists_further_common (options : CorsOptions) :
    ∃ further, Further further ∧ ∀ allowed, options.common allowed = naming allowed ++ further := by
  refine ⟨if options.credentials then [.set "Access-Control-Allow-Credentials" "true"] else [], ?_, ?_⟩
  · intro edit member
    split_ifs at member
    · rw [List.mem_singleton.mp member]
      exact ⟨by decide, by decide⟩
    · cases member
  · intro allowed
    cases allowed <;> rfl

theorem Valid.exists_further_plain (valid : options.Valid) (allowed : Option String) :
    ∃ further, Further further ∧ options.plain allowed = naming allowed ++ further := by
  obtain ⟨further, proper, common⟩ := options.exists_further_common
  rw [plain, common, List.append_assoc]
  refine ⟨_, fun edit member => ?_, rfl⟩
  rcases List.mem_append.mp member with early | exposed
  · exact proper edit early
  · split_ifs at exposed
    · rw [List.mem_singleton.mp exposed]
      have token : isToken "Access-Control-Expose-Headers" = true := by decide
      refine ⟨?_, (by decide : lowerName "Access-Control-Expose-Headers" ∈ furtherFields)⟩
      rw [HeaderEdit.isProper, token, valid.exposedHeaders, Bool.and_self]
    · cases exposed

/-- The names of all fields that may be set in an answer. -/
def sharedFields : List String :=
  ["vary", "access-control-allow-origin", "access-control-allow-credentials", "access-control-expose-headers"]

/-- Whether an answer is the given response with its headers copied and an origin named in it, if there is one to
name, and nothing else changed but the further fields. -/
structure Marks (allowed : Option String) (own answer : Response) : Prop where
  status : answer.status = own.status
  statusText : answer.statusText = own.statusText
  body : answer.body = own.body
  origin : answer.headers.values "Access-Control-Allow-Origin" =
    allowed.elim (copiedValues "Access-Control-Allow-Origin" (own.headers.values "Access-Control-Allow-Origin"))
      fun origin => [normalValue origin]
  vary : answer.headers.values "Vary" =
    copiedValues "Vary" (copiedValues "Vary" (own.headers.values "Vary") ++
      if allowed.any (· ≠ "*") then ["Origin"] else [])
  others : ∀ name, lowerName name ∉ sharedFields →
    answer.headers.values name = copiedValues name (own.headers.values name)

/-- An origin that may stand in a field is named by changes that are well formed. -/
theorem naming_proper {allowed : Option String}
    (writable : ∀ origin, allowed = some origin → isValue (normalValue origin) = true) :
    ∀ edit ∈ naming allowed, edit.isProper = true := by
  intro edit member
  cases allowed with
  | none => cases member
  | some origin =>
    rcases List.mem_cons.mp member with rfl | reflected
    · have token : isToken "Access-Control-Allow-Origin" = true := by decide
      rw [HeaderEdit.isProper, token, writable origin rfl, Bool.and_self]
    · split_ifs at reflected
      · cases reflected
      · rw [List.mem_singleton.mp reflected]
        decide

/-- Naming an origin sets one field, and lets `Vary` tell of it unless the name is a star. -/
theorem values_named {allowed : Option String} {headers named : Headers}
    (ran : headers.edit (naming allowed) = .ok named) (name : String) :
    named.values name =
      if lowerName name = "access-control-allow-origin" then
        allowed.elim (headers.values name) fun origin => [normalValue origin]
      else headers.values name ++
        if lowerName name = "vary" ∧ allowed.any (· ≠ "*") then ["Origin"] else [] := by
  have allow : lowerName "Access-Control-Allow-Origin" = "access-control-allow-origin" := by decide
  have vary : lowerName "Vary" = "vary" := by decide
  have reflected : normalValue "Origin" = "Origin" := by decide
  cases allowed with
  | none =>
    cases ran
    simp
  | some origin =>
    rw [naming, Headers.edit_cons, bind_eq_ok] at ran
    obtain ⟨middle, put, ran⟩ := ran
    have first := Headers.values_set put name
    rw [allow] at first
    split_ifs at ran with star
    · cases ran
      rw [first]
      simp [star, eq_comm]
    · rw [Headers.edit_cons, bind_eq_ok] at ran
      obtain ⟨last, added, ran⟩ := ran
      cases ran
      rw [Headers.values_append added, first, vary, reflected]
      by_cases here : lowerName name = "access-control-allow-origin"
      · simp [here]
      · simp [here, Ne.symm here, star, eq_comm (a := "vary")]

/-- Changes that name an origin and then set further fields mark a response, if they can be made. -/
theorem marks_of_withHeaders {own answer : Response} {allowed : Option String} {further : List HeaderEdit}
    (rest : ∀ edit ∈ further, lowerName edit.name ∈ furtherFields)
    (made : own.withHeaders (·.edit (naming allowed ++ further)) = .ok answer) : Marks allowed own answer := by
  obtain ⟨edited, ran, rfl⟩ := Response.of_withHeaders made
  rw [Headers.edit_append, bind_eq_ok] at ran
  obtain ⟨named, ran, ran'⟩ := ran
  have values (name : String) : (own.remade edited).headers.values name = copiedValues name (edited.values name) :=
    Headers.values_copied edited name
  have apart {name : String} (other : lowerName name ∉ furtherFields) :
      edited.values name = named.values name :=
    Headers.values_edit ran' fun edit member same => other (same ▸ rest edit member)
  refine ⟨rfl, rfl, rfl, ?_, ?_, fun name other => ?_⟩
  · rw [values, apart (by decide), values_named ran, Headers.values_copied]
    cases allowed with
    | none => simp [Headers.copiedValues_copiedValues]
    | some origin =>
      simp [show lowerName "Access-Control-Allow-Origin" = "access-control-allow-origin" from by decide,
        Headers.normalValue_normalValue]
  · rw [values, apart (by decide), values_named ran, Headers.values_copied]
    simp [show lowerName "Vary" = "vary" from by decide]
  · obtain ⟨vary, allow, other⟩ : lowerName name ≠ "vary" ∧ lowerName name ≠ "access-control-allow-origin" ∧
        lowerName name ∉ furtherFields := by simpa [sharedFields, furtherFields] using other
    rw [values, apart other, values_named ran, Headers.values_copied]
    simp [vary, allow, Headers.copiedValues_copiedValues]

theorem exists_marks {own : Response} (proper : own.Proper) {allowed : Option String} {further : List HeaderEdit}
    (rest : Further further) (writable : ∀ origin, allowed = some origin → isValue (normalValue origin) = true) :
    ∃ answer, own.withHeaders (·.edit (naming allowed ++ further)) = .ok answer ∧ Marks allowed own answer := by
  obtain ⟨edited, ran⟩ := Headers.exists_edit
    (List.forall_mem_append.mpr ⟨naming_proper writable, fun edit member => (rest edit member).1⟩) own.headers.copied
  have made : own.withHeaders (·.edit (naming allowed ++ further)) = .ok (own.remade edited) :=
    Response.withHeaders_eq_ok proper ran
  exact ⟨_, made, marks_of_withHeaders (fun edit member => (rest edit member).2) made⟩

/-- Whether a response grants access just as the options say: exactly if the request tells an origin that they admit,
and then to everyone if they admit all, else to that origin. -/
structure Grants (options : CorsOptions) (request : Request) (answer : Response) : Prop where
  granted_iff : answer.headers.has "Access-Control-Allow-Origin" = true ↔ ∃ origin, options.GrantsTo request origin
  to_everyone : options.origin = .any → ∀ origin, options.GrantsTo request origin →
    answer.headers.get? "Access-Control-Allow-Origin" = some "*"
  to_origin : options.origin ≠ .any → ∀ origin, options.GrantsTo request origin →
    answer.headers.get? "Access-Control-Allow-Origin" = some (normalValue origin)

/-- The origin that an answer to a request names. -/
def named? (options : CorsOptions) (request : Request) : Option String :=
  options.origin.answer? (request.header "Origin")

theorem named?_eq_some_iff {named : String} :
    options.named? request = some named ↔
      ∃ origin, options.GrantsTo request origin ∧ named = options.origin.nameFor origin := by
  simp only [named?, OriginRule.answer?_eq_some_iff, GrantsTo, and_assoc]

/-- What is named may stand in a field, since it was read from one. -/
theorem isValue_of_named (writable : request.message.headers.Writable) {named : String}
    (names : options.named? request = some named) : isValue (normalValue named) = true := by
  obtain ⟨origin, ⟨told, _⟩, rfl⟩ := named?_eq_some_iff.mp names
  cases rule : options.origin with
  | any => exact (by decide : isValue (normalValue "*") = true)
  | exact | oneOf | satisfying | none => exact Headers.isValue_normalValue (writable.get? told)

theorem Marks.grants {own answer : Response} (marks : Marks (options.named? request) own answer)
    (silent : own.headers.values "Access-Control-Allow-Origin" = []) : options.Grants request answer := by
  have origin := marks.origin
  rw [silent, Headers.copiedValues_nil] at origin
  refine ⟨?_, fun everyone told granted => ?_, fun selective told granted => ?_⟩
  · rw [Headers.has_iff, origin]
    cases names : options.named? request with
    | none =>
      refine iff_of_false (by simp) ?_
      rintro ⟨told, granted⟩
      cases names.symm.trans (named?_eq_some_iff.mpr ⟨told, granted, rfl⟩)
    | some named =>
      obtain ⟨told, granted, _⟩ := named?_eq_some_iff.mp names
      exact iff_of_true (by simp) ⟨told, granted⟩
  · rw [named?_eq_some_iff.mpr ⟨told, granted, rfl⟩, everyone] at origin
    have star : [normalValue "*"] = ["*"] := by decide
    exact Headers.get?_of_singleton (origin.trans star)
  · rw [named?_eq_some_iff.mpr ⟨told, granted, rfl⟩, OriginRule.nameFor_of_ne_any selective] at origin
    exact Headers.get?_of_singleton origin

/-- Whether a request is a preflight: it asks for the options of an address and says for which method. -/
def IsPreflightOf (request : Request) : Prop :=
  request.method = "OPTIONS" ∧
    ∃ method, request.header "Access-Control-Request-Method" = some method ∧ method ≠ ""

private theorem isPreflight_iff : isPreflight request = true ↔ IsPreflightOf request := by
  rw [isPreflight, IsPreflightOf, Bool.and_eq_true, beq_iff_eq, bne_iff_ne]
  cases request.header "Access-Control-Request-Method" <;> simp

end CorsOptions

namespace Middleware

open CorsOptions

variable {options : CorsOptions} {inner outer : Endpoint} {request : Request} {sites : Sites} {world final : World}

/-- A preflight is answered without the endpoint. -/
theorem call_cors_preflight (built : (cors options).transform inner = .ok outer) (preflight : IsPreflightOf request) :
    outer.call request sites world =
      tryCatch (ofViolation (options.preflight (options.named? request))) answerFault sites world := by
  cases built
  change tryCatch (if isPreflight request = true then _ else _) answerFault sites world = _
  rw [if_pos (isPreflight_iff.mpr preflight)]
  rfl

/-- Any other request is passed on once, and the headers of the answer are changed. -/
theorem call_cors (built : (cors options).transform inner = .ok outer) (ordinary : ¬IsPreflightOf request) :
    outer.call request sites world =
      match inner.call request sites world with
      | (.ok own, final) => tryCatch
          (ofViolation (own.withHeaders (·.edit (options.plain (options.named? request))))) answerFault sites final
      | (.error fault, final) => answerFault fault sites final := by
  cases built
  change tryCatch (if isPreflight request = true then _ else _) answerFault sites world = _
  rw [if_neg (mt isPreflight_iff.mp ordinary), run_tryCatch, run_act_bind]
  dsimp only [Option.getD_none]
  rcases inner.call request sites world with ⟨fault | own, final⟩
  · rfl
  · dsimp only
    rw [run_tryCatch]
    rfl

/-- A response that can be made again is passed on, wherever the endpoint answers with it, with the origin named that
is to be named. -/
theorem exists_call_cors (valid : options.Valid) (writable : request.message.headers.Writable)
    (built : (cors options).transform inner = .ok outer) (ordinary : ¬IsPreflightOf request) {own : Response}
    (proper : own.Proper) : ∃ answer, Marks (options.named? request) own answer ∧
      ∀ sites world final, inner.call request sites world = (.ok own, final) →
        outer.call request sites world = (.ok answer, final) := by
  obtain ⟨further, rest, plain⟩ := valid.exists_further_plain (options.named? request)
  obtain ⟨answer, marked, marks⟩ := exists_marks proper rest fun _ => isValue_of_named writable
  refine ⟨answer, marks, fun sites world final called => ?_⟩
  rw [call_cors built ordinary, called]
  dsimp only
  rw [plain, marked]
  rfl

/-- What the middleware answers, for options that may stand in header fields. A preflight is answered with 204 and
without the endpoint. Any other request is passed on once; if the body of the endpoint's answer has not been used, the
answer is that one with its headers copied and access granted as the options say, and it differs from that copy in no
more than four fields. -/
theorem cors_answers (valid : options.Valid) {address : Option Address} {given : MessageOptions}
    (made : Message.make address given = .ok request.message) :
    (IsPreflightOf request → ∃ answer, answer.status = 204 ∧ options.Grants request answer ∧
      ∀ inner, ∃ outer, (cors options).transform inner = .ok outer ∧
        ∀ sites world, outer.call request sites world = (.ok answer, world)) ∧
    (¬IsPreflightOf request → ∀ inner, ∃ outer, (cors options).transform inner = .ok outer ∧
      ∀ sites world own final, inner.call request sites world = (.ok own, final) → own.Proper →
        own.headers.has "Access-Control-Allow-Origin" = false →
        ∃ answer, outer.call request sites world = (.ok answer, final) ∧ options.Grants request answer ∧
          answer.status = own.status ∧ answer.statusText = own.statusText ∧ answer.body = own.body ∧
          ∀ name, lowerName name ∉ sharedFields →
            answer.headers.values name = copiedValues name (own.headers.values name)) := by
  have writable := Message.writable_of_make made
  refine ⟨fun preflight => ?_, fun ordinary inner => ⟨_, rfl, fun sites world own final called proper silent => ?_⟩⟩
  · obtain ⟨bare, proper, status, others, answers⟩ := valid.exists_bare
    obtain ⟨further, rest, common⟩ := options.exists_further_common
    obtain ⟨answer, marked, marks⟩ := exists_marks proper rest fun _ => isValue_of_named writable
    refine ⟨answer, marks.status.trans status, marks.grants (others _ (by decide)), fun inner => ⟨_, rfl, ?_⟩⟩
    intro sites world
    rw [call_cors_preflight rfl preflight, answers, common, marked]
    rfl
  · obtain ⟨answer, marks, answers⟩ := exists_call_cors valid writable rfl ordinary proper
    have none : own.headers.values "Access-Control-Allow-Origin" = [] := by
      simpa [Headers.has] using silent
    exact ⟨answer, answers sites world final called, marks.grants none, marks.status, marks.statusText, marks.body,
      marks.others⟩

def fieldRequest (fields : List (String × String)) : Request where
  message := ⟨"GET", { scheme := "http", path := .segments [""] }, ⟨fields⟩, none⟩
  cell := 0
  path := "/"

/-- Options that admit one origin and expose one field to it. -/
def appOptions : CorsOptions :=
  { origin := .oneOf ["https://app.test"], exposedHeaders := ["X-Total"], credentials := true }

theorem cors_answers_app : appOptions.Valid ∧
    Message.make (some { scheme := "http", path := .segments [""] }) { headers := [("Origin", " https://app.test")] } =
      .ok (fieldRequest [("origin", "https://app.test")]).message ∧
    ¬IsPreflightOf (fieldRequest [("origin", "https://app.test")]) ∧
    appOptions.GrantsTo (fieldRequest [("origin", "https://app.test")]) "https://app.test" ∧
    ∃ outer, (cors appOptions).transform steady = .ok outer ∧ ∀ sites world, ∃ answer,
      outer.call (fieldRequest [("origin", "https://app.test")]) sites world = (.ok answer, world) ∧
      answer.headers.get? "Access-Control-Allow-Origin" = some "https://app.test" := by
  have valid : appOptions.Valid := ⟨by decide, by decide, by decide⟩
  have made : Message.make (some { scheme := "http", path := .segments [""] })
      { headers := [("Origin", " https://app.test")] } =
      .ok (fieldRequest [("origin", "https://app.test")]).message := rfl
  have ordinary : ¬IsPreflightOf (fieldRequest [("origin", "https://app.test")]) :=
    fun preflight => absurd preflight.1 (by decide)
  have granted : appOptions.GrantsTo (fieldRequest [("origin", "https://app.test")]) "https://app.test" :=
    ⟨rfl, by decide, .oneOf (by decide)⟩
  obtain ⟨outer, built, answers⟩ := (cors_answers valid made).2 ordinary steady
  refine ⟨valid, made, ordinary, granted, outer, built, fun sites world => ?_⟩
  obtain ⟨answer, called, grants, _⟩ := answers sites world _ world rfl (by decide) rfl
  have same : normalValue "https://app.test" = "https://app.test" := by decide
  have named := grants.to_origin (by rintro ⟨⟩) _ granted
  rw [same] at named
  exact ⟨answer, called, named⟩

/-- An endpoint that answers with a body that has been read. -/
def readEndpoint : Endpoint :=
  steady.after fun response => return { response with body := some "read", bodyUsed := true }

/-- The origin of a request whose last field for it is empty ends with a blank, which an answer cannot name. A field
of the endpoint's own that ends with a blank in the same way loses it, too, and an answer whose body has been used
cannot be made again at all. -/
theorem cors_answers_else :
    (∃ outer, (cors { origin := .satisfying fun _ => true }).transform steady = .ok outer ∧
      Message.make (some { scheme := "http", path := .segments [""] })
        { headers := [("Origin", "https://a"), ("Origin", "")] } =
        .ok (fieldRequest [("origin", "https://a"), ("origin", "")]).message ∧
      CorsOptions.GrantsTo { origin := .satisfying fun _ => true }
        (fieldRequest [("origin", "https://a"), ("origin", "")]) "https://a, " ∧
      ∀ sites world, ∃ answer,
        outer.call (fieldRequest [("origin", "https://a"), ("origin", "")]) sites world = (.ok answer, world) ∧
        answer.headers.get? "Access-Control-Allow-Origin" = some "https://a,") ∧
    (∃ outer, (cors {}).transform Endpoint.repeating = .ok outer ∧ ∀ sites world, ∃ own answer,
      Endpoint.repeating.call (fieldRequest []) sites world = (.ok own, world) ∧ own.Proper ∧
      own.headers.get? "X-A" = some "a, " ∧
      outer.call (fieldRequest []) sites world = (.ok answer, world) ∧ answer.headers.get? "X-A" = some "a,") ∧
    ∃ outer, (cors {}).transform readEndpoint = .ok outer ∧ ∀ sites world, ∃ own answer final,
      readEndpoint.call (fieldRequest []) sites world = (.ok own, world) ∧ own.status = 200 ∧
      outer.call (fieldRequest []) sites world = (.ok answer, final) ∧ answer.status = 500 := by
  have plain : ¬IsPreflightOf (fieldRequest []) ∧
      ¬IsPreflightOf (fieldRequest [("origin", "https://a"), ("origin", "")]) :=
    ⟨fun preflight => absurd preflight.1 (by decide), fun preflight => absurd preflight.1 (by decide)⟩
  refine ⟨⟨_, rfl, rfl, ⟨rfl, by decide, .satisfying rfl⟩, fun sites world => ?_⟩, ⟨_, rfl, fun sites world => ?_⟩,
    _, rfl, fun sites world => ⟨_, _, _, rfl, rfl, rfl, rfl⟩⟩
  · have valid : CorsOptions.Valid { origin := .satisfying fun _ => true } := ⟨by decide, by decide, by decide⟩
    have writable : (⟨[("origin", "https://a"), ("origin", "")]⟩ : Headers).Writable :=
      List.forall_mem_cons.mpr ⟨by decide, List.forall_mem_singleton.mpr (by decide)⟩
    obtain ⟨own, called, proper⟩ : ∃ own, steady.call (fieldRequest [("origin", "https://a"), ("origin", "")])
        sites world = (.ok own, world) ∧ own.Proper := ⟨_, rfl, by decide⟩
    obtain ⟨answer, marks, answers⟩ := exists_call_cors valid writable rfl plain.2 proper
    have trimmed : [normalValue "https://a, "] = ["https://a,"] := by decide
    exact ⟨answer, answers _ _ _ called, Headers.get?_of_singleton (marks.origin.trans trimmed)⟩
  · have valid : CorsOptions.Valid {} := ⟨by decide, by decide, by decide⟩
    have writable : ({} : Headers).Writable := List.forall_mem_nil _
    obtain ⟨own, called, status, unused, held⟩ := Endpoint.call_repeating (fieldRequest []) sites world
    have proper := Response.proper_of_notFound status unused
    obtain ⟨answer, marks, answers⟩ := exists_call_cors valid writable rfl plain.1 proper
    have copied := marks.others "X-A" (by decide)
    rw [held] at copied
    have joined : copiedValues "X-A" (Headers.values ⟨[("x-a", "a"), ("x-a", "")]⟩ "X-A") = ["a,"] := by decide
    refine ⟨own, answer, called, proper, ?_, answers _ _ _ called, Headers.get?_of_singleton (copied.trans joined)⟩
    rw [held]
    decide

end Middleware

end HttpRouting

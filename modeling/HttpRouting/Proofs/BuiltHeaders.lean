import HttpRouting.Http.Builder
import HttpRouting.Proofs.HeaderFolds
import HttpRouting.Proofs.MethodGuards

/-! # The headers that a builder is given

A builder takes the headers that it is given out of a listing, one after the other, each in place of those of its
name that came before. The listing joins the values of one name, so that nothing is lost on the way; but cookies it
lists apart, and of these only the last one is left. What is set later replaces what was given under its name.
-/

namespace HttpRouting

open Text

namespace Headers

variable {headers edited : Headers} {name value : String}

/-! ## Fields in the form in which they are kept -/

private theorem isToken_lowerName (token : isToken name = true) : isToken (lowerName name) = true := by
  have ascii := ascii_of_isToken token
  rw [isToken, Bool.and_eq_true, decide_eq_true_eq, List.all_eq_true] at token ⊢
  obtain ⟨some, allowed⟩ := token
  constructor
  · rwa [Ne, lowerName, String.ofList_eq_empty_iff, List.map_eq_nil_iff, String.toList_eq_nil_iff]
  · intro char member
    rw [lowerName, String.toList_ofList] at member
    obtain ⟨origin, originMem, rfl⟩ := List.mem_map.mp member
    exact forall_ascii (motive := fun char => isTokenChar char = true → isTokenChar char.toLower = true)
      (by decide +kernel) (ascii origin originMem) (allowed origin originMem)

private theorem fitsOctets_of_isToken (token : isToken name = true) : fitsOctets name = true :=
  List.all_eq_true.mpr fun char member =>
    decide_eq_true (Nat.le_trans (Nat.le_of_lt (ascii_of_isToken token char member)) (by decide))

/-- Whether every field has the form in which it would be taken again. -/
def Formed (headers : Headers) : Prop :=
  ∀ field ∈ headers.fields, field? field.1 field.2 = .ok field

private theorem field?_of_field? {field : String × String} (read : field? name value = .ok field) :
    field? field.1 field.2 = .ok field := by
  obtain ⟨⟨token, proper⟩, rfl⟩ := field?_eq_ok.mp read
  rw [field?_eq_ok, lowerName_lowerName, normalValue_normalValue]
  exact ⟨⟨isToken_lowerName token, proper⟩, rfl⟩

/-- Fields that would be taken as they are can be appended one after the other. -/
theorem foldlM_append {fields : List (String × String)}
    (taken : ∀ field ∈ fields, field? field.1 field.2 = .ok field) (start : Headers) :
    fields.foldlM (fun headers field => headers.append field.1 field.2) start =
      .ok (⟨start.fields ++ fields⟩ : Headers) := by
  induction fields generalizing start with
  | nil =>
    rw [List.append_nil]
    rfl
  | cons field fields ih =>
    obtain ⟨here, later⟩ := List.forall_mem_cons.mp taken
    have added : start.append field.1 field.2 = .ok ⟨start.fields ++ [field]⟩ := by
      rw [append, here]
      rfl
    rw [List.foldlM_cons, bind_eq_ok]
    refine ⟨_, added, ?_⟩
    rw [ih later, List.append_assoc, List.singleton_append]

namespace Formed

theorem without (formed : headers.Formed) (name : String) : (headers.without name).Formed :=
  fun field member => formed field (List.mem_of_mem_filter member)

theorem concat (formed : headers.Formed) {field : String × String} (read : field? name value = .ok field) :
    (⟨headers.fields ++ [field]⟩ : Headers).Formed := by
  intro other member
  rcases List.mem_append.mp member with old | new
  · exact formed other old
  · rw [List.mem_singleton.mp new]
    exact field?_of_field? read

theorem apply (formed : headers.Formed) {edit : HeaderEdit} (applied : edit.apply headers = .ok edited) :
    edited.Formed := by
  cases edit with
  | set own given =>
    obtain ⟨proper, rfl⟩ := set_eq_ok.mp applied
    exact (formed.without _).concat (field?_eq_ok.mpr ⟨proper, rfl⟩)
  | append own given =>
    obtain ⟨proper, rfl⟩ := append_eq_ok.mp applied
    exact formed.concat (field?_eq_ok.mpr ⟨proper, rfl⟩)
  | delete own =>
    obtain ⟨_, rfl⟩ := delete_eq_ok.mp applied
    exact formed.without _

theorem edit (formed : headers.Formed) {edits : List HeaderEdit} (ran : headers.edit edits = .ok edited) :
    edited.Formed :=
  foldlM_ok_induction (fun _ _ _ kept applied => kept.apply applied) formed ran

/-- Headers that are made of pairs have the form in which they would be taken again. -/
theorem of_ofPairs {pairs : List (String × String)} (made : ofPairs pairs = .ok headers) : headers.Formed := by
  have step (current : Headers) (pair : String × String) (next : Headers) (formed : current.Formed)
      (added : current.append pair.1 pair.2 = .ok next) : next.Formed := by
    obtain ⟨proper, rfl⟩ := append_eq_ok.mp added
    exact formed.concat (field?_eq_ok.mpr ⟨proper, rfl⟩)
  exact foldlM_ok_induction step (fun _ member => absurd member List.not_mem_nil) made

private theorem map_normalValue (formed : headers.Formed) (name : String) :
    (headers.values name).map normalValue = headers.values name := by
  rw [values, List.map_map]
  refine List.map_congr_left fun field member => ?_
  have kept := (field?_eq_ok.mp (formed field (List.mem_of_mem_filter member))).2
  exact (congrArg Prod.snd kept).symm

theorem writable (formed : headers.Formed) : headers.Writable := by
  intro field member
  obtain ⟨⟨_, proper⟩, kept⟩ := field?_eq_ok.mp (formed field member)
  rw [congrArg Prod.snd kept]
  exact proper

/-- What has that form is taken again as it is. -/
theorem ofPairs_fields (formed : headers.Formed) : ofPairs headers.fields = .ok headers :=
  foldlM_append formed {}

end Formed

/-! ## What a listing lists -/

theorem mem_values_iff : value ∈ headers.values name ↔ (lowerName name, value) ∈ headers.fields := by
  simp [values]

namespace Formed

private theorem of_mem_names (formed : headers.Formed) (listed : name ∈ headers.names) :
    lowerName name = name ∧ isToken name = true := by
  rw [names, List.mem_mergeSort, List.mem_eraseDups, List.mem_map] at listed
  obtain ⟨field, member, rfl⟩ := listed
  obtain ⟨⟨token, _⟩, kept⟩ := field?_eq_ok.mp (formed field member)
  exact ⟨(congrArg Prod.fst kept).symm, token⟩

private theorem of_mem_listing (formed : headers.Formed) {field : String × String} (listed : field ∈ headers.listing) :
    lowerName field.1 = field.1 ∧ isToken field.1 = true ∧
      field.2 ∈ (⟨headers.listing⟩ : Headers).values field.1 := by
  have named : field.1 ∈ headers.names := by
    obtain ⟨own, ownMem, member⟩ := List.mem_flatMap.mp listed
    split_ifs at member
    · obtain ⟨value, _, rfl⟩ := List.mem_map.mp member
      exact ownMem
    · rw [List.mem_singleton.mp member]
      exact ownMem
  obtain ⟨same, token⟩ := formed.of_mem_names named
  refine ⟨same, token, mem_values_iff.mpr ?_⟩
  rw [same]
  exact listed

theorem copied (formed : headers.Formed) : headers.copied.Formed := by
  intro field member
  obtain ⟨origin, listed, rfl⟩ := List.mem_map.mp member
  obtain ⟨same, token, held⟩ := formed.of_mem_listing listed
  have proper : isValue origin.2 = true := by
    rw [values_listing] at held
    split_ifs at held
    · exact formed.writable (lowerName origin.1, origin.2) (mem_values_iff.mp held)
    · exact formed.writable.get? (Option.mem_toList.mp held)
  rw [field?_eq_ok, normalValue_normalValue, same]
  exact ⟨⟨token, isValue_normalValue proper⟩, rfl⟩

private theorem mem_of_mem_listing (formed : headers.Formed) {field : String × String}
    (listed : field ∈ headers.copied.listing) : field ∈ headers.copied.fields := by
  obtain ⟨same, _, held⟩ := formed.copied.of_mem_listing listed
  rw [values_listing_copied, mem_values_iff, same] at held
  exact held

end Formed

/-! ## Fields that are put in one after the other -/

/-- Of the fields of one name the last one is left. -/
theorem values_foldl_put (fields : List (String × String)) (name : String) :
    (fields.foldl put {}).values name = ((⟨fields⟩ : Headers).values name).getLast?.toList := by
  induction fields using List.reverseRecOn with
  | nil => rfl
  | append_singleton fields field ih =>
    have more : (⟨fields ++ [field]⟩ : Headers).values name = _ := values_concat ⟨fields⟩ field name
    rw [List.foldl_concat, put, values_concat, values_without, ih, more]
    split_ifs <;> simp

private theorem mem_foldl_put {fields : List (String × String)} {field : String × String}
    (member : field ∈ (fields.foldl put {}).fields) : field ∈ fields := by
  induction fields using List.reverseRecOn with
  | nil => exact member
  | append_singleton fields last ih =>
    rw [List.foldl_concat, put, List.mem_append] at member
    rcases member with old | new
    · exact List.mem_append_left _ (ih (List.mem_of_mem_filter old))
    · exact List.mem_append_right _ new

/-- The value that is set last is the only one. -/
theorem values_edit_of_set_last {earlier later : List HeaderEdit} {own : String}
    (ran : headers.edit (earlier ++ .set own value :: later) = .ok edited) (about : lowerName own = lowerName name)
    (apart : ∀ edit ∈ later, lowerName edit.name ≠ lowerName name) : edited.values name = [normalValue value] := by
  have keeps : HeaderEdit.Keeps later name := fun edit member _ => apart edit member
  have nothing : later.flatMap (·.given name) = [] :=
    List.flatMap_eq_nil_iff.mpr fun edit member => HeaderEdit.given_eq_nil (apart edit member)
  rw [values_edit_of_replaces ran rfl about keeps, nothing, List.append_nil, HeaderEdit.given, if_pos about]

end Headers

namespace Builder

open Headers (lowerName normalValue isToken isValue setCookie)

variable {builder : Builder} {headers : Headers} {name : String}

/-- The headers that a builder starts with are those of the copy, but of the cookies there is only the last. -/
theorem values_start (status : Option Number) (headers : Headers) (name : String) :
    (start status headers).headers.values name = (headers.copied.values name).getLast?.toList := by
  have gathered : (start status headers).headers = headers.copied.listing.foldl Headers.put {} := rfl
  rw [gathered, Headers.values_foldl_put, Headers.values_listing_copied]

private theorem formed_start (formed : headers.Formed) (status : Option Number) :
    (start status headers).headers.Formed := fun field member =>
  formed.copied field (formed.mem_of_mem_listing (Headers.mem_foldl_put member))

/-- The builder with each of some headers set, one after the other. -/
def withEach (builder : Builder) (calls : List (String × String)) : Except Violation Builder :=
  calls.foldlM (fun builder call => builder.header call.1 call.2) builder

private theorem withEach_eq_ok {calls : List (String × String)} {edited : Headers}
    (ran : builder.headers.edit (calls.map fun call => .set call.1 call.2) = .ok edited) :
    builder.withEach calls = .ok { builder with headers := edited } := by
  induction calls generalizing builder with
  | nil =>
    cases ran
    rfl
  | cons call calls ih =>
    rw [List.map_cons, Headers.edit_cons, bind_eq_ok] at ran
    obtain ⟨middle, set, ran⟩ := ran
    have first : builder.header call.1 call.2 = .ok { builder with headers := middle } :=
      bind_eq_ok.mpr ⟨middle, set, rfl⟩
    rw [withEach, List.foldlM_cons, bind_eq_ok]
    exact ⟨_, first, ih ran⟩

/-- A builder whose headers are formed is finished with just these headers. -/
theorem exists_build (formed : builder.headers.Formed) (status : builder.status = 200) (body : builder.body = none) :
    ∃ response, builder.build = .ok response ∧ response.status = 200 ∧ response.body = none ∧
      response.headers = builder.headers := by
  have octets : builder.headers.fields.all
      (fun pair => Headers.fitsOctets pair.1 && Headers.fitsOctets pair.2) = true := by
    refine List.all_eq_true.mpr fun field member => ?_
    obtain ⟨⟨token, _⟩, _⟩ := Headers.field?_eq_ok.mp (formed field member)
    have proper := formed.writable field member
    rw [isValue, Bool.and_eq_true] at proper
    rw [Headers.fitsOctets_of_isToken token, proper.1, Bool.and_self]
  have built : builder.build = .ok ⟨200, "", builder.headers, none, false, rfl⟩ := by
    rw [build, status, body, Response.make]
    dsimp only
    rw [octets, formed.ofPairs_fields]
    rfl
  exact ⟨_, built, rfl, rfl, rfl⟩

/-- What becomes of the headers that a builder is given. A response without a body can always be made of them and of
the values that are set afterwards. Under each name that was set it has the last value that was; under any other it
has what the given headers have, the values of the name in one, but of several cookies it has the last alone. -/
theorem headers_of_start {pairs : List (String × String)} (made : Headers.ofPairs pairs = .ok headers)
    {calls : List (String × String)}
    (proper : ∀ call ∈ calls, isToken call.1 = true ∧ isValue (normalValue call.2) = true) :
    ∃ builder response, (start none headers).withEach calls = .ok builder ∧
      ({ builder with body := none } : Builder).build = .ok response ∧ response.status = 200 ∧ response.body = none ∧
      ∀ name,
        (∀ earlier own value later, calls = earlier ++ (own, value) :: later → lowerName own = lowerName name →
          (∀ call ∈ later, lowerName call.1 ≠ lowerName name) →
            response.headers.values name = [normalValue value]) ∧
        ((∀ call ∈ calls, lowerName call.1 ≠ lowerName name) →
          response.headers.values name =
            if lowerName name = setCookie then (headers.values name).getLast?.toList
            else ((headers.get? name).map normalValue).toList) := by
  have formed : headers.Formed := .of_ofPairs made
  have edits : ∀ edit ∈ calls.map fun call => HeaderEdit.set call.1 call.2, edit.isProper = true := by
    intro edit member
    obtain ⟨call, callMem, rfl⟩ := List.mem_map.mp member
    rw [HeaderEdit.isProper, (proper call callMem).1, (proper call callMem).2, Bool.and_self]
  obtain ⟨edited, ran⟩ := Headers.exists_edit edits (start none headers).headers
  have kept : edited.Formed := (formed_start formed none).edit ran
  let builder : Builder := { start none headers with headers := edited }
  obtain ⟨response, built, status, body, same⟩ : ∃ response, builder.build = .ok response ∧ _ :=
    exists_build kept rfl rfl
  refine ⟨builder, response, withEach_eq_ok ran, built, status, body, fun name => ⟨?_, ?_⟩⟩
  · rintro earlier own value later rfl about behind
    rw [List.map_append, List.map_cons] at ran
    rw [same, Headers.values_edit_of_set_last ran about (List.forall_mem_map.mpr behind)]
  · intro apart
    rw [same, Headers.values_edit ran (List.forall_mem_map.mpr apart), values_start, Headers.values_copied,
      Headers.copiedValues_values]
    split_ifs
    · rw [formed.map_normalValue]
    · cases headers.get? name <;> rfl

/-- Headers with a name that is given twice, in different letter case, and two cookies. -/
def repeatedPairs : List (String × String) :=
  [("Vary", "Origin"), ("Set-Cookie", "a=1"), ("vary", " Accept "), ("X-Job", "j1"), ("Set-Cookie", "b=2")]

def repeatedHeaders : Headers :=
  ⟨[("vary", "Origin"), ("set-cookie", "a=1"), ("vary", "Accept"), ("x-job", "j1"), ("set-cookie", "b=2")]⟩

theorem headers_of_start_repeated : Headers.ofPairs repeatedPairs = .ok repeatedHeaders ∧
    (∀ call ∈ [("x-job", "j2"), ("X-JOB", "j3 ")],
      isToken call.1 = true ∧ isValue (normalValue call.2) = true) ∧
    ∃ builder response, (start none repeatedHeaders).withEach [("x-job", "j2"), ("X-JOB", "j3 ")] = .ok builder ∧
      ({ builder with body := none } : Builder).build = .ok response ∧
      response.headers.values "Vary" = ["Origin, Accept"] ∧ response.headers.values "X-Job" = ["j3"] ∧
      response.headers.values "Set-Cookie" = ["b=2"] := by
  have made : Headers.ofPairs repeatedPairs = .ok repeatedHeaders := by decide
  have proper : ∀ call ∈ [("x-job", "j2"), ("X-JOB", "j3 ")],
      isToken call.1 = true ∧ isValue (normalValue call.2) = true := by decide
  obtain ⟨builder, response, set, built, _, _, holds⟩ := headers_of_start made proper
  refine ⟨made, proper, builder, response, set, built, ?_, ?_, ?_⟩
  · rw [(holds "Vary").2 (by decide)]
    decide
  · rw [(holds "X-Job").1 [("x-job", "j2")] "X-JOB" "j3 " [] rfl (by decide) (by decide)]
    decide
  · rw [(holds "Set-Cookie").2 (by decide)]
    decide

/-- Of two cookies in the given headers the first is lost. -/
theorem not_headers_of_start_cookies : ∃ headers builder response,
    Headers.ofPairs [("Set-Cookie", "a=1"), ("Set-Cookie", "b=2")] = .ok headers ∧
      (start none headers).withEach [] = .ok builder ∧
      ({ builder with body := none } : Builder).build = .ok response ∧
      headers.values "Set-Cookie" = ["a=1", "b=2"] ∧ response.headers.values "Set-Cookie" = ["b=2"] := by
  obtain ⟨headers, made⟩ : ∃ headers, Headers.ofPairs [("Set-Cookie", "a=1"), ("Set-Cookie", "b=2")] = .ok headers :=
    ⟨_, rfl⟩
  have formed : headers.Formed := .of_ofPairs made
  obtain ⟨response, built, _, _, same⟩ := exists_build (formed_start formed none) rfl rfl
  refine ⟨headers, _, response, made, rfl, built, ?_, ?_⟩
  · cases made
    decide
  · rw [same, values_start, Headers.values_copied]
    cases made
    decide

end Builder

end HttpRouting

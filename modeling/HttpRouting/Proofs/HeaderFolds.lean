import HttpRouting.Middleware.Adjustments
import HttpRouting.Proofs.CrossOrigin

/-! # Several changes of one header

Changes of header fields are made one after the other, on many names in any order. For one name only its own
changes count: the last one that replaces its values leaves the value that it gives, and then come those that are
appended behind it; without one, the values that there were come first. A middleware that makes such changes leaves
everything else of a response as it is, but it makes them on a copy of the header fields, which is copied again.
-/

namespace HttpRouting

open Headers (lowerName normalValue copiedValues)

namespace HeaderEdit

/-- Whether a change takes away the values that its name has. -/
def replaces : HeaderEdit → Bool
  | .append _ _ => false
  | .set _ _ | .delete _ => true

/-- The values that a change gives to a name: its own value, if it is about the name. -/
def given (edit : HeaderEdit) (name : String) : List String :=
  match edit with
  | .set own value | .append own value => if lowerName own = lowerName name then [normalValue value] else []
  | .delete _ => []

theorem given_eq_nil {edit : HeaderEdit} {name : String} (differs : lowerName edit.name ≠ lowerName name) :
    edit.given name = [] := by
  cases edit with
  | set own value => exact if_neg differs
  | append own value => exact if_neg differs
  | delete own => rfl

/-- What one change makes of the values of a name. -/
theorem values_of_apply {headers edited : Headers} {edit : HeaderEdit} (applied : edit.apply headers = .ok edited)
    (name : String) :
    edited.values name =
      (if edit.replaces = true ∧ lowerName edit.name = lowerName name then [] else headers.values name) ++
        edit.given name := by
  cases edit with
  | set own value =>
    rw [Headers.values_set applied, given]
    by_cases same : lowerName own = lowerName name <;> simp [same, replaces, HeaderEdit.name]
  | append own value =>
    rw [Headers.values_append applied, given]
    simp [replaces]
  | delete own =>
    obtain ⟨_, rfl⟩ := Headers.delete_eq_ok.mp applied
    rw [Headers.values_without, given, List.append_nil]
    simp [replaces, HeaderEdit.name]

/-- Whether no change replaces the values of a name. -/
def Keeps (edits : List HeaderEdit) (name : String) : Prop :=
  ∀ edit ∈ edits, edit.replaces = true → lowerName edit.name ≠ lowerName name

instance (edits : List HeaderEdit) (name : String) : Decidable (Keeps edits name) :=
  inferInstanceAs (Decidable (∀ edit ∈ edits, _))

end HeaderEdit

open HeaderEdit (Keeps)

namespace Headers

variable {headers edited : Headers} {edits : List HeaderEdit} {name : String}

/-- Changes that keep the values of a name add to them what they give, in order. -/
theorem values_edit_of_keeps (ran : headers.edit edits = .ok edited) (keeps : Keeps edits name) :
    edited.values name = headers.values name ++ edits.flatMap (·.given name) := by
  induction edits generalizing headers with
  | nil =>
    cases ran
    simp
  | cons edit edits ih =>
    obtain ⟨here, later⟩ := List.forall_mem_cons.mp keeps
    rw [edit_cons, bind_eq_ok] at ran
    obtain ⟨middle, applied, ran⟩ := ran
    rw [ih ran later, HeaderEdit.values_of_apply applied, if_neg fun both => here both.1 both.2, List.flatMap_cons,
      List.append_assoc]

/-- The last change that replaces the values of a name leaves what it gives itself, and then what is given behind
it. -/
theorem values_edit_of_replaces {earlier later : List HeaderEdit} {last : HeaderEdit}
    (ran : headers.edit (earlier ++ last :: later) = .ok edited) (replaces : last.replaces = true)
    (about : lowerName last.name = lowerName name) (keeps : Keeps later name) :
    edited.values name = last.given name ++ later.flatMap (·.given name) := by
  rw [edit_append, bind_eq_ok] at ran
  obtain ⟨before, _, ran⟩ := ran
  rw [edit_cons, bind_eq_ok] at ran
  obtain ⟨middle, applied, ran⟩ := ran
  rw [values_edit_of_keeps ran keeps, HeaderEdit.values_of_apply applied, if_pos ⟨replaces, about⟩, List.nil_append]

end Headers

namespace Middleware

/-- A response that can be made again is passed on with its headers edited. -/
theorem exists_call_setHeader {edits : List HeaderEdit} (proper : ∀ edit ∈ edits, edit.isProper = true)
    {inner outer : Endpoint} (built : (setHeader edits).transform inner = .ok outer) {request : Request} {sites : Sites}
    {world final : World} {own : Response} (called : inner.call request sites world = (.ok own, final))
    (well : own.Proper) : ∃ edited, own.headers.copied.edit edits = .ok edited ∧
      outer.call request sites world = (.ok (own.remade edited), final) := by
  cases built
  obtain ⟨edited, ran⟩ := Headers.exists_edit proper own.headers.copied
  have made : own.withHeaders (·.edit edits) = .ok (own.remade edited) := Response.withHeaders_eq_ok well ran
  refine ⟨edited, ran, ?_⟩
  rw [Endpoint.call_after, called]
  dsimp only
  rw [made, run_tryCatch]
  rfl

/-- What a middleware that edits the header fields of responses answers. Where the endpoint answers with a response
whose body has not been used, so does the middleware, with the same status, status text and body. The values of a name
are a copy of those that it had and then the appended ones, if no change replaces them; of the value of the last change
that does and those that are appended behind it, if one does; and of those that it had, if no change is about it. -/
theorem setHeader_answers {edits : List HeaderEdit} (proper : ∀ edit ∈ edits, edit.isProper = true)
    (inner : Endpoint) :
    ∃ outer, (setHeader edits).transform inner = .ok outer ∧
      ∀ request sites world own final, inner.call request sites world = (.ok own, final) → own.Proper →
        ∃ answer, outer.call request sites world = (.ok answer, final) ∧ answer.status = own.status ∧
          answer.statusText = own.statusText ∧ answer.body = own.body ∧
          ∀ name, (Keeps edits name → answer.headers.values name =
              copiedValues name (copiedValues name (own.headers.values name) ++ edits.flatMap (·.given name))) ∧
            (∀ earlier last later, edits = earlier ++ last :: later → last.replaces = true →
              lowerName last.name = lowerName name → Keeps later name →
              answer.headers.values name = copiedValues name (last.given name ++ later.flatMap (·.given name))) ∧
            ((∀ edit ∈ edits, lowerName edit.name ≠ lowerName name) →
              answer.headers.values name = copiedValues name (own.headers.values name)) := by
  refine ⟨_, rfl, fun request sites world own final called well => ?_⟩
  obtain ⟨edited, ran, answered⟩ := exists_call_setHeader proper rfl called well
  have values (name : String) : (own.remade edited).headers.values name = copiedValues name (edited.values name) :=
    Headers.values_copied edited name
  refine ⟨own.remade edited, answered, rfl, rfl, rfl, fun name => ⟨?_, ?_, ?_⟩⟩
  · intro keeps
    rw [values, Headers.values_edit_of_keeps ran keeps, Headers.values_copied]
  · rintro earlier last later rfl replaces about keeps
    rw [values, Headers.values_edit_of_replaces ran replaces about keeps]
  · intro apart
    rw [values, Headers.values_edit ran apart, Headers.values_copied, Headers.copiedValues_copiedValues]

/-- An endpoint that answers with two cookies and some other fields. -/
def cookieEndpoint : Endpoint :=
  steady.after fun response => return { response with headers :=
    ⟨[("set-cookie", "a=1"), ("x-frame", "old"), ("cache-control", "private"), ("set-cookie", "b=2")]⟩ }

/-- Changes of two names, in any letter case, of which one is replaced twice. -/
def frameEdits : List HeaderEdit :=
  [.append "x-frame" "lost", .set "X-Frame" "lost too", .append "Cache-Control" " no-store ", .set "x-FRAME" "DENY",
    .append "X-Frame" "last"]

theorem setHeader_answers_cookies : (∀ edit ∈ frameEdits, edit.isProper = true) ∧
    ∃ outer, (setHeader frameEdits).transform cookieEndpoint = .ok outer ∧ ∀ request sites world,
      ∃ own answer, cookieEndpoint.call request sites world = (.ok own, world) ∧ own.Proper ∧
        outer.call request sites world = (.ok answer, world) ∧
        answer.headers.values "X-Frame" = ["DENY, last"] ∧
        answer.headers.values "Cache-Control" = ["private, no-store"] ∧
        answer.headers.values "Set-Cookie" = ["a=1", "b=2"] := by
  have proper : ∀ edit ∈ frameEdits, edit.isProper = true := by decide
  obtain ⟨outer, built, answers⟩ := setHeader_answers proper cookieEndpoint
  refine ⟨proper, outer, built, fun request sites world => ?_⟩
  obtain ⟨answer, called, _, _, _, folds⟩ := answers request sites world _ world rfl (by decide)
  refine ⟨_, answer, rfl, by decide, called, ?_, ?_, ?_⟩
  · rw [(folds "X-Frame").2.1 (frameEdits.take 3) (.set "x-FRAME" "DENY") [.append "X-Frame" "last"] rfl rfl (by decide)
      (by decide)]
    decide
  · rw [(folds "Cache-Control").1 (by decide)]
    decide
  · rw [(folds "Set-Cookie").2.2 (by decide)]
    decide

/-- What is appended behind other values is lost if it is empty, since the copy of the headers drops the blank that it
leaves; so is an empty value of a field that no change is about. An answer whose body has been used is not passed
on. -/
theorem setHeader_answers_else :
    (∀ edit ∈ [HeaderEdit.append "X-B" "b", .append "X-B" ""], edit.isProper = true) ∧
    (∃ outer, (setHeader [.append "X-B" "b", .append "X-B" ""]).transform Endpoint.repeating = .ok outer ∧
      ∀ request sites world, ∃ own answer, Endpoint.repeating.call request sites world = (.ok own, world) ∧
        own.Proper ∧ own.headers.get? "X-A" = some "a, " ∧
        outer.call request sites world = (.ok answer, world) ∧
        answer.headers.get? "X-A" = some "a," ∧ answer.headers.get? "X-B" = some "b,") ∧
    ∃ outer, (setHeader [.append "X-B" "b", .append "X-B" ""]).transform readEndpoint = .ok outer ∧
      ∀ request sites world, ∃ own answer final, readEndpoint.call request sites world = (.ok own, world) ∧
        own.status = 200 ∧ outer.call request sites world = (.ok answer, final) ∧ answer.status = 500 := by
  have proper : ∀ edit ∈ [HeaderEdit.append "X-B" "b", .append "X-B" ""], edit.isProper = true := by decide
  refine ⟨proper, ⟨_, rfl, fun request sites world => ?_⟩, _, rfl,
    fun request sites world => ⟨_, _, _, rfl, rfl, rfl, rfl⟩⟩
  obtain ⟨own, called, status, unused, held⟩ := Endpoint.call_repeating request sites world
  have well := Response.proper_of_notFound status unused
  obtain ⟨edited, ran, answered⟩ := exists_call_setHeader proper rfl called well
  rw [held] at ran
  have keeps (name : String) : Keeps [.append "X-B" "b", .append "X-B" ""] name := by
    simp [Keeps, HeaderEdit.replaces]
  have values (name : String) : edited.copied.values name = copiedValues name (copiedValues name
      (Headers.values ⟨[("x-a", "a"), ("x-a", "")]⟩ name) ++
        [HeaderEdit.append "X-B" "b", .append "X-B" ""].flatMap (·.given name)) := by
    rw [Headers.values_copied, Headers.values_edit_of_keeps ran (keeps name), Headers.values_copied]
  refine ⟨own, own.remade edited, called, well, ?_, answered, ?_, ?_⟩
  · rw [held]
    decide
  · exact Headers.get?_of_singleton ((values "X-A").trans (by decide))
  · exact Headers.get?_of_singleton ((values "X-B").trans (by decide))

end Middleware

end HttpRouting

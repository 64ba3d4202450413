import HttpRouting.Proofs.AllowedMethods
import HttpRouting.Proofs.Conflicts
import HttpRouting.Proofs.HeadAsGet
import HttpRouting.Route.ServingTable

/-! # Method tables over whole runs

Endpoints are bound to a table and it is asked for methods, in any order. What a run has bound is the list of the
calls that were accepted, and everything that the table tells is said here by that list alone: no answer depends on
what was asked before, though asking makes the table keep an endpoint for `HEAD`. That endpoint stays the right one
since what is bound to `GET` is never replaced.
-/

namespace HttpRouting

namespace MethodTable

variable {ε : Type} {table after : MethodTable ε} {selector : Selector} {endpoint : ε} {pattern : String}

def own? (table : MethodTable ε) : Selector → Option ε
  | .any => table.catchAll
  | .only method => table.bound? method

private theorem mem_selectors_iff : selector ∈ table.selectors ↔ (table.own? selector).isSome := by
  cases selector with
  | any => exact mem_selectors_any
  | only method =>
    rw [mem_selectors_only, ← binds_iff]
    rfl

private theorem own?_of_free (free : table.conflicts selector = []) : table.own? selector = none := by
  rw [← Option.not_isSome_iff_eq_none, ← mem_selectors_iff]
  exact fun taken => conflicts_eq_nil_iff.mp free selector taken (.inl rfl)

theorem isOk_set : (table.set selector endpoint pattern).isOk = true ↔ table.conflicts selector = [] := by
  simp only [MethodTable.set]
  split
  · rename_i free
    cases selector <;> simp [free]
  · rename_i taken
    simpa using taken

/-- Binding an endpoint gives it to its selector, and leaves the others what they had. -/
theorem own?_of_set (bound : table.set selector endpoint pattern = .ok after) (other : Selector) :
    after.own? other = if other = selector then some endpoint else table.own? other := by
  have free := isOk_set.mp (isOk_iff_exists.mpr ⟨after, bound⟩)
  simp only [MethodTable.set, free] at bound
  cases selector with
  | any =>
    cases bound
    cases other <;> rfl
  | only method =>
    cases bound
    cases other with
    | any => rfl
    | only other =>
      have unbound : table.bound.lookup method = none := own?_of_free free
      simp only [own?, bound?, List.lookup_append, Selector.only.injEq]
      by_cases same : other = method
      · simp [same, unbound]
      · simp [same, List.lookup_cons, beq_false_of_ne same]

/-- The methods told are those that are answered, in canonical order. -/
theorem allowed_eq_filter (headOf : ε → ε) (table : MethodTable ε) :
    table.allowed = Method.all.filter fun method => (table.get? headOf method.name).isSome := by
  rw [allowed]
  split_ifs with every
  · refine (List.filter_eq_self.mpr fun method _ => ?_).symm
    exact (isSome_get?_iff headOf method.parse?_name).mpr (mem_allowed.mpr (.inl every))
  · refine List.filter_congr fun method _ => ?_
    rw [Bool.eq_iff_iff, isSome_get?_iff headOf method.parse?_name, mem_allowed]
    simp [every]

/-- Whether tables overlap does not depend on which of them is asked. -/
theorem overlap_comm {other : MethodTable ε} : table.overlap other = [] ↔ other.overlap table = [] := by
  rw [overlap_eq_nil_iff_not_collides, overlap_eq_nil_iff_not_collides]
  exact not_congr ⟨Collides.symm, Collides.symm⟩

end MethodTable

namespace ServingTable

variable {ε : Type} {headOf : ε → ε} {serving : ServingTable ε}

/-- Whether what was made to answer `HEAD` is made of what is bound to `GET` now. -/
def Current (headOf : ε → ε) (serving : ServingTable ε) : Prop :=
  ∀ made, serving.madeHead = some made → (serving.table.bound? .get).map headOf = some made

/-- Asking answers by what is bound, leaves that as it is, and keeps what was made current. -/
theorem Current.get (current : serving.Current headOf) (text : String) :
    (serving.get headOf text).1 = serving.table.get? headOf text ∧
      (serving.get headOf text).2.table = serving.table ∧ (serving.get headOf text).2.Current headOf := by
  rw [ServingTable.get, MethodTable.get?]
  cases ((Method.parse? text).bind serving.table.bound?).orElse fun _ => serving.table.catchAll with
  | some endpoint => exact ⟨rfl, rfl, current⟩
  | none =>
    dsimp only
    split_ifs with head
    · rw [headFromGet]
      cases kept : serving.madeHead with
      | some made => exact ⟨(current made kept).symm, rfl, current⟩
      | none =>
        cases bound : serving.table.bound? .get with
        | none => exact ⟨rfl, rfl, current⟩
        | some endpoint =>
          refine ⟨rfl, rfl, fun made same => ?_⟩
          change (serving.table.bound? .get).map headOf = some made
          rw [bound]
          exact same
    · exact ⟨rfl, rfl, current⟩

/-- What a table does with a binding: it takes it on, or it is left as it was. -/
theorem set_cases (serving : ServingTable ε) (selector : Selector) (endpoint : ε) (pattern : String) :
    (∃ table, serving.table.set selector endpoint pattern = .ok table ∧
      serving.set selector endpoint pattern = (.ok (), { serving with table })) ∨
    ∃ error, serving.table.set selector endpoint pattern = .error error ∧
      serving.set selector endpoint pattern = (.error error, serving) := by
  rw [ServingTable.set]
  cases serving.table.set selector endpoint pattern with
  | ok table => exact .inl ⟨table, rfl, rfl⟩
  | error error => exact .inr ⟨error, rfl, rfl⟩

private theorem isOk_set (serving : ServingTable ε) (selector : Selector) (endpoint : ε) (pattern : String) :
    (serving.set selector endpoint pattern).1.isOk = true ↔ serving.table.conflicts selector = [] := by
  rw [← MethodTable.isOk_set]
  obtain ⟨table, bound, done⟩ | ⟨error, refused, done⟩ := set_cases serving selector endpoint pattern
  · rw [bound, done, isOk_ok, isOk_ok]
  · rw [refused, done, isOk_error, isOk_error]

end ServingTable

/-- A call to a method table. -/
inductive TableCall (ε : Type) where
  | set (selector : Selector) (endpoint : ε) (pattern : String)
  | get (text : String)

namespace ServingTable

variable {ε : Type} {headOf : ε → ε} {state : ServingTable ε × List (Selector × ε)}

/-- One call of several: the table after it, and what was bound so far. -/
def follow (headOf : ε → ε) (state : ServingTable ε × List (Selector × ε)) :
    TableCall ε → ServingTable ε × List (Selector × ε)
  | .set selector endpoint pattern =>
    let bound := state.1.set selector endpoint pattern
    (bound.2, if bound.1.isOk then state.2 ++ [(selector, endpoint)] else state.2)
  | .get text => ((state.1.get headOf text).2, state.2)

/-- The table after some calls to a fresh one, and what those that it accepted have bound. -/
def run (headOf : ε → ε) (calls : List (TableCall ε)) : ServingTable ε × List (Selector × ε) :=
  calls.foldl (follow headOf) ({}, [])

/-- What every call keeps true of a table and of what was bound: the table gives each selector what was bound to
it, once, with `*` alone, and what it has made to answer `HEAD` is current. -/
structure Sound (headOf : ε → ε) (state : ServingTable ε × List (Selector × ε)) : Prop where
  lawful : state.1.table.Lawful
  current : state.1.Current headOf
  unique : (state.2.map (·.1)).Nodup
  mem_iff : ∀ selector endpoint, (selector, endpoint) ∈ state.2 ↔ state.1.table.own? selector = some endpoint

private theorem sound_start : Sound headOf ({}, []) where
  lawful := MethodTable.lawful_empty
  current := fun _ => by rintro ⟨⟩
  unique := List.nodup_nil
  mem_iff := fun selector _ => by cases selector <;> simp [MethodTable.own?, MethodTable.bound?]

/-- Each call keeps a table sound: one that binds, one that is refused and one that asks. -/
theorem Sound.follow (sound : Sound headOf state) (call : TableCall ε) : Sound headOf (follow headOf state call) := by
  obtain ⟨serving, held⟩ := state
  obtain ⟨lawful, current, unique, mem_iff⟩ := sound
  cases call with
  | get text =>
    obtain ⟨_, same, kept⟩ := current.get text
    exact ⟨same ▸ lawful, kept, unique, fun selector endpoint => same ▸ mem_iff selector endpoint⟩
  | set selector endpoint pattern =>
    rw [ServingTable.follow]
    obtain ⟨table, bound, done⟩ | ⟨error, _, done⟩ := set_cases serving selector endpoint pattern
    · have free := MethodTable.own?_of_free (MethodTable.isOk_set.mp (isOk_iff_exists.mpr ⟨table, bound⟩))
      have fresh (other : ε) : (selector, other) ∉ held := by simp [mem_iff, free]
      have owns := MethodTable.own?_of_set bound
      simp only [done, isOk_ok, if_true]
      refine ⟨(lawful.set bound).1, fun made kept => ?_, ?_, fun other given => ?_⟩
      · -- something was bound to `GET` when this was made, so `GET` is not what is bound now
        have made := current made kept
        have differs : Selector.only .get ≠ selector := by
          rintro rfl
          rw [show serving.table.bound? .get = none from free] at made
          cases made
        have same : table.bound? .get = serving.table.bound? .get := (owns (.only .get)).trans (if_neg differs)
        rwa [same]
      · rw [List.map_append, List.map_singleton, ← List.concat_eq_append]
        refine unique.concat fun member => ?_
        obtain ⟨⟨_, other⟩, pairMem, rfl⟩ := List.mem_map.mp member
        exact fresh other pairMem
      · rw [owns, List.mem_append, List.mem_singleton, Prod.mk.injEq, mem_iff]
        by_cases same : other = selector
        · subst same
          simp [free, eq_comm]
        · simp [same]
    · simp only [done]
      exact ⟨lawful, current, unique, mem_iff⟩

private theorem sound_run (headOf : ε → ε) (calls : List (TableCall ε)) : Sound headOf (run headOf calls) := by
  refine List.foldlRecOn (motive := Sound headOf) calls (ServingTable.follow headOf) sound_start ?_
  intro state sound call _
  exact sound.follow call

/-- Which endpoint answers a method text, by what was bound: the one bound to the method that the text means, else
the one bound to `*`, else, for `HEAD`, the one bound to `GET` with its body dropped. -/
inductive Answers (headOf : ε → ε) (held : List (Selector × ε)) (text : String) : Option ε → Prop
  | own {method : Method} {endpoint : ε} (parsed : Method.parse? text = some method)
      (bound : (.only method, endpoint) ∈ held) : Answers headOf held text (some endpoint)
  | every {endpoint : ε}
      (unbound : ∀ method, Method.parse? text = some method → ∀ other, (.only method, other) ∉ held)
      (bound : (.any, endpoint) ∈ held) : Answers headOf held text (some endpoint)
  | head {endpoint : ε} (parsed : Method.parse? text = some .head) (unbound : ∀ other, (.only .head, other) ∉ held)
      (without : ∀ other, (.any, other) ∉ held) (bound : (.only .get, endpoint) ∈ held) :
      Answers headOf held text (some (headOf endpoint))
  | none (unbound : ∀ method, Method.parse? text = some method → ∀ other, (.only method, other) ∉ held)
      (without : ∀ other, (.any, other) ∉ held)
      (bare : Method.parse? text = some .head → ∀ other, (.only .get, other) ∉ held) : Answers headOf held text none

theorem Sound.not_mem (sound : Sound headOf state) (selector : Selector)
    (unbound : state.1.table.own? selector = none) (other : ε) : (selector, other) ∉ state.2 := by
  rw [sound.mem_iff, unbound]
  exact (Option.some_ne_none other).symm

theorem Sound.answers (sound : Sound headOf state) (text : String) :
    Answers headOf state.2 text (state.1.get headOf text).1 := by
  rw [(sound.current.get text).1, MethodTable.get?]
  cases own : (Method.parse? text).bind state.1.table.bound? with
  | some endpoint =>
    obtain ⟨method, parsed, bound⟩ := Option.bind_eq_some_iff.mp own
    exact .own parsed ((sound.mem_iff (.only method) endpoint).mpr bound)
  | none =>
    have unbound : ∀ method, Method.parse? text = some method → ∀ other, (.only method, other) ∉ state.2 := by
      intro method parsed
      rw [parsed, Option.bind_some] at own
      exact sound.not_mem (.only method) own
    rw [Option.orElse_none]
    cases every : state.1.table.catchAll with
    | some endpoint => exact .every unbound ((sound.mem_iff .any endpoint).mpr every)
    | none =>
      have without : ∀ other, (.any, other) ∉ state.2 := sound.not_mem .any every
      dsimp only
      split_ifs with head
      · cases get : state.1.table.bound? .get with
        | some endpoint =>
          exact .head head (unbound .head head) without ((sound.mem_iff (.only .get) endpoint).mpr get)
        | none => exact .none unbound without fun _ => sound.not_mem (.only .get) get
      · exact .none unbound without fun isHead => absurd isHead head

/-- What is bound to `*` is all that is bound. -/
theorem Sound.alone (sound : Sound headOf state) {endpoint : ε} (every : (.any, endpoint) ∈ state.2) :
    state.2 = [(.any, endpoint)] := by
  have held := (sound.mem_iff .any endpoint).mp every
  have unbound : state.1.table.bound = [] := sound.lawful.alone (by rw [← MethodTable.own?, held]; rfl)
  have same : ∀ pair ∈ state.2, pair = (.any, endpoint) := by
    rintro ⟨selector, other⟩ member
    have owns := (sound.mem_iff selector other).mp member
    cases selector with
    | any => rw [Option.some.inj (owns.symm.trans held)]
    | only method =>
      rw [MethodTable.own?, MethodTable.bound?, unbound] at owns
      cases owns
  have unique := sound.unique
  rw [List.eq_replicate_of_mem same, List.map_replicate, List.nodup_replicate] at unique
  have some := List.length_pos_of_mem every
  obtain ⟨pair, single⟩ : ∃ pair, state.2 = [pair] := List.length_eq_one_iff.mp (by omega)
  rw [single, same pair (by simp [single])]

theorem Sound.mem_selectors_iff (sound : Sound headOf state) {selector : Selector} :
    selector ∈ state.1.table.selectors ↔ ∃ endpoint, (selector, endpoint) ∈ state.2 := by
  rw [MethodTable.mem_selectors_iff, Option.isSome_iff_exists]
  simp only [sound.mem_iff]

/-- Method tables over whole runs of bindings and questions, in any order. A refused binding changes nothing, and
one is refused exactly when its selector collides with one that is bound. No selector is bound twice, and `*` is bound
alone. A method text is answered by what was bound, whatever was asked before; and what answers `HEAD` for `GET`
drops the body of its answers. The methods told are those that are answered. And whether two tables overlap does not
depend on which of them is asked: they do not exactly when every selector of the one could be bound to the other. -/
theorem run_spec (calls : List (TableCall Endpoint)) :
    let serving := (run Endpoint.headOf calls).1
    let held := (run Endpoint.headOf calls).2
    (∀ selector endpoint pattern,
      ((serving.set selector endpoint pattern).1.isOk = false → (serving.set selector endpoint pattern).2 = serving) ∧
      ((serving.set selector endpoint pattern).1.isOk = false ↔ ∃ taken ∈ held, taken.1.Collides selector)) ∧
    (held.map (·.1)).Nodup ∧ (∀ endpoint, (.any, endpoint) ∈ held → held = [(.any, endpoint)]) ∧
    (∀ selector, selector ∈ serving.table.selectors ↔ ∃ endpoint, (selector, endpoint) ∈ held) ∧
    (∀ text, Answers Endpoint.headOf held text (serving.get Endpoint.headOf text).1) ∧
    (∀ endpoint, (.only .get, endpoint) ∈ held → endpoint.headOf.DropsBodyOf endpoint) ∧
    serving.table.allowed = Method.all.filter (fun method => (serving.get Endpoint.headOf method.name).1.isSome) ∧
    ∀ calls' : List (TableCall Endpoint),
      let other := (run Endpoint.headOf calls').1
      (serving.table.overlap other.table = [] ↔ other.table.overlap serving.table = []) ∧
        (serving.table.overlap other.table = [] ↔ ∀ selector ∈ other.table.selectors, ∀ endpoint pattern,
          (serving.set selector endpoint pattern).1.isOk = true) := by
  intro serving held
  have sound : Sound Endpoint.headOf (serving, held) := sound_run Endpoint.headOf calls
  refine ⟨fun selector endpoint pattern => ⟨fun refused => ?_, ?_⟩, sound.unique, fun endpoint => sound.alone,
    fun selector => sound.mem_selectors_iff, sound.answers, fun endpoint _ => endpoint.dropsBodyOf_headOf, ?_,
    fun calls' => ⟨MethodTable.overlap_comm, ?_⟩⟩
  · obtain ⟨table, _, done⟩ | ⟨error, _, done⟩ := set_cases serving selector endpoint pattern
    · rw [done, isOk_ok] at refused
      cases refused
    · rw [done]
  · rw [← Bool.not_eq_true, isOk_set, MethodTable.conflicts_eq_nil_iff]
    simp only [sound.mem_selectors_iff, not_forall, Classical.not_not]
    constructor
    · rintro ⟨taken, ⟨bound, member⟩, collides⟩
      exact ⟨(taken, bound), member, collides⟩
    · rintro ⟨⟨taken, bound⟩, member, collides⟩
      exact ⟨taken, ⟨bound, member⟩, collides⟩
  · rw [MethodTable.allowed_eq_filter Endpoint.headOf]
    exact List.filter_congr fun method _ => by rw [(sound.current.get _).1]
  · rw [MethodTable.overlap, List.flatMap_eq_nil_iff]
    simp only [isOk_set]
    exact forall₂_congr fun selector _ => ⟨fun free _ _ => free, fun free => free .notFound ""⟩

end ServingTable

end HttpRouting

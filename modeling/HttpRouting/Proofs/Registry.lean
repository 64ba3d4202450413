import HttpRouting.Proofs.Lists
import HttpRouting.Proofs.Outcomes
import HttpRouting.Proofs.ShapeNodes
import HttpRouting.Route.Admission
import Mathlib.Data.List.Range

/-! # What an index holds

A batch of routes is added exactly when its names are new and different and none of its routes shares a
shape and a method with another one; then its routes stand at the end, numbered by their places.
`RouteIndex.Sound` collects what this keeps true of an index, whatever is added to it.
-/

namespace HttpRouting

namespace MethodTable

variable {ε δ : Type}

/-- A table as binding endpoints one by one makes it: no method is bound twice, and the catch-all stands
alone. -/
structure Lawful (table : MethodTable ε) : Prop where
  unique : (table.bound.map (·.1)).Nodup
  alone : table.catchAll.isSome → table.bound = []

theorem lawful_empty : (empty : MethodTable ε).Lawful :=
  ⟨List.nodup_nil, fun _ => rfl⟩

theorem binds_iff {table : MethodTable ε} {method : Method} :
    table.binds method = true ↔ method ∈ table.bound.map (·.1) := by
  rw [binds, bound?, ← not_iff_not, Bool.not_eq_true, Option.isSome_eq_false_iff, Option.isNone_iff_eq_none,
    List.lookup_eq_none_iff]
  constructor
  · rintro absent member
    obtain ⟨pair, pairMem, rfl⟩ := List.mem_map.mp member
    simpa using absent pair pairMem
  · intro absent pair pairMem
    simpa using fun same : method = pair.1 => absent (same ▸ List.mem_map_of_mem pairMem)

theorem conflicts_any_eq_nil {table : MethodTable ε} :
    table.conflicts .any = [] ↔ table.isEmpty = true := by
  rw [conflicts, isEmpty]
  cases table.catchAll <;> simp

theorem conflicts_only_eq_nil {table : MethodTable ε} {method : Method} :
    table.conflicts (.only method) = [] ↔ table.catchAll = none ∧ method ∉ table.bound.map (·.1) := by
  rw [conflicts, ← binds_iff]
  cases table.catchAll <;> simp

/-- Binding an endpoint keeps a table lawful and makes it answer something. -/
theorem Lawful.set {table after : MethodTable ε} (lawful : table.Lawful) {selector : Selector}
    {endpoint : ε} {source : String} (bound : table.set selector endpoint source = .ok after) :
    after.Lawful ∧ after.isEmpty = false := by
  simp only [MethodTable.set] at bound
  split at bound
  · rename_i free
    cases selector with
    | any =>
      cases bound
      have none := conflicts_any_eq_nil.mp free
      rw [isEmpty, Bool.and_eq_true, List.isEmpty_iff] at none
      exact ⟨⟨lawful.unique, fun _ => none.1⟩, by simp [isEmpty]⟩
    | only method =>
      cases bound
      obtain ⟨open?, fresh⟩ := conflicts_only_eq_nil.mp free
      refine ⟨⟨?_, ?_⟩, by simp [isEmpty]⟩
      · rw [List.map_append, List.map_singleton, ← List.concat_eq_append]
        exact lawful.unique.concat fresh
      · intro taken
        rw [open?] at taken
        cases taken
  · cases bound

/-- Changing the endpoints of a table by a computation leaves its selectors as they are. -/
theorem mapM_ok {change : ε → Except Fault δ} {table : MethodTable ε} {after : MethodTable δ}
    (changed : table.mapM change = .ok after) :
    after.bound.map (·.1) = table.bound.map (·.1) ∧ after.catchAll.isSome = table.catchAll.isSome := by
  obtain ⟨bound, boundOk, rest⟩ := bind_eq_ok.mp changed
  have keys : bound.map (·.1) = table.bound.map (·.1) := by
    refine map_eq_of_forall₂ ((mapM_eq_ok.mp boundOk).imp fun pair result head => ?_)
    obtain ⟨endpoint, _, same⟩ := bind_eq_ok.mp head
    rw [← pure_eq_ok.mp same]
  split at rest
  · rename_i none
    cases pure_eq_ok.mp rest
    exact ⟨keys, by rw [none]; rfl⟩
  · rename_i endpoint some
    obtain ⟨catchAll, _, same⟩ := bind_eq_ok.mp rest
    cases pure_eq_ok.mp same
    exact ⟨keys, by rw [some]; rfl⟩

/-- A computation that gives every endpoint back gives the table back. -/
theorem mapM_eq_self {change : ε → Except Fault ε} (same : ∀ endpoint, change endpoint = .ok endpoint)
    (table : MethodTable ε) : table.mapM change = .ok table := by
  have bound : (table.bound.mapM fun pair => do return (pair.1, ← change pair.2)) = .ok table.bound := by
    refine mapM_eq_ok.mpr (List.forall₂_same.mpr fun pair _ => ?_)
    rw [same]
    rfl
  rw [MethodTable.mapM, bound]
  obtain ⟨_, catchAll⟩ := table
  cases catchAll with
  | none => rfl
  | some endpoint =>
    change (change endpoint >>= _) = _
    rw [same]
    rfl

theorem isEmpty_eq_false_iff {table : MethodTable ε} :
    table.isEmpty = false ↔ table.bound.map (·.1) ≠ [] ∨ table.catchAll.isSome := by
  rw [isEmpty]
  cases table.catchAll <;> simp

theorem Lawful.mapM {change : ε → Except Fault δ} {table : MethodTable ε} {after : MethodTable δ}
    (lawful : table.Lawful) (changed : table.mapM change = .ok after) : after.Lawful := by
  obtain ⟨keys, catchAll⟩ := mapM_ok changed
  refine ⟨keys ▸ lawful.unique, fun taken => ?_⟩
  have none := lawful.alone (catchAll ▸ taken)
  rw [none, List.map_nil, List.map_eq_nil_iff] at keys
  exact keys

theorem isEmpty_mapM {change : ε → Except Fault δ} {table : MethodTable ε} {after : MethodTable δ}
    (changed : table.mapM change = .ok after) (answers : table.isEmpty = false) :
    after.isEmpty = false := by
  obtain ⟨keys, catchAll⟩ := mapM_ok changed
  rwa [isEmpty_eq_false_iff, keys, catchAll, ← isEmpty_eq_false_iff]

/-- A table that binds something answers some method. -/
theorem allowed_ne_nil {table : MethodTable ε} (answers : table.isEmpty = false) :
    table.allowed ≠ [] := by
  rw [allowed]
  split_ifs with taken
  · simp [Method.all]
  · rcases isEmpty_eq_false_iff.mp answers with bound | taken'
    · obtain ⟨method, member⟩ := List.exists_mem_of_ne_nil _ bound
      refine List.ne_nil_of_mem (List.mem_filter.mpr ⟨Method.mem_all method, ?_⟩)
      rw [binds_iff.mpr member, Bool.true_or]
    · exact (taken taken').elim

theorem mem_selectors_only {table : MethodTable ε} {method : Method} :
    .only method ∈ table.selectors ↔ method ∈ table.bound.map (·.1) := by
  rw [← binds_iff, selectors]
  split_ifs <;> simp [Method.mem_all]

theorem mem_selectors_any {table : MethodTable ε} :
    .any ∈ table.selectors ↔ table.catchAll.isSome := by
  rw [selectors]
  split_ifs with taken <;> simp [taken]

/-- Tables without a common selector, where the catch-all has every selector in common with any table. -/
structure Apart (table : MethodTable ε) (other : MethodTable δ) : Prop where
  left : table.catchAll = none
  right : other.catchAll = none
  disjoint : ∀ method ∈ table.bound.map (·.1), method ∉ other.bound.map (·.1)

theorem Apart.symm {table : MethodTable ε} {other : MethodTable δ} (apart : table.Apart other) :
    other.Apart table :=
  ⟨apart.right, apart.left, fun method member here => apart.disjoint method here member⟩

theorem Apart.mapM {change : ε → Except Fault ε} {table other table' other' : MethodTable ε}
    (apart : table.Apart other) (changed : table.mapM change = .ok table')
    (changed' : other.mapM change = .ok other') : table'.Apart other' := by
  obtain ⟨keys, catchAll⟩ := mapM_ok changed
  obtain ⟨keys', catchAll'⟩ := mapM_ok changed'
  rw [apart.left] at catchAll
  rw [apart.right] at catchAll'
  refine ⟨by simpa using catchAll, by simpa using catchAll', ?_⟩
  rw [keys, keys']
  exact apart.disjoint

/-- Tables that answer something overlap unless they are apart. -/
theorem overlap_eq_nil_iff {table : MethodTable ε} {other : MethodTable δ}
    (answers : table.isEmpty = false) (answers' : other.isEmpty = false) :
    table.overlap other = [] ↔ table.Apart other := by
  rw [overlap, List.flatMap_eq_nil_iff]
  constructor
  · intro free
    have right : other.catchAll = none := by
      by_contra taken
      have empty := conflicts_any_eq_nil.mp
        (free .any (mem_selectors_any.mpr (Option.isSome_iff_ne_none.mpr taken)))
      rw [empty] at answers
      cases answers
    have only : ∀ method ∈ other.bound.map (·.1),
        table.catchAll = none ∧ method ∉ table.bound.map (·.1) :=
      fun method member => conflicts_only_eq_nil.mp (free (.only method) (mem_selectors_only.mpr member))
    have bound : other.bound.map (·.1) ≠ [] := by
      rcases isEmpty_eq_false_iff.mp answers' with bound | taken
      · exact bound
      · rw [right] at taken
        cases taken
    obtain ⟨method, member⟩ := List.exists_mem_of_ne_nil _ bound
    exact ⟨(only method member).1, right, fun method here there => (only method there).2 here⟩
  · rintro ⟨left, right, disjoint⟩ selector member
    cases selector with
    | any =>
      rw [mem_selectors_any, right] at member
      cases member
    | only method =>
      exact conflicts_only_eq_nil.mpr
        ⟨left, fun here => disjoint method here (mem_selectors_only.mp member)⟩

end MethodTable

/-- A route without its number. -/
def Route.unordered {ε : Type} (route : Route ε) : Route ε :=
  { route with order := 0 }

namespace RouteIndex

variable {ε : Type}

/-- Whether two routes of one index may stand side by side: those of one shape have no method in
common. -/
def Compatible (index : RouteIndex ε) (route other : Route ε) : Prop :=
  index.shapeOf route.pattern = index.shapeOf other.pattern → route.methods.Apart other.methods

theorem Compatible.symm {index : RouteIndex ε} {route other : Route ε}
    (compatible : index.Compatible route other) : index.Compatible other route :=
  fun same => (compatible same.symm).symm

private theorem refusal?_eq_none {route other : Route ε} :
    refusal? route other = none ↔ other.methods.overlap route.methods = [] := by
  cases shared : other.methods.overlap route.methods <;> simp [refusal?, shared]

/-- Whether a route lets another one stand behind it: with its shape, that one takes none of its
selectors. -/
def Admits (index : RouteIndex ε) (other route : Route ε) : Prop :=
  index.shapeOf other.pattern = index.shapeOf route.pattern → other.methods.overlap route.methods = []

theorem findSome?_refusal?_eq_none (index : RouteIndex ε) (present : List (Route ε)) (route : Route ε) :
    (present.filter fun other => index.shapeOf other.pattern = index.shapeOf route.pattern).findSome?
        (refusal? route) = none ↔ ∀ other ∈ present, index.Admits other route := by
  simp only [List.findSome?_eq_none_iff, List.mem_filter, decide_eq_true_eq, and_imp, refusal?_eq_none, Admits]

/-- Routes pass the check exactly when each is admitted by those already present and by those before
it. -/
theorem checkAgainst_eq_ok_iff_admits {index : RouteIndex ε} {present batch : List (Route ε)} :
    index.checkAgainst present batch = .ok () ↔
      (∀ other ∈ present, ∀ route ∈ batch, index.Admits other route) ∧ batch.Pairwise index.Admits := by
  induction batch generalizing present with
  | nil => simp [checkAgainst]
  | cons route batch ih =>
    have first := index.findSome?_refusal?_eq_none present route
    rw [checkAgainst]
    cases refused : (present.filter fun other =>
        index.shapeOf other.pattern = index.shapeOf route.pattern).findSome? (refusal? route) with
    | some error =>
      rw [refused] at first
      simp only [reduceCtorEq, false_iff] at first ⊢
      rintro ⟨admits, _⟩
      exact first fun other member => admits other member route (List.mem_cons_self ..)
    | none =>
      have fits := first.mp refused
      rw [ih]
      simp only [List.mem_append, List.mem_singleton, List.forall_mem_cons, List.pairwise_cons]
      constructor
      · rintro ⟨both, pairwise⟩
        exact ⟨fun other member => ⟨fits other member, both other (.inl member)⟩,
          both route (.inr rfl), pairwise⟩
      · rintro ⟨both, next, pairwise⟩
        refine ⟨?_, pairwise⟩
        rintro other (member | rfl)
        · exact (both other member).2
        · exact next

/-- Between routes that answer something, admitting one another is being compatible. -/
theorem admits_iff_compatible {index : RouteIndex ε} {other route : Route ε}
    (answers : other.methods.isEmpty = false) (answers' : route.methods.isEmpty = false) :
    index.Admits other route ↔ index.Compatible other route := by
  rw [Admits, Compatible, MethodTable.overlap_eq_nil_iff answers answers']

/-- Routes that answer something pass the check exactly when each is compatible with those already present
and with those before it. -/
theorem checkAgainst_eq_ok {index : RouteIndex ε} {present batch : List (Route ε)}
    (others : ∀ other ∈ present, other.methods.isEmpty = false)
    (answers : ∀ route ∈ batch, route.methods.isEmpty = false) :
    index.checkAgainst present batch = .ok () ↔
      (∀ other ∈ present, ∀ route ∈ batch, index.Compatible other route) ∧
        batch.Pairwise index.Compatible := by
  rw [checkAgainst_eq_ok_iff_admits]
  refine and_congr ?_ ?_
  · refine forall₂_congr fun other member => forall₂_congr fun route routeMem => ?_
    exact admits_iff_compatible (others other member) (answers route routeMem)
  · refine List.Pairwise.iff_of_mem fun {other route} member routeMem => ?_
    exact admits_iff_compatible (answers other member) (answers route routeMem)

/-- No name of a batch is refused exactly when its names are different and none is in use. -/
theorem nameRefusal?_eq_none {used : List String} {batch : List (Route ε)} :
    nameRefusal? used batch = none ↔
      (batch.filterMap (·.name)).Nodup ∧ ∀ name ∈ batch.filterMap (·.name), name ∉ used := by
  induction batch generalizing used with
  | nil => simp [nameRefusal?]
  | cons route batch ih =>
    rw [nameRefusal?]
    cases named : route.name with
    | none => rw [ih, List.filterMap_cons_none named]
    | some name =>
      rw [List.filterMap_cons_some named, nodup_cons_apart_iff]
      by_cases taken : name ∈ used
      · simp [taken]
      · simp [taken, ih]

/-- Numbering changes nothing about a route but its order number. -/
theorem forall₂_numbered (index : RouteIndex ε) (batch : List (Route ε)) :
    List.Forall₂ (fun route copy => ∃ order, copy = { route with order }) batch
      (index.numbered batch) := by
  rw [numbered]
  generalize index.routes.length = start
  induction batch generalizing start with
  | nil => exact .nil
  | cons route batch ih => exact .cons ⟨start, rfl⟩ (ih (start + 1))

private theorem map_order_numbered (index : RouteIndex ε) (batch : List (Route ε)) :
    (index.numbered batch).map (·.order) = List.range' index.routes.length batch.length := by
  rw [numbered, List.map_map]
  exact List.zipIdx_map_snd _ _

private theorem length_numbered (index : RouteIndex ε) (batch : List (Route ε)) :
    (index.numbered batch).length = batch.length :=
  (index.forall₂_numbered batch).length_eq.symm

/-- Routes whose numbers are their places keep them in an index that holds nothing yet. -/
theorem numbered_eq_self {index : RouteIndex ε} (bare : index.routes = []) {batch : List (Route ε)}
    (ordered : batch.map (·.order) = List.range batch.length) : index.numbered batch = batch := by
  rw [numbered, bare, List.length_nil]
  rw [List.range_eq_range'] at ordered
  generalize 0 = start at ordered ⊢
  induction batch generalizing start with
  | nil => rfl
  | cons route batch ih =>
    rw [List.map_cons, List.length_cons, List.range'_succ] at ordered
    obtain ⟨here, later⟩ := List.cons.inj ordered
    rw [List.zipIdx_cons, List.map_cons, ih _ later, ← here]

/-- When a batch is added, and what the index is then. -/
theorem add_eq_ok {index after : RouteIndex ε} {batch : List (Route ε)} :
    index.add batch = .ok after ↔
      nameRefusal? index.names (index.numbered batch) = none ∧
        index.check (index.numbered batch) = .ok () ∧ after = (index.numbered batch).foldl insert index := by
  rw [add]
  cases refused : nameRefusal? index.names (index.numbered batch) with
  | some error => simp
  | none =>
    simp only [bind_eq_ok, pure_eq_ok, true_and]
    constructor
    · rintro ⟨_, passed, rfl⟩
      exact ⟨passed, rfl⟩
    · rintro ⟨passed, rfl⟩
      exact ⟨(), passed, rfl⟩

/-- Whether routes may stand together in one index, whatever their numbers. -/
structure Coherent (index : RouteIndex ε) (routes : List (Route ε)) : Prop where
  named : (routes.filterMap (·.name)).Nodup
  compatible : routes.Pairwise index.Compatible

/-- Coherence does not look at the numbers of routes, nor at their order. -/
theorem Coherent.of_perm {index : RouteIndex ε} {routes others : List (Route ε)}
    (coherent : index.Coherent routes)
    (perm : (routes.map Route.unordered).Perm (others.map Route.unordered)) : index.Coherent others := by
  constructor
  · have names := perm.filterMap (·.name)
    rw [List.filterMap_map, List.filterMap_map] at names
    exact names.nodup_iff.mp coherent.named
  · have compatible : (routes.map Route.unordered).Pairwise index.Compatible :=
      List.pairwise_map.mpr coherent.compatible
    rw [perm.pairwise_iff Compatible.symm, List.pairwise_map] at compatible
    exact compatible

/-- Coherence looks at no more of an index than its settings. -/
theorem Coherent.of_settings {index other : RouteIndex ε} {routes : List (Route ε)}
    (coherent : index.Coherent routes) (alike : other.settings = index.settings) :
    other.Coherent routes := by
  refine ⟨coherent.named, coherent.compatible.imp fun compatible => ?_⟩
  rwa [Compatible, shapeOf, shapeOf, alike]

theorem map_unordered_numbered (index : RouteIndex ε) (batch : List (Route ε)) :
    (index.numbered batch).map Route.unordered = batch.map Route.unordered := by
  refine map_eq_of_forall₂ ((index.forall₂_numbered batch).imp ?_)
  rintro route _ ⟨order, rfl⟩
  rfl

private theorem perm_numbered (index : RouteIndex ε) (batch : List (Route ε)) :
    ((index.routes ++ index.numbered batch).map Route.unordered).Perm
      ((index.routes ++ batch).map Route.unordered) := by
  rw [List.map_append, List.map_append, map_unordered_numbered]

/-- What holds of an index that was only ever added to: routes are numbered by their places, each
answers some method, and all of them may stand together. -/
structure Sound (index : RouteIndex ε) : Prop where
  ordered : index.routes.map (·.order) = List.range index.routes.length
  lawful : ∀ route ∈ index.routes, route.methods.Lawful ∧ route.methods.isEmpty = false
  coherent : index.Coherent index.routes

theorem sound_empty (settings : MatchSettings) : ({ settings } : RouteIndex ε).Sound :=
  ⟨rfl, by simp, List.nodup_nil, .nil⟩

/-- To a sound index a batch is added exactly when it is coherent together with what is there. -/
theorem Sound.add_iff {index after : RouteIndex ε} (sound : index.Sound) {batch : List (Route ε)}
    (answers : ∀ route ∈ batch, route.methods.isEmpty = false) :
    index.add batch = .ok after ↔ index.Coherent (index.routes ++ batch) ∧
      after = (index.numbered batch).foldl insert index := by
  have tables : ∀ route ∈ index.numbered batch, route.methods.isEmpty = false := by
    intro copy member
    obtain ⟨route, routeMem, order, rfl⟩ := exists_of_mem_right (index.forall₂_numbered batch) member
    exact answers route routeMem
  rw [add_eq_ok, nameRefusal?_eq_none, check_eq,
    checkAgainst_eq_ok (fun other member => (sound.lawful other member).2) tables]
  constructor
  · rintro ⟨⟨unique, fresh⟩, ⟨both, pairwise⟩, rfl⟩
    refine ⟨Coherent.of_perm ⟨?_, ?_⟩ (perm_numbered index batch), rfl⟩
    · rw [List.filterMap_append]
      exact List.nodup_append.mpr ⟨sound.coherent.named, unique,
        fun name old other new same => fresh other new (same ▸ old)⟩
    · exact List.pairwise_append.mpr ⟨sound.coherent.compatible, pairwise, both⟩
  · rintro ⟨coherent, rfl⟩
    obtain ⟨named, compatible⟩ := coherent.of_perm (perm_numbered index batch).symm
    rw [List.filterMap_append] at named
    obtain ⟨_, unique, apart⟩ := List.nodup_append.mp named
    obtain ⟨_, pairwise, both⟩ := List.pairwise_append.mp compatible
    exact ⟨⟨unique, fun name new old => apart name old name new rfl⟩, ⟨both, pairwise⟩, rfl⟩

/-- What is added to a sound index leaves it sound. -/
theorem Sound.add {index after : RouteIndex ε} {batch : List (Route ε)} (sound : index.Sound)
    (lawful : ∀ route ∈ batch, route.methods.Lawful ∧ route.methods.isEmpty = false)
    (added : index.add batch = .ok after) : after.Sound := by
  obtain ⟨coherent, rfl⟩ := (sound.add_iff fun route member => (lawful route member).2).mp added
  constructor
  · rw [routes_foldl_insert, List.map_append, sound.ordered, map_order_numbered, List.length_append,
      length_numbered, List.range_eq_range', List.range_eq_range']
    simpa only [Nat.zero_add] using
      List.range'_append_1 (s := 0) (m := index.routes.length) (n := batch.length)
  · rw [routes_foldl_insert]
    intro route member
    rcases List.mem_append.mp member with old | new
    · exact sound.lawful route old
    · obtain ⟨origin, originMem, order, rfl⟩ := exists_of_mem_right (index.forall₂_numbered batch) new
      exact lawful origin originMem
  · rw [routes_foldl_insert]
    exact (coherent.of_perm (perm_numbered index batch).symm).of_settings (by simp)

private theorem numbered_cons (index : RouteIndex ε) (route : Route ε) (batch : List (Route ε)) :
    index.numbered (route :: batch) = { route with order := index.routes.length } ::
      (index.insert { route with order := index.routes.length }).numbered batch := by
  rw [numbered, numbered, List.zipIdx_cons, List.map_cons, insert, List.length_append, List.length_singleton]

/-- Adding a batch is adding its first route and then the others. -/
theorem Sound.add_cons {index after : RouteIndex ε} (sound : index.Sound) {route : Route ε}
    {batch : List (Route ε)}
    (lawful : ∀ other ∈ route :: batch, other.methods.Lawful ∧ other.methods.isEmpty = false) :
    index.add (route :: batch) = .ok after ↔
      ∃ middle, index.add [route] = .ok middle ∧ middle.add batch = .ok after := by
  have single : ∀ other ∈ [route], other.methods.Lawful ∧ other.methods.isEmpty = false := by
    intro other member
    exact lawful other (by simp [List.mem_singleton.mp member])
  have rest : ∀ other ∈ batch, other.methods.isEmpty = false :=
    fun other member => (lawful other (List.mem_cons_of_mem _ member)).2
  -- the first route with its number, which coherence does not see
  have numbers : ((index.routes ++ route :: batch).map Route.unordered).Perm
      ((index.routes ++ [{ route with order := index.routes.length }] ++ batch).map Route.unordered) := by
    simp [Route.unordered]
  rw [sound.add_iff fun other member => (lawful other member).2]
  constructor
  · rintro ⟨coherent, rfl⟩
    have first : index.add [route] = .ok (index.insert { route with order := index.routes.length }) := by
      refine (sound.add_iff fun other member => (single other member).2).mpr ⟨?_, rfl⟩
      have beginning : (index.routes ++ [route]).Sublist (index.routes ++ route :: batch) := by simp
      exact ⟨coherent.named.sublist (beginning.filterMap _), coherent.compatible.sublist beginning⟩
    refine ⟨_, first, ((sound.add single first).add_iff rest).mpr ⟨?_, ?_⟩⟩
    · obtain ⟨named, compatible⟩ := coherent.of_perm numbers
      exact ⟨named, compatible⟩
    · rw [numbered_cons, List.foldl_cons]
  · rintro ⟨middle, first, second⟩
    have middleSound := sound.add single first
    obtain ⟨_, rfl⟩ := (sound.add_iff fun other member => (single other member).2).mp first
    obtain ⟨⟨named, compatible⟩, rfl⟩ := (middleSound.add_iff rest).mp second
    have coherent : index.Coherent (index.routes ++ [{ route with order := index.routes.length }] ++ batch) :=
      ⟨named, compatible⟩
    refine ⟨coherent.of_perm numbers.symm, ?_⟩
    rw [numbered_cons index route batch]
    rfl

end RouteIndex

end HttpRouting

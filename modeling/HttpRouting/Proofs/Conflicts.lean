import HttpRouting.Proofs.JoinedTexts
import HttpRouting.Proofs.Lookup
import HttpRouting.Proofs.ShapeKeys
import HttpRouting.Proofs.Upkeep

/-! # Conflicts are found exactly

A batch of routes is refused exactly when one of its routes clashes with a route that is there or stands before
it in the batch: their written shapes are equal and their tables have selectors that collide. Clashing is
symmetric, so the order of a batch does not matter. The routes that are there and share a written shape are
those at one node of the trie, the one that the shape leads to, so it would be enough to look there.
-/

namespace HttpRouting

namespace MethodTable

variable {ε δ : Type} {table : MethodTable ε} {other : MethodTable δ}

/-- Whether tables have a method in common, or one has the catch-all and the other anything. -/
def Collides (table : MethodTable ε) (other : MethodTable δ) : Prop :=
  ∃ selector ∈ table.selectors, ∃ selector' ∈ other.selectors, selector.Collides selector'

theorem Collides.symm (collides : table.Collides other) : other.Collides table := by
  obtain ⟨selector, member, selector', member', same | left | right⟩ := collides
  · exact ⟨selector', member', selector, member, .inl same.symm⟩
  · exact ⟨selector', member', selector, member, .inr (.inr left)⟩
  · exact ⟨selector', member', selector, member, .inr (.inl right)⟩

/-- A selector may be bound exactly when it collides with none that is taken. -/
theorem conflicts_eq_nil_iff {selector : Selector} :
    table.conflicts selector = [] ↔ ∀ taken ∈ table.selectors, ¬taken.Collides selector := by
  cases selector with
  | any =>
    rw [conflicts_any_eq_nil]
    constructor
    · intro empty taken member _
      rw [isEmpty, Bool.and_eq_true, List.isEmpty_iff, Option.isNone_iff_eq_none] at empty
      cases taken with
      | any => simp [mem_selectors_any, empty.2] at member
      | only method => simp [mem_selectors_only, empty.1] at member
    · intro free
      by_contra answers
      obtain ⟨taken, member⟩ := List.exists_mem_of_ne_nil _ (selectors_ne_nil (Bool.eq_false_iff.mpr answers))
      exact free taken member (.inr (.inr rfl))
  | only method =>
    rw [conflicts_only_eq_nil]
    constructor
    · rintro ⟨none, fresh⟩ taken member collides
      cases taken with
      | any => simp [mem_selectors_any, none] at member
      | only other =>
        have same : Selector.only other = .only method := collides.resolve_right (by simp)
        cases same
        exact fresh (mem_selectors_only.mp member)
    · intro free
      refine ⟨?_, fun bound => free (.only method) (mem_selectors_only.mpr bound) (.inl rfl)⟩
      by_contra every
      exact free .any (mem_selectors_any.mpr (Option.isSome_iff_ne_none.mpr every)) (.inr (.inl rfl))

/-- Tables overlap exactly when they collide, so it does not matter which of them is asked. -/
theorem overlap_eq_nil_iff_not_collides : table.overlap other = [] ↔ ¬table.Collides other := by
  rw [overlap, List.flatMap_eq_nil_iff]
  constructor
  · rintro free ⟨taken, takenMem, selector, member, collides⟩
    exact conflicts_eq_nil_iff.mp (free selector member) taken takenMem collides
  · intro apart selector member
    refine conflicts_eq_nil_iff.mpr fun taken takenMem collides => ?_
    exact apart ⟨taken, takenMem, selector, member, collides⟩

end MethodTable

namespace RouteIndex

variable {ε : Type} {index : RouteIndex ε} {present batch : List (Route ε)}

/-- A batch is refused exactly when one of its routes is not admitted by a route already present or by one before
it. -/
theorem checkAgainst_eq_error_iff :
    (∃ refusal, index.checkAgainst present batch = .error refusal) ↔
      ∃ earlier route later, batch = earlier ++ route :: later ∧
        ∃ other ∈ present ++ earlier, ¬index.Admits other route := by
  induction batch generalizing present with
  | nil => simp [checkAgainst]
  | cons first batch ih =>
    have admitted := index.findSome?_refusal?_eq_none present first
    rw [checkAgainst]
    cases refused : (present.filter fun other =>
        index.shapeOf other.pattern = index.shapeOf first.pattern).findSome? (refusal? first) with
    | some refusal =>
      rw [refused] at admitted
      simp only [reduceCtorEq, false_iff, not_forall] at admitted
      obtain ⟨other, member, clash⟩ := admitted
      refine iff_of_true ⟨refusal, rfl⟩ ⟨[], first, batch, rfl, other, ?_, clash⟩
      rwa [List.append_nil]
    | none =>
      have fits := admitted.mp refused
      rw [ih]
      constructor
      · rintro ⟨earlier, route, later, rfl, other, member, clash⟩
        refine ⟨first :: earlier, route, later, rfl, other, ?_, clash⟩
        rwa [List.append_assoc] at member
      · rintro ⟨earlier, route, later, split, other, member, clash⟩
        cases earlier with
        | nil =>
          cases split
          rw [List.append_nil] at member
          exact (clash (fits other member)).elim
        | cons _ earlier =>
          cases split
          refine ⟨earlier, route, later, rfl, other, ?_, clash⟩
          rwa [List.append_assoc]

end RouteIndex

/-- Whether two routes cannot stand side by side: their written shapes are equal and their tables collide. -/
def Route.Clashes {ε : Type} (ignoreCase : Bool) (route other : Route ε) : Prop :=
  route.pattern.shapeKey ignoreCase = other.pattern.shapeKey ignoreCase ∧ route.methods.Collides other.methods

theorem Route.Clashes.symm {ε : Type} {ignoreCase : Bool} {route other : Route ε}
    (clashes : route.Clashes ignoreCase other) : other.Clashes ignoreCase route :=
  ⟨clashes.1.symm, clashes.2.symm⟩

namespace RouteIndex

variable {ε : Type} {index : RouteIndex ε} {inserted batch : List (Route ε)}

theorem admits_iff_not_clashes {other route : Route ε} :
    index.Admits other route ↔ ¬other.Clashes index.settings.ignoreCase route := by
  rw [Admits, MethodTable.overlap_eq_nil_iff_not_collides, Route.Clashes, Pattern.shapeKey_eq_iff, not_and]
  exact Iff.rfl

/-- A batch is refused exactly when one of its routes clashes with one that is there or stands before it. -/
theorem check_eq_error_iff : (∃ refusal, index.check batch = .error refusal) ↔
    ∃ earlier route later, batch = earlier ++ route :: later ∧
      ∃ other ∈ index.routes ++ earlier, other.Clashes index.settings.ignoreCase route := by
  rw [check_eq, checkAgainst_eq_error_iff]
  simp only [admits_iff_not_clashes, Classical.not_not]

/-- A batch passes exactly when none of its routes clashes with one that is there or with another one of the
batch. -/
theorem check_eq_ok_iff : index.check batch = .ok () ↔
    (∀ other ∈ index.routes, ∀ route ∈ batch, ¬other.Clashes index.settings.ignoreCase route) ∧
      batch.Pairwise fun other route => ¬other.Clashes index.settings.ignoreCase route := by
  rw [check_eq, checkAgainst_eq_ok_iff_admits]
  simp only [admits_iff_not_clashes]
  refine and_congr_right fun _ => List.Pairwise.iff_of_mem fun _ _ => ?_
  exact admits_iff_not_clashes

/-- Whether a batch passes does not depend on its order, since clashing is symmetric. -/
theorem check_perm {reordered : List (Route ε)} (perm : batch.Perm reordered) :
    index.check batch = .ok () ↔ index.check reordered = .ok () := by
  rw [check_eq_ok_iff, check_eq_ok_iff, perm.pairwise_iff fun apart clash => apart clash.symm]
  refine and_congr_left fun _ => forall₂_congr fun other _ => ?_
  exact forall_congr' fun route => imp_congr_left perm.mem_iff

/-- The routes of an index with one shape are those with one written shape. -/
theorem filter_shapeOf_eq (pattern : Pattern) :
    (index.routes.filter fun other => index.shapeOf other.pattern = index.shapeOf pattern) =
      index.routes.filter fun other =>
        other.pattern.shapeKey index.settings.ignoreCase = pattern.shapeKey index.settings.ignoreCase :=
  List.filter_congr fun _ _ => decide_eq_decide.mpr Pattern.shapeKey_eq_iff.symm

/-- Conflicts are found exactly: the check of a batch refuses it if and only if one of its routes clashes with
another one, which was inserted or stands earlier in the batch; its order does not matter; and the inserted
routes that share the written shape of a pattern are those that are looked up by it, at the node that is noted for
it, which is the one to which the shape leads. -/
theorem check_exact (settings : MatchSettings) (inserted batch : List (Route ε)) :
    let index := inserted.foldl insert { settings }
    ((∃ refusal, index.check batch = .error refusal) ↔
      ∃ earlier route later, batch = earlier ++ route :: later ∧
        ∃ other ∈ inserted ++ earlier, other.Clashes settings.ignoreCase route) ∧
    (∀ reordered, batch.Perm reordered → (index.check batch = .ok () ↔ index.check reordered = .ok ())) ∧
    ∀ pattern : Pattern,
      (index.rivals [] (pattern.shapeKey settings.ignoreCase) = inserted.filter fun other =>
        other.pattern.shapeKey settings.ignoreCase = pattern.shapeKey settings.ignoreCase) ∧
      index.root.entriesAt (index.shapeOf pattern) = inserted.filter fun other =>
        other.pattern.shapeKey settings.ignoreCase = pattern.shapeKey settings.ignoreCase := by
  intro index
  have routes : index.routes = inserted := by simp [index]
  have same : index.settings = settings := by simp [index]
  rw [← routes, ← same]
  refine ⟨check_eq_error_iff, fun reordered => check_perm, fun pattern => ⟨?_, ?_⟩⟩
  · rw [← filter_shapeOf_eq, ← entriesAt_nodes]
    exact List.append_nil _
  · rw [← filter_shapeOf_eq, index.grown, Trie.entriesAt_ofEntries, ofShape_planted]
    rfl

/-- Where letter case does not count, a catch-all clashes with the route of another spelling, wherever it stands in
a batch, and that route is at the node to which the shape of the catch-all leads. -/
theorem check_exact_users : ∃ users posts renamed : Route Unit,
    users.pattern.source = "/users/:id" ∧ users.methods.selectors = [.only .get] ∧
    posts.pattern.source = "/posts" ∧ renamed.pattern.source = "/Users/:name" ∧ renamed.methods.selectors = [.any] ∧
    let index := [users].foldl insert { settings := { ignoreCase := true } }
    (∃ refusal, index.check [posts, renamed] = .error refusal) ∧ index.check [renamed, posts] ≠ .ok () ∧
      index.root.entriesAt (index.shapeOf renamed.pattern) = [users] := by
  have known : ∃ users posts renamed, Pattern.compile "/users/:id" = .ok users ∧
      Pattern.compile "/posts" = .ok posts ∧ Pattern.compile "/Users/:name" = .ok renamed ∧
      users.source = "/users/:id" ∧ posts.source = "/posts" ∧ renamed.source = "/Users/:name" ∧
      users.segments = [.literal "users", .capture (some "id")] ∧
      renamed.segments = [.literal "Users", .capture (some "name")] :=
    ⟨_, _, _, rfl, rfl, rfl, rfl, rfl, rfl, rfl, rfl⟩
  obtain ⟨users, posts, renamed, first, second, third, source, source', source'', segments, segments'⟩ := known
  have key : users.shapeKey true = renamed.shapeKey true := by
    rw [Pattern.shapeKey, Pattern.shapeKey, Pattern.shape, Pattern.shape, segments, segments']
    decide +kernel
  let held : Route Unit := { pattern := users, methods := { bound := [(.get, ())] }, order := 0 }
  let other : Route Unit := { pattern := posts, methods := { bound := [(.get, ())] }, order := 1 }
  let every : Route Unit := { pattern := renamed, methods := { catchAll := some () }, order := 2 }
  have clash : held.Clashes true every :=
    ⟨key, .only .get, List.mem_singleton_self _, .any, List.mem_singleton_self _, .inr (.inr rfl)⟩
  obtain ⟨refused, reordered, node⟩ := check_exact { ignoreCase := true } [held] [other, every]
  have refusal := refused.mpr ⟨[other], every, [], rfl, held, by simp, clash⟩
  refine ⟨held, other, every, source, rfl, source', source'', rfl, refusal, ?_, ?_⟩
  · intro passed
    have passed' := (reordered [every, other] (.swap ..)).mpr passed
    obtain ⟨error, same⟩ := refusal
    rw [passed'] at same
    cases same
  · refine (node renamed).2.trans ?_
    exact List.filter_cons_of_pos (decide_eq_true key)

end RouteIndex

end HttpRouting

import HttpRouting.Proofs.Resolution

/-! # Requests for `HEAD`

A route that binds `GET` but not `HEAD` answers `HEAD` by its `GET` endpoint, so two routes of one shape
may both answer it: one by an endpoint of its own, the other by one whose body is dropped. Neither is more
specific, and a look-up finds the routes of one shape in order of registration, so the earlier one answers.
An endpoint that was bound to `HEAD` itself is therefore chosen only when no route of the same shape that
binds `GET` was registered before it.
-/

namespace HttpRouting

namespace MethodTable

variable {ε : Type}

theorem get?_of_bound_head {table : MethodTable ε} {headOf : ε → ε} {method : String}
    (head : Method.parse? method = some .head) {endpoint : ε}
    (bound : table.bound? .head = some endpoint) : table.get? headOf method = some endpoint := by
  simp [get?, head, bound]

/-- Without an endpoint for `HEAD` or for every method, `HEAD` is answered by the `GET` endpoint. -/
theorem get?_of_unbound_head {table : MethodTable ε} {headOf : ε → ε} {method : String}
    (head : Method.parse? method = some .head) (unbound : table.bound? .head = none)
    (alone : table.catchAll = none) : table.get? headOf method = (table.bound? .get).map headOf := by
  simp [get?, head, unbound, alone]

private theorem mem_of_bound? {table : MethodTable ε} {method : Method} {endpoint : ε}
    (bound : table.bound? method = some endpoint) : method ∈ table.bound.map (·.1) := by
  rw [← binds_iff, binds, bound]
  rfl

private theorem bound?_of_not_mem {table : MethodTable ε} {method : Method}
    (absent : method ∉ table.bound.map (·.1)) : table.bound? method = none := by
  rw [← binds_iff, binds] at absent
  simpa using absent

end MethodTable

/-- Patterns of one shape are equally specific. -/
theorem Pattern.specificity_of_shape {ignoreCase : Bool} {left right : Pattern}
    (same : left.shape ignoreCase = right.shape ignoreCase) : left.specificity = right.specificity := by
  have counted : ∀ (kind : Segment → Bool) (edgeKind : Edge → Bool),
      (∀ segment, kind segment = edgeKind (segment.edge ignoreCase)) →
      left.segments.countP kind = right.segments.countP kind := by
    intro kind edgeKind agree
    have through : ∀ pattern : Pattern,
        pattern.segments.countP kind = (pattern.shape ignoreCase).countP edgeKind := by
      intro pattern
      rw [shape, List.countP_map]
      exact List.countP_congr fun segment _ => by rw [agree]; rfl
    rw [through, through, same]
  have last : ∀ pattern : Pattern,
      pattern.hasWildcard = (pattern.shape ignoreCase).getLast?.any fun edge => edge == .wildcard := by
    intro pattern
    rw [hasWildcard, shape, List.getLast?_map, Option.any_map]
    congr 1
    funext segment
    cases segment <;> rfl
  rw [specificity, specificity, last, last, same,
    counted _ (·.rank .regex == 0) (by intro segment; cases segment <;> rfl),
    counted _ (·.rank .regex == 1) (by intro segment; cases segment <;> rfl),
    counted _ (·.rank .regex == 2) (by intro segment; cases segment <;> rfl)]

namespace RouteIndex

variable {ε : Type} {index : RouteIndex ε}

/-- In a look-up the routes of one shape come in order of registration. -/
theorem Sound.collect_ordered (sound : index.Sound) (raw : List String) :
    ((index.collect raw).flatMap (·.routes)).Pairwise fun route other =>
      index.shapeOf route.pattern = index.shapeOf other.pattern → route.order < other.order := by
  obtain ⟨shapes, finds, precedence⟩ := index.collect_shapes raw
  have numbered : index.routes.Pairwise fun route other => route.order < other.order := by
    have places : (index.routes.map (·.order)).Pairwise (· < ·) := by
      rw [sound.ordered]
      exact List.pairwise_lt_range
    exact List.pairwise_map.mp places
  refine List.pairwise_flatMap.mpr ⟨?_, ?_⟩
  · intro found member
    refine (numbered.sublist (index.sublist_of_mem_collect member)).imp ?_
    exact fun earlier _ => earlier
  · refine pairwise_of_forall₂ ?_ finds precedence
    rintro shape other found rest ⟨routes, _⟩ ⟨others, _⟩ precedes route member later laterMem same
    rw [routes, List.mem_filter, decide_eq_true_eq] at member
    rw [others, List.mem_filter, decide_eq_true_eq] at laterMem
    exact (precedes.ne (member.2.symm.trans (same.trans laterMem.2))).elim

/-- A look-up that finds a route finds all routes of its shape. -/
theorem mem_collect_of_shape {raw : List String} {route other : Route ε}
    (found : route ∈ (index.collect raw).flatMap (·.routes)) (member : other ∈ index.routes)
    (same : index.shapeOf other.pattern = index.shapeOf route.pattern) :
    other ∈ (index.collect raw).flatMap (·.routes) := by
  obtain ⟨candidate, candidateMem, inside⟩ := List.mem_flatMap.mp found
  obtain ⟨shapes, finds, _⟩ := index.collect_shapes raw
  obtain ⟨shape, _, routes, _⟩ := exists_of_mem_right finds candidateMem
  refine List.mem_flatMap.mpr ⟨candidate, candidateMem, ?_⟩
  rw [routes, List.mem_filter, decide_eq_true_eq] at inside ⊢
  exact ⟨member, same.trans inside.2⟩

/-- The winner was registered before every other route of its shape that answers. -/
theorem Wins.eq_or_order_lt {headOf : ε → ε} {method : String} {raw : List String} {winner : Route ε}
    (wins : index.Wins headOf method raw winner) (sound : index.Sound) {other : Route ε}
    (member : other ∈ index.routes)
    (same : index.shapeOf other.pattern = index.shapeOf winner.pattern)
    (answers : other.answers headOf method) : other = winner ∨ winner.order < other.order := by
  obtain ⟨before, after, split, lower⟩ := wins.first
  have ordered := sound.collect_ordered raw
  have found : other ∈ (index.collect raw).flatMap (·.routes) :=
    mem_collect_of_shape (by simp [split]) member same
  have answering : other ∈ index.answering headOf method raw := by
    obtain ⟨candidate, candidateMem, inside⟩ := List.mem_flatMap.mp found
    have matched := (index.captures?_of_mem_collect candidateMem inside).2
    exact mem_answering.mpr ⟨mem_matching.mpr ⟨member, by rw [matched]; rfl⟩, answers⟩
  rw [split] at found ordered
  rcases List.mem_append.mp found with early | late
  · -- nothing before the winner is its equal
    have less := lower other early answering
    rw [Pattern.specificity_of_shape same, Specificity.compare_neg_iff] at less
    exact (lt_irrefl _ less).elim
  · rcases List.mem_cons.mp late with rfl | late
    · exact .inl rfl
    · have behind := (List.pairwise_append.mp ordered).2.1
      exact .inr (List.rel_of_pairwise_cons behind late same.symm)

/-- Two routes of one shape share no selector. -/
theorem Sound.apart (sound : index.Sound) {route other : Route ε} (member : route ∈ index.routes)
    (otherMem : other ∈ index.routes) (differs : route ≠ other)
    (same : index.shapeOf route.pattern = index.shapeOf other.pattern) :
    route.methods.Apart other.methods := by
  have symmetric : Std.Symm index.Compatible := ⟨fun _ _ compatible => compatible.symm⟩
  exact sound.coherent.compatible.forall member otherMem differs same

/-- A route that binds `HEAD` itself and has the shape of the winner is the winner, unless the winner was
registered before it and answers `HEAD` by its `GET` endpoint. -/
theorem Wins.head {headOf : ε → ε} {method : String} {raw : List String} {winner own : Route ε}
    (wins : index.Wins headOf method raw winner) (sound : index.Sound)
    (head : Method.parse? method = some .head) (member : own ∈ index.routes)
    (same : index.shapeOf own.pattern = index.shapeOf winner.pattern) {endpoint : ε}
    (bound : own.methods.bound? .head = some endpoint) :
    winner = own ∨ winner.order < own.order ∧
      ∃ get, winner.methods.bound? .get = some get ∧
        winner.methods.get? headOf method = some (headOf get) := by
  have winnerMem := (mem_matching.mp (mem_answering.mp wins.answers).1).1
  have answers : own.answers headOf method := by
    rw [Route.answers, MethodTable.get?_of_bound_head head bound]
    rfl
  by_cases differs : own = winner
  · exact .inl differs.symm
  · have apart := sound.apart member winnerMem differs same
    have unbound := MethodTable.bound?_of_not_mem (apart.disjoint .head (MethodTable.mem_of_bound? bound))
    have falls : winner.methods.get? headOf method = (winner.methods.bound? .get).map headOf :=
      MethodTable.get?_of_unbound_head head unbound apart.right
    have gets := (mem_answering.mp wins.answers).2
    rw [Route.answers, falls, Option.isSome_map, Option.isSome_iff_exists] at gets
    obtain ⟨get, boundGet⟩ := gets
    rw [boundGet] at falls
    rcases wins.eq_or_order_lt sound member same answers with equal | earlier
    · exact (differs equal).elim
    · exact .inr ⟨earlier, get, boundGet, falls⟩

/-- Of the routes of one shape that bind `HEAD` or `GET` themselves none was registered before the
winner. -/
theorem Wins.order_le_of_get {headOf : ε → ε} {method : String} {raw : List String}
    {winner other : Route ε} (wins : index.Wins headOf method raw winner) (sound : index.Sound)
    (head : Method.parse? method = some .head) (member : other ∈ index.routes)
    (same : index.shapeOf other.pattern = index.shapeOf winner.pattern)
    (binds : other.methods.binds .get) : winner.order ≤ other.order := by
  obtain ⟨get, bound⟩ := Option.isSome_iff_exists.mp binds
  have answers : other.answers headOf method := by
    rw [Route.answers]
    cases own : other.methods.bound? .head with
    | some endpoint => rw [MethodTable.get?_of_bound_head head own]; rfl
    | none =>
      cases every : other.methods.catchAll with
      | some endpoint => simp [MethodTable.get?, head, own, every]
      | none => simp [MethodTable.get?_of_unbound_head head own every, bound]
  rcases wins.eq_or_order_lt sound member same answers with rfl | earlier
  · exact le_rfl
  · exact earlier.le

end RouteIndex

namespace Router

/-- When a path is resolved for `HEAD` to a route of some shape, and a route of that shape binds `HEAD`
itself, then that route answers by its own endpoint, and no route of the shape that binds `GET` was
registered before it; or a route that was registered before it answers by its `GET` endpoint with the body
dropped. -/
theorem Reachable.resolve_head {router : Router} (reached : Reachable router) {method path : String}
    (head : Method.parse? method = some .head) {choice : Resolved Endpoint}
    (resolved : router.resolve method path = .resolved choice) {own : Route Endpoint}
    (member : own ∈ router.routes)
    (same : router.index.shapeOf own.pattern = router.index.shapeOf choice.route.pattern)
    {endpoint : Endpoint} (bound : own.methods.bound? .head = some endpoint) :
    (choice.route = own ∧ choice.endpoint = endpoint ∧
      ∀ other ∈ router.routes, router.index.shapeOf other.pattern = router.index.shapeOf own.pattern →
        other.methods.binds .get → own.order ≤ other.order) ∨
    choice.route ∈ router.routes ∧ choice.route.order < own.order ∧
      ∃ get, choice.route.methods.bound? .get = some get ∧ choice.endpoint = get.headOf := by
  have answered : router.index.answering Endpoint.headOf method (splitPath path) ≠ [] := by
    intro unanswered
    rw [resolve, RouteIndex.resolve_of_unanswered unanswered] at resolved
    cases allowed : router.index.allowedAt (splitPath path) with
    | nil => rw [allowed] at resolved; cases resolved
    | cons _ _ => rw [allowed] at resolved; cases resolved
  obtain ⟨chosen, _, decided, wins, gets, _⟩ := RouteIndex.resolve_of_answered answered
  rw [resolve, decided] at resolved
  cases resolved
  rcases wins.head reached.sound head member same bound with rfl | ⟨earlier, get, boundGet, falls⟩
  · rw [MethodTable.get?_of_bound_head head bound] at gets
    refine .inl ⟨rfl, (Option.some.inj gets).symm, ?_⟩
    intro other otherMem alike binds
    exact wins.order_le_of_get reached.sound head otherMem alike binds
  · rw [falls] at gets
    have inside := (RouteIndex.mem_matching.mp (RouteIndex.mem_answering.mp wins.answers).1).1
    exact .inr ⟨inside, earlier, get, boundGet, (Option.some.inj gets).symm⟩

/-- A router whose `GET` and `HEAD` endpoints for one path were registered by separate calls, in this
order. The tag tells the two endpoints apart. -/
def documentRouter : Outcome Router := do
  let router ← Router.fresh.register ["GET"] "/document" (.endpoint .notFound)
  router.register ["HEAD"] "/document" (.endpoint { Endpoint.notFound with tag := some 1 })

private theorem reachable_documentRouter {router : Router} (made : documentRouter = .ok router) :
    Reachable router := by
  obtain ⟨first, registered, rest⟩ := bind_eq_ok.mp made
  exact ((Reachable.fresh {} none).register registered).register rest

theorem resolve_head_documentRouter : ∃ router choice own endpoint, documentRouter = .ok router ∧
    Method.parse? "head" = some .head ∧ router.resolve "head" "/document" = .resolved choice ∧
    own ∈ router.routes ∧
    router.index.shapeOf own.pattern = router.index.shapeOf choice.route.pattern ∧
    own.methods.bound? .head = some endpoint ∧
    ((choice.route = own ∧ choice.endpoint = endpoint ∧
      ∀ other ∈ router.routes, router.index.shapeOf other.pattern = router.index.shapeOf own.pattern →
        other.methods.binds .get → own.order ≤ other.order) ∨
    choice.route ∈ router.routes ∧ choice.route.order < own.order ∧
      ∃ get, choice.route.methods.bound? .get = some get ∧ choice.endpoint = get.headOf) := by
  have known : ∃ router choice own endpoint, documentRouter = .ok router ∧
      router.resolve "head" "/document" = .resolved choice ∧ own ∈ router.routes ∧
      router.index.shapeOf own.pattern = router.index.shapeOf choice.route.pattern ∧
      own.methods.bound? .head = some endpoint :=
    ⟨_, _, _, _, rfl, rfl, List.mem_cons_of_mem _ (List.mem_cons_self ..), rfl, rfl⟩
  obtain ⟨router, choice, own, endpoint, made, resolved, member, same, bound⟩ := known
  have head : Method.parse? "head" = some .head := by decide
  exact ⟨router, choice, own, endpoint, made, head, resolved, member, same, bound,
    (reachable_documentRouter made).resolve_head head resolved member same bound⟩

/-- An endpoint that was bound to `HEAD` itself is not always the one that answers. -/
theorem resolve_head_of_get_first : ∃ router choice own endpoint, documentRouter = .ok router ∧
    Reachable router ∧ router.resolve "HEAD" "/document" = .resolved choice ∧ own ∈ router.routes ∧
    router.index.shapeOf own.pattern = router.index.shapeOf choice.route.pattern ∧
    own.methods.bound? .head = some endpoint ∧ choice.endpoint ≠ endpoint := by
  refine ⟨_, _, _, _, rfl, reachable_documentRouter rfl, rfl,
    List.mem_cons_of_mem _ (List.mem_cons_self ..), rfl, rfl, ?_⟩
  intro same
  cases congrArg Endpoint.tag same

end Router

end HttpRouting

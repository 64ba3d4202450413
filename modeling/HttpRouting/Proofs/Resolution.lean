import HttpRouting.Proofs.Choice
import HttpRouting.Proofs.Reachable

/-! # What a router decides

The decision of a router, told without the trie and without the running maximum: of the registered routes
that match a path, those that answer the method compete, and the winner is the most specific of them.
Equally specific ones are told apart by their order in the look-up. If none answers, the decision only
depends on whether any route matches.
-/

namespace HttpRouting

theorem Resolution.unanswered_of_ne_nil {ε : Type} {allowed : List Method} (some : allowed ≠ []) :
    (unanswered allowed : Resolution ε) = .methodNotAllowed allowed := by
  cases allowed with
  | nil => contradiction
  | cons _ _ => rfl

def Route.answers {ε : Type} (headOf : ε → ε) (method : String) (route : Route ε) : Bool :=
  (route.methods.get? headOf method).isSome

namespace RouteIndex

variable {ε : Type}

/-- The routes that match a path, in order of registration. -/
def matching (index : RouteIndex ε) (raw : List String) : List (Route ε) :=
  index.routes.filter fun route => (route.pattern.captures? index.settings.ignoreCase raw).isSome

def answering (index : RouteIndex ε) (headOf : ε → ε) (method : String) (raw : List String) :
    List (Route ε) :=
  (index.matching raw).filter (Route.answers headOf method)

/-- The methods that some of the routes that match a path answer. -/
def allowedAt (index : RouteIndex ε) (raw : List String) : List Method :=
  Method.all.filter fun method =>
    (index.matching raw).any fun route => route.methods.allowed.contains method

/-- Whether a route is the one to answer: it does answer, none that does is more specific, and all that
do and are found before it are less specific. Candidates are found in the order of the look-up, and the
routes of one candidate in order of registration. -/
structure Wins (index : RouteIndex ε) (headOf : ε → ε) (method : String) (raw : List String)
    (winner : Route ε) : Prop where
  answers : winner ∈ index.answering headOf method raw
  highest : ∀ other ∈ index.answering headOf method raw,
    ¬0 < other.pattern.specificity.compare index.settings.precedence winner.pattern.specificity
  first : ∃ before after, (index.collect raw).flatMap (·.routes) = before ++ winner :: after ∧
    ∀ other ∈ before, other ∈ index.answering headOf method raw →
      other.pattern.specificity.compare index.settings.precedence winner.pattern.specificity < 0

theorem mem_matching {index : RouteIndex ε} {raw : List String} {route : Route ε} :
    route ∈ index.matching raw ↔ route ∈ index.routes ∧
      (route.pattern.captures? index.settings.ignoreCase raw).isSome := by
  rw [matching, List.mem_filter]

theorem mem_answering {index : RouteIndex ε} {headOf : ε → ε} {method : String} {raw : List String}
    {route : Route ε} :
    route ∈ index.answering headOf method raw ↔
      route ∈ index.matching raw ∧ route.answers headOf method := by
  rw [answering, List.mem_filter]

/-- A contender has an endpoint exactly when its route answers. -/
theorem isSome_endpoint {index : RouteIndex ε} {headOf : ε → ε} {method : String} {raw : List String}
    {contender : Contender ε} (member : contender ∈ index.contenders headOf method raw) :
    contender.endpoint.isSome = contender.route.answers headOf method := by
  rw [(of_mem_contenders member).2.2, Route.answers]

/-- The routes that answer are those of the contenders with an endpoint. -/
theorem mem_answering_iff {index : RouteIndex ε} {headOf : ε → ε} {method : String}
    {raw : List String} {route : Route ε} :
    route ∈ index.answering headOf method raw ↔
      ∃ contender ∈ index.contenders headOf method raw,
        contender.route = route ∧ contender.endpoint.isSome := by
  rw [mem_answering, mem_matching]
  constructor
  · rintro ⟨⟨inside, matched⟩, answers⟩
    obtain ⟨contender, member, rfl⟩ := exists_contender headOf method inside matched
    exact ⟨contender, member, rfl, isSome_endpoint member ▸ answers⟩
  · rintro ⟨contender, member, rfl, answers⟩
    obtain ⟨inside, matched, _⟩ := of_mem_contenders member
    exact ⟨⟨inside, by rw [matched]; rfl⟩, isSome_endpoint member ▸ answers⟩

/-- The contenders tell the methods that the matching routes answer. -/
theorem allowedAmong_contenders (index : RouteIndex ε) (headOf : ε → ε) (method : String)
    (raw : List String) :
    allowedAmong (index.contenders headOf method raw) = index.allowedAt raw := by
  rw [allowedAmong, allowedAt]
  refine List.filter_congr fun allowed _ => ?_
  have together : ((index.contenders headOf method raw).map (·.route)).Perm (index.matching raw) := by
    rw [map_route_contenders]
    exact index.routes_collect_perm raw
  rw [← together.any_eq, List.any_map]
  rfl

/-- A leader among the contenders wins. -/
theorem Leads.wins {index : RouteIndex ε} {headOf : ε → ε} {method : String} {raw : List String}
    {leader : Contender ε} {endpoint : ε}
    (leads : index.Leads (index.contenders headOf method raw) (some (leader, endpoint))) :
    index.Wins headOf method raw leader.route := by
  have ranked := leads.le
  obtain ⟨chosen, before, after, split, lower, _⟩ := leads
  have member : leader ∈ index.contenders headOf method raw := by simp [split]
  refine ⟨mem_answering_iff.mpr ⟨leader, member, rfl, by rw [chosen]; rfl⟩, ?_, ?_⟩
  · intro other answers
    obtain ⟨contender, contenderMem, rfl, hasEndpoint⟩ := mem_answering_iff.mp answers
    rw [Specificity.compare_pos_iff, not_lt]
    exact ranked contender contenderMem hasEndpoint
  · refine ⟨before.map (·.route), after.map (·.route), ?_, ?_⟩
    · rw [← map_route_contenders index headOf method, split, List.map_append, List.map_cons]
    · intro other otherMem answers
      obtain ⟨contender, early, rfl⟩ := List.mem_map.mp otherMem
      have hasEndpoint : contender.endpoint.isSome :=
        isSome_endpoint (split ▸ List.mem_append_left _ early) ▸ (mem_answering.mp answers).2
      rw [Specificity.compare_neg_iff]
      exact lower contender early hasEndpoint

/-- Whatever matches a path answers some method. -/
theorem Sound.allowedAt_ne_nil {index : RouteIndex ε} (sound : index.Sound) {raw : List String}
    (some : index.matching raw ≠ []) : index.allowedAt raw ≠ [] := by
  obtain ⟨route, member⟩ := List.exists_mem_of_ne_nil _ some
  have answers := (sound.lawful route (mem_matching.mp member).1).2
  obtain ⟨method, allowed⟩ := List.exists_mem_of_ne_nil _ (MethodTable.allowed_ne_nil answers)
  refine List.ne_nil_of_mem (List.mem_filter.mpr ⟨Method.mem_all method, ?_⟩)
  exact List.any_eq_true.mpr ⟨route, member, by simpa using allowed⟩

/-- A leader among the contenders exists exactly when some route answers, and then it wins. -/
theorem winner_or_unanswered (index : RouteIndex ε) (headOf : ε → ε) (method : String)
    (raw : List String) :
    ((index.contenders headOf method raw).foldl index.better none = none ∧
        index.answering headOf method raw = []) ∨
      ∃ leader endpoint,
        (index.contenders headOf method raw).foldl index.better none = some (leader, endpoint) ∧
          index.Wins headOf method raw leader.route := by
  have leads := index.leads_foldl (index.contenders headOf method raw)
  cases best : (index.contenders headOf method raw).foldl index.better none with
  | none =>
    rw [best] at leads
    refine .inl ⟨rfl, List.eq_nil_iff_forall_not_mem.mpr fun route answers => ?_⟩
    obtain ⟨contender, member, _, hasEndpoint⟩ := mem_answering_iff.mp answers
    rw [leads contender member] at hasEndpoint
    cases hasEndpoint
  | some choice =>
    rw [best] at leads
    exact .inr ⟨choice.1, choice.2, rfl, leads.wins⟩

/-- When no route answers the method, what matches tells which ones would have been answered. -/
theorem resolve_of_unanswered {index : RouteIndex ε} {headOf : ε → ε} {method path : String}
    (unanswered : index.answering headOf method (splitPath path) = []) :
    index.resolve headOf method path = .unanswered (index.allowedAt (splitPath path)) := by
  rcases index.winner_or_unanswered headOf method (splitPath path) with ⟨best, _⟩ | ⟨_, _, _, wins⟩
  · rw [resolve_of_none best, allowedAmong_contenders]
  · have answers := wins.answers
    rw [unanswered] at answers
    cases answers

/-- When some route answers the method, the winner is chosen, with its endpoint and its captures. -/
theorem resolve_of_answered {index : RouteIndex ε} {headOf : ε → ε} {method path : String}
    (answered : index.answering headOf method (splitPath path) ≠ []) :
    ∃ choice values, index.resolve headOf method path = .resolved choice ∧
      index.Wins headOf method (splitPath path) choice.route ∧
      choice.route.methods.get? headOf method = some choice.endpoint ∧
      choice.route.pattern.captures? index.settings.ignoreCase (splitPath path) = some values ∧
      choice.params = namedCaptures choice.route.pattern.captureNames values := by
  rcases index.winner_or_unanswered headOf method (splitPath path) with
    ⟨_, unanswered⟩ | ⟨leader, endpoint, best, wins⟩
  · contradiction
  · obtain ⟨member, chosen⟩ := of_foldl_better best
    obtain ⟨_, matched, gets⟩ := of_mem_contenders member
    exact ⟨_, leader.values, resolve_of_some best, wins, gets ▸ chosen, matched,
      Pattern.ofCaptures_eq matched⟩

end RouteIndex

namespace Router

/-- Resolution in a reachable router: it is not found when nothing matches the path, a list of methods when
something matches but nothing answers the method, and otherwise the winner among those that answer, with
its endpoint for the method and its named captures. Each candidate that the winner may come from holds its
routes in order of registration. -/
theorem Reachable.resolve_spec {router : Router} (reached : Reachable router) (method path : String) :
    let raw := splitPath path
    let answering := router.index.answering Endpoint.headOf method raw
    (answering = [] → router.index.matching raw = [] → router.resolve method path = .notFound) ∧
    (answering = [] → router.index.matching raw ≠ [] →
      router.resolve method path = .methodNotAllowed (router.index.allowedAt raw)) ∧
    (answering ≠ [] → ∃ choice values, router.resolve method path = .resolved choice ∧
      router.index.Wins Endpoint.headOf method raw choice.route ∧
      choice.route.methods.get? Endpoint.headOf method = some choice.endpoint ∧
      choice.route.pattern.captures? router.index.settings.ignoreCase raw = some values ∧
      choice.params = namedCaptures choice.route.pattern.captureNames values) ∧
    ∀ found ∈ router.index.collect raw, found.routes.Sublist router.routes := by
  intro raw answering
  refine ⟨?_, ?_, ?_, fun found => router.index.sublist_of_mem_collect⟩
  · intro unanswered unmatched
    have nothing : router.index.allowedAt raw = [] := by simp [RouteIndex.allowedAt, unmatched]
    rw [resolve, RouteIndex.resolve_of_unanswered unanswered, nothing]
    rfl
  · intro unanswered matched
    rw [resolve, RouteIndex.resolve_of_unanswered unanswered]
    exact Resolution.unanswered_of_ne_nil (reached.sound.allowedAt_ne_nil matched)
  · intro answered
    exact RouteIndex.resolve_of_answered answered

theorem resolve_spec_usersRouter : ∃ router, usersRouter = .ok router ∧ Reachable router ∧
    router.index.answering Endpoint.headOf "GET" (splitPath "/users/me") ≠ [] ∧
    ∃ choice values, router.resolve "GET" "/users/me" = .resolved choice ∧
      router.index.Wins Endpoint.headOf "GET" (splitPath "/users/me") choice.route ∧
      choice.route.methods.get? Endpoint.headOf "GET" = some choice.endpoint ∧
      choice.route.pattern.captures? router.index.settings.ignoreCase (splitPath "/users/me") =
        some values ∧
      choice.params = namedCaptures choice.route.pattern.captureNames values := by
  refine ⟨_, rfl, reachable_usersRouter rfl, List.cons_ne_nil _ _, ?_⟩
  exact ((reachable_usersRouter rfl).resolve_spec "GET" "/users/me").2.2.1 (List.cons_ne_nil _ _)

end Router

end HttpRouting

import HttpRouting.Proofs.PatternSegments
import HttpRouting.Proofs.PathText
import HttpRouting.Proofs.Resolution
import HttpRouting.Proofs.TrieTransport

/-! # Mounting is transparent

A router that is mounted on a fresh one decides about the rest of a path as it would on its own. The
copies of its routes are the routes with the segments of the prefix in front, so the trie of the copies
below the prefix is that of the routes; the prefix adds the same counts to all specificities, its own
captures to the parameters, and its positions to what is hidden from handlers. A path that the prefix does
not match finds nothing.
-/

namespace HttpRouting

namespace Pattern

/-- A pattern under another one counts the segments of both. -/
theorem specificity_of_under {head tail pattern : Pattern} (plain : head.hasWildcard = false)
    (joined : head.under tail = .ok pattern) :
    pattern.specificity = head.specificity.under tail.specificity := by
  have segments := segments_of_under joined
  have wildcard : pattern.hasWildcard = tail.hasWildcard := by
    rw [hasWildcard, segments, List.getLast?_append]
    rw [hasWildcard] at plain
    rw [hasWildcard]
    cases tail.segments.getLast? with
    | none => exact plain
    | some last => rfl
  simp only [specificity, Specificity.under, wildcard, segments, List.countP_append]

private theorem captureNames_of_under {head tail pattern : Pattern} (joined : head.under tail = .ok pattern) :
    pattern.captureNames = head.captureNames ++ tail.captureNames := by
  rw [captureNames, segments_of_under joined, List.filterMap_append]
  rfl

/-- Segments without a wildcard take one raw segment each. -/
theorem length_of_captures? {pattern : Pattern} (plain : pattern.hasWildcard = false)
    {ignoreCase : Bool} {raw captured : List String}
    (matched : pattern.captures? ignoreCase raw = some captured) :
    raw.length = pattern.segments.length := by
  have segments := isWildcard_eq_false plain
  rw [captures?] at matched
  generalize pattern.segments = pieces at matched segments
  induction pieces generalizing raw captured with
  | nil =>
    rcases matchSegments?_cases matched with ⟨_, rfl, _⟩ | ⟨_, wrong, _⟩ | ⟨_, _, _, _, _, _, wrong, _⟩
    · rfl
    · cases wrong
    · cases wrong
  | cons segment pieces ih =>
    obtain ⟨here, later⟩ := List.forall_mem_cons.mp segments
    rcases matchSegments?_cases matched with
      ⟨wrong, _, _⟩ | ⟨name, same, _⟩ | ⟨_, _, first, rest, _, gained, same, rfl, _, matched', _⟩
    · cases wrong
    · cases same
      cases here
    · cases same
      rw [List.length_cons, List.length_cons, ih matched' later]

end Pattern

namespace RouteIndex

variable {ε : Type}

/-- A look-up among routes with the same segments in front finds, behind those segments, what a look-up
among the routes without them finds, and nothing if they do not match. -/
theorem collect_headed {index other : RouteIndex ε} (alike : other.settings = index.settings)
    {head : List Segment} (plain : ∀ segment ∈ head, segment.isWildcard = false)
    {R : Route ε → Route ε → Prop}
    (segments : ∀ {route copy}, R route copy → copy.pattern.segments = head ++ route.pattern.segments)
    (related : List.Forall₂ R index.routes other.routes) (raw : List String) :
    match matchSegments? index.settings.ignoreCase head (raw.take head.length) with
    | none => other.collect raw = []
    | some captured => List.Forall₂ (Candidate.Agree (List.Forall₂ R) captured)
        (index.collect (raw.drop head.length)) (other.collect raw) := by
  let tails := other.routes.map fun copy => (copy.pattern.segments.drop head.length, copy)
  have planted : other.routes.map Route.planted = Trie.headed head tails := by
    rw [Trie.headed, List.map_map]
    refine List.map_congr_left fun copy member => ?_
    obtain ⟨route, _, holds⟩ := exists_of_mem_right related member
    simp [Route.planted, segments holds]
  have parallel : List.Forall₂ (Trie.Parallel R) (index.routes.map Route.planted) tails := by
    rw [List.forall₂_map_left_iff, List.forall₂_map_right_iff]
    refine related.imp fun route copy holds => ?_
    rw [segments holds, List.drop_left]
    exact ⟨route.pattern.segments, holds⟩
  have found := Trie.walk_headed other.settings plain tails raw []
  rw [collect_eq, planted, collect_eq]
  rw [alike] at found ⊢
  cases matched : matchSegments? index.settings.ignoreCase head (raw.take head.length) with
  | none =>
    rw [matched] at found
    exact found
  | some captured =>
    rw [matched] at found
    dsimp only at found ⊢
    rw [found, List.nil_append]
    have step := Trie.inStep_parallel index.settings.ignoreCase R
    simpa using step.walk parallel captured (raw.drop head.length) []

end RouteIndex

namespace Router

/-- Without middleware of its own a router hands over its endpoints as they are. -/
theorem methods_carried {child : Router} (plain : child.layers = [])
    {methods handed : MethodTable Endpoint} (carried : methods.mapM child.carried = .ok handed) :
    handed = methods := by
  have same : ∀ endpoint, child.carried endpoint = .ok endpoint := by
    intro endpoint
    rw [Router.carried, plain]
    rfl
  rw [MethodTable.mapM_eq_self same] at carried
  exact (Except.ok.inj carried).symm

/-- What a copy of a route is, for a child without middleware of its own. -/
theorem of_copied {child : Router} (plain : child.layers = []) {head : Pattern} {strip : Bool}
    {route copy : Route Endpoint} (copied : child.copied head strip route = .ok copy) :
    head.under route.pattern = .ok copy.pattern ∧ copy.methods = route.methods ∧
      copy.strip = head.hidden strip route.strip := by
  obtain ⟨pattern, methods, joined, handed, rfl⟩ := copied_eq_ok.mp copied
  exact ⟨joined, methods_carried plain handed, rfl⟩

/-- Mounting on a fresh router gives a router of just the copies, with the settings of the child. -/
theorem of_mount_fresh {child parent : Router} (reached : Reachable child)
    {settings : MatchSettings} {logger : Option Logger} {path : String} {head : Pattern} {strip : Bool}
    (compiled : Pattern.compile path = .ok head)
    (mounted : (fresh settings logger).mount path (.router child) strip = .ok parent) :
    head.hasWildcard = false ∧ child.index.settings = settings ∧ parent.index.settings = settings ∧
      List.Forall₂ (fun route copy => child.copied head strip route = .ok copy)
        child.routes parent.routes := by
  obtain ⟨head', point, placed⟩ := mount_eq_ok.mp mounted
  obtain ⟨alike, frozen, batch, closed, copies, added⟩ := mountOn_router_eq_ok.mp placed
  obtain ⟨_, compiled', plain⟩ := mountPoint_eq_ok.mp point
  obtain rfl : head' = head := Except.ok.inj (compiled'.symm.trans compiled)
  obtain ⟨index, indexed, rfl⟩ := add_eq_ok.mp added
  obtain ⟨_, _, rfl⟩ := RouteIndex.add_eq_ok.mp indexed
  rw [freeze_eq closed] at copies
  have copied := mapM_eq_ok.mp copies
  have orders : batch.map (·.order) = List.range batch.length := by
    rw [← copied.length_eq, map_eq_of_forall₂ (f := fun route => route.order) (copied.imp ?_)]
    · exact reached.sound.ordered
    · intro route copy made
      obtain ⟨_, _, _, _, rfl⟩ := copied_eq_ok.mp made
      rfl
  refine ⟨plain, alike, by simp [fresh], ?_⟩
  rw [Router.routes, Router.routes, RouteIndex.routes_foldl_insert, RouteIndex.numbered_eq_self rfl orders]
  exact copied

/-- How a choice of a router shows in the router that it is mounted on: the route is the copy of the
chosen one, and the captures of the prefix come first. -/
structure ShownChoice (child : Router) (head : Pattern) (captured : List String)
    (choice shown : Resolved Endpoint) : Prop where
  route : child.copied head true choice.route = .ok shown.route
  endpoint : shown.endpoint = choice.endpoint
  params : shown.params = namedCaptures head.captureNames captured ++ choice.params
  path : shown.path = choice.path

/-- A contender of the child beside the contender that its copy is. -/
structure CopyContends (child : Router) (head : Pattern) (captured : List String)
    (contender copy : Contender Endpoint) : Prop where
  route : child.copied head true contender.route = .ok copy.route
  values : copy.values = captured ++ contender.values
  endpoint : copy.endpoint = contender.endpoint

private theorem contenders_of_copies {child parent : Router} (plain : child.layers = []) {head : Pattern}
    {captured raw rest : List String}
    (found : List.Forall₂ (Candidate.Agree
        (List.Forall₂ fun route copy => child.copied head true route = .ok copy) captured)
      (child.index.collect rest) (parent.index.collect raw)) (method : String) :
    List.Forall₂ (CopyContends child head captured)
      (child.index.contenders Endpoint.headOf method rest)
      (parent.index.contenders Endpoint.headOf method raw) := by
  refine List.rel_flatMap found fun candidate other agree => ?_
  refine List.rel_map ?_ agree.routes
  intro route copy copied
  refine ⟨copied, agree.values, ?_⟩
  dsimp only
  rw [(of_copied plain copied).2.1]

/-- The copies answer the methods that the routes answer. -/
theorem allowedAmong_of_copies {child : Router} (plain : child.layers = []) {head : Pattern}
    {captured : List String} {contenders copies : List (Contender Endpoint)}
    (related : List.Forall₂ (CopyContends child head captured) contenders copies) :
    RouteIndex.allowedAmong copies = RouteIndex.allowedAmong contenders := by
  have methods : copies.map (·.route.methods) = contenders.map (·.route.methods) :=
    map_eq_of_forall₂ (related.imp fun _ _ copies => (of_copied plain copies.route).2.1)
  refine List.filter_congr fun method _ => ?_
  have allowed := congrArg (List.any · fun table => table.allowed.contains method) methods
  rwa [List.any_map, List.any_map] at allowed

/-- The leading copy is the copy of the leading route. -/
theorem leaders_of_copies {child parent : Router} (plain : child.layers = [])
    (alike : parent.index.settings = child.index.settings) {head : Pattern}
    (wild : head.hasWildcard = false) {captured : List String}
    {contenders copies : List (Contender Endpoint)}
    (related : List.Forall₂ (CopyContends child head captured) contenders copies) :
    (contenders.foldl child.index.better none = none ∧
        copies.foldl parent.index.better none = none) ∨
      ∃ leader leader' endpoint, contenders.foldl child.index.better none = some (leader, endpoint) ∧
        copies.foldl parent.index.better none = some (leader', endpoint) ∧
          CopyContends child head captured leader leader' := by
  refine RouteIndex.leaders_related child.index parent.index (fun holds => holds.endpoint) ?_ related
  intro left right left' right' holds holds'
  rw [alike, Pattern.specificity_of_under wild (of_copied plain holds.route).1,
    Pattern.specificity_of_under wild (of_copied plain holds'.route).1]
  exact Specificity.compare_under _ _ _ _

/-- The parameters of a copy are those of the prefix and then those of the route. -/
theorem params_of_copied {child : Router} (plain : child.layers = []) {head : Pattern}
    {route copy : Route Endpoint} (copied : child.copied head true route = .ok copy)
    {ignoreCase : Bool} {front rest raw captured values : List String}
    (headMatched : head.captures? ignoreCase front = some captured)
    (matched : route.pattern.captures? ignoreCase rest = some values)
    (copyMatched : copy.pattern.captures? ignoreCase raw = some (captured ++ values)) :
    Params.ofCaptures copy.pattern.captureNames (captured ++ values) =
      namedCaptures head.captureNames captured ++
        Params.ofCaptures route.pattern.captureNames values := by
  rw [Pattern.ofCaptures_eq copyMatched, Pattern.ofCaptures_eq matched,
    Pattern.captureNames_of_under (of_copied plain copied).1,
    namedCaptures_append (Pattern.length_captureNames headMatched)]

/-- A router that is mounted on a fresh one is transparent: where the prefix matches the beginning of a
path, the decision about the path is the child's decision about the rest of it, and where it does not,
nothing is found. -/
theorem Reachable.mount_transparent {child parent : Router} (reached : Reachable child)
    (plain : child.layers = []) {settings : MatchSettings} {logger : Option Logger} {path : String}
    {head : Pattern} (compiled : Pattern.compile path = .ok head) (proper : head.segments ≠ [])
    (mounted : (Router.fresh settings logger).mount path (.router child) = .ok parent)
    (method target : String) :
    match head.captures? settings.ignoreCase ((splitPath target).take head.segments.length) with
    | none => parent.resolve method target = .notFound
    | some captured => Resolution.Rel (ShownChoice child head captured)
        (child.resolve method (pathBelow target head.segments.length)) (parent.resolve method target) := by
  obtain ⟨wild, alike, alike', copies⟩ := of_mount_fresh reached compiled mounted
  have found := RouteIndex.collect_headed (alike'.trans alike.symm) (Pattern.isWildcard_eq_false wild)
    (fun copied => Pattern.segments_of_under (of_copied plain copied).1) copies (splitPath target)
  rw [alike] at found
  cases matched : head.captures? settings.ignoreCase ((splitPath target).take head.segments.length) with
  | none =>
    rw [Pattern.captures?] at matched
    rw [matched] at found
    have nobody : parent.index.contenders Endpoint.headOf method (splitPath target) = [] := by
      rw [RouteIndex.contenders, found, List.flatMap_nil]
    have none : (parent.index.contenders Endpoint.headOf method (splitPath target)).foldl
        parent.index.better none = none := by rw [nobody, List.foldl_nil]
    have unallowed : RouteIndex.allowedAmong ([] : List (Contender Endpoint)) = [] := by
      simp [RouteIndex.allowedAmong]
    rw [resolve, RouteIndex.resolve_of_none none, nobody, unallowed]
    rfl
  | some captured =>
    have within : head.segments.length ≤ (splitPath target).length := by
      have taken := Pattern.length_of_captures? wild matched
      rw [List.length_take] at taken
      omega
    have sees := handlerPath_pathBelow (mt List.length_eq_zero_iff.mp proper) within
    rw [Pattern.captures?] at matched
    rw [matched] at found
    dsimp only at found
    rw [← splitPath_pathBelow] at found
    have related := contenders_of_copies plain found method
    rcases leaders_of_copies plain (alike'.trans alike.symm) wild related with
      ⟨none, none'⟩ | ⟨leader, copy, endpoint, best, best', holds⟩
    · rw [resolve, resolve, RouteIndex.resolve_of_none none, RouteIndex.resolve_of_none none',
        allowedAmong_of_copies plain related]
      exact Resolution.rel_unanswered _ _
    · obtain ⟨_, leaderMatched, _⟩ := RouteIndex.of_mem_contenders (RouteIndex.of_foldl_better best).1
      obtain ⟨_, copyMatched, _⟩ := RouteIndex.of_mem_contenders (RouteIndex.of_foldl_better best').1
      rw [alike] at leaderMatched
      rw [alike', holds.values] at copyMatched
      rw [resolve, resolve, RouteIndex.resolve_of_some best, RouteIndex.resolve_of_some best']
      refine .resolved ⟨holds.route, rfl, ?_, ?_⟩
      · rw [holds.values]
        exact params_of_copied plain holds.route matched leaderMatched copyMatched
      · rw [(of_copied plain holds.route).2.2, splitPath_pathBelow]
        exact sees _

theorem mount_transparent_usersRouter : ∃ child parent head captured, usersRouter = .ok child ∧
    child.layers = [] ∧ Pattern.compile "/api/:version" = .ok head ∧ head.segments ≠ [] ∧
    (Router.fresh {} none).mount "/api/:version" (.router child) = .ok parent ∧
    head.captures? false ((splitPath "/api/v2/users/me/").take head.segments.length) = some captured ∧
    Resolution.Rel (ShownChoice child head captured)
      (child.resolve "GET" (pathBelow "/api/v2/users/me/" head.segments.length))
      (parent.resolve "GET" "/api/v2/users/me/") := by
  have shows : ∀ {child parent : Router} {head : Pattern} {captured : List String},
      usersRouter = .ok child → child.layers = [] → Pattern.compile "/api/:version" = .ok head →
      head.segments ≠ [] → (Router.fresh {} none).mount "/api/:version" (.router child) = .ok parent →
      head.captures? false ((splitPath "/api/v2/users/me/").take head.segments.length) = some captured →
      Resolution.Rel (ShownChoice child head captured)
        (child.resolve "GET" (pathBelow "/api/v2/users/me/" head.segments.length))
        (parent.resolve "GET" "/api/v2/users/me/") := by
    intro child parent head captured made plain compiled proper mounted matched
    have transparent := (reachable_usersRouter made).mount_transparent plain compiled proper mounted "GET"
      "/api/v2/users/me/"
    rw [matched] at transparent
    exact transparent
  exact ⟨_, _, _, _, rfl, rfl, rfl, List.cons_ne_nil _ _, rfl, rfl,
    shows rfl rfl rfl (List.cons_ne_nil _ _) rfl rfl⟩

end Router

end HttpRouting

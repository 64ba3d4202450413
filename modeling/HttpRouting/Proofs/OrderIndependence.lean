import HttpRouting.Proofs.Resolution
import HttpRouting.Proofs.TrieTransport
import Mathlib.Data.List.Perm.Basic

/-! # The order of registration

Routes of one shape have no method in common, so at most one route of a candidate answers a method other
than `HEAD`, and equally specific routes are told apart by their shapes alone. Where patterns that begin
alike do not go on with different constraints, the shapes come in an order of their own, and the decision
does not depend on the order in which routes were registered. Nor does it depend on that order whether
registrations are accepted: what they make is put together one route at a time, and it is accepted when
all of it is coherent.
-/

namespace HttpRouting

namespace MethodTable

variable {ε : Type}

/-- Without a catch-all a table answers a method other than `HEAD` only by what it binds to it. -/
theorem mem_of_get? {table : MethodTable ε} {headOf : ε → ε} {method : String}
    (plain : Method.parse? method ≠ some .head) (alone : table.catchAll = none)
    (answers : (table.get? headOf method).isSome) :
    ∃ bound, Method.parse? method = some bound ∧ bound ∈ table.bound.map (·.1) := by
  rw [get?, alone] at answers
  cases parsed : Method.parse? method with
  | none => simp [parsed] at answers
  | some bound =>
    refine ⟨bound, rfl, binds_iff.mp ?_⟩
    rw [parsed] at plain
    cases found : table.bound? bound with
    | none => simp [parsed, found, plain] at answers
    | some endpoint => rw [binds, found]; rfl

/-- Of two tables that are apart at most one answers a method other than `HEAD`. -/
theorem Apart.not_both {table other : MethodTable ε} (apart : table.Apart other) {headOf : ε → ε}
    {method : String} (plain : Method.parse? method ≠ some .head)
    (answers : (table.get? headOf method).isSome) : ¬(other.get? headOf method).isSome := by
  intro answers'
  obtain ⟨bound, parsed, member⟩ := mem_of_get? plain apart.left answers
  obtain ⟨bound', parsed', member'⟩ := mem_of_get? plain apart.right answers'
  obtain rfl : bound = bound' := Option.some.inj (parsed.symm.trans parsed')
  exact apart.disjoint bound member member'

end MethodTable

/-- Choices that are the same but for the numbers of their routes. -/
structure Resolved.Alike {ε : Type} (choice other : Resolved ε) : Prop where
  endpoint : other.endpoint = choice.endpoint
  params : other.params = choice.params
  pattern : other.route.pattern = choice.route.pattern
  path : other.path = choice.path

theorem Route.of_unordered_eq {ε : Type} {route other : Route ε}
    (same : route.unordered = other.unordered) :
    route.pattern = other.pattern ∧ route.methods = other.methods ∧ route.strip = other.strip := by
  obtain ⟨pattern, methods, order, name, info, strip⟩ := route
  obtain ⟨pattern', methods', order', name', info', strip'⟩ := other
  cases same
  exact ⟨rfl, rfl, rfl⟩

namespace RouteIndex

variable {ε : Type} {index other : RouteIndex ε}

/-- Routes that are the same but for their numbers. -/
def SameRoutes (routes others : List (Route ε)) : Prop :=
  (routes.map Route.unordered).Perm (others.map Route.unordered)

/-- The same routes in another order give the same candidates in the same order, with the routes of each
candidate in another order. -/
theorem collect_shuffled (alike : other.settings = index.settings)
    (same : SameRoutes index.routes other.routes)
    (unmixed : Trie.Unmixed index.settings.ignoreCase (index.routes.map (·.pattern.segments)))
    (raw : List String) :
    List.Forall₂ (Candidate.Agree SameRoutes []) (index.collect raw) (other.collect raw) := by
  have planted : ∀ routes : List (Route ε), (routes.map Route.planted).map (Prod.map id Route.unordered) =
      (routes.map Route.unordered).map Route.planted := by
    intro routes
    rw [List.map_map, List.map_map]
    rfl
  have shuffled : Trie.Shuffled index.settings.ignoreCase Route.unordered
      (index.routes.map Route.planted) (other.routes.map Route.planted) := by
    refine ⟨?_, ?_⟩
    · rw [planted, planted]
      exact same.map _
    · rw [List.map_map]
      exact unmixed
  rw [collect_eq, collect_eq, alike]
  exact (Trie.inStep_shuffled index.settings.ignoreCase Route.unordered).walk shuffled [] raw []

/-- The routes of one candidate have no method in common. -/
theorem Sound.pairwise_apart (sound : index.Sound) {raw : List String} {found : Candidate (Route ε)}
    (member : found ∈ index.collect raw) :
    found.routes.Pairwise fun route other => route.methods.Apart other.methods := by
  obtain ⟨shapes, finds, _⟩ := index.collect_shapes raw
  obtain ⟨shape, _, routes, _⟩ := exists_of_mem_right finds member
  rw [routes]
  refine (sound.coherent.compatible.filter _).imp_of_mem ?_
  intro route other routeMem otherMem compatible
  have here := (List.mem_filter.mp routeMem).2
  have there := (List.mem_filter.mp otherMem).2
  rw [decide_eq_true_eq] at here there
  exact compatible (here.trans there.symm)

private theorem answers_comp_unordered (headOf : ε → ε) (method : String) :
    Route.answers headOf method ∘ Route.unordered = Route.answers headOf method :=
  rfl

/-- Of routes that have no method in common those that answer are the same in every order. -/
theorem forall₂_answering {routes others : List (Route ε)} (same : SameRoutes routes others)
    (apart : routes.Pairwise fun route other => route.methods.Apart other.methods) (headOf : ε → ε)
    {method : String} (plain : Method.parse? method ≠ some .head) :
    List.Forall₂ (fun route copy => copy.unordered = route.unordered)
      (routes.filter (Route.answers headOf method)) (others.filter (Route.answers headOf method)) := by
  -- at most one route of the candidate answers, so there is no order left to compare
  have single := all_eq_of_pairwise (apart.filter (Route.answers headOf method)) (by
    intro route member other otherMem apart
    exact apart.not_both plain (List.mem_filter.mp member).2 (List.mem_filter.mp otherMem).2)
  have kept := same.filter (Route.answers headOf method)
  rw [List.filter_map, List.filter_map, answers_comp_unordered] at kept
  have alike := eq_of_perm_of_all_eq kept (by
    intro route member other otherMem
    obtain ⟨_, origin, rfl⟩ := List.mem_map.mp member
    obtain ⟨_, origin', rfl⟩ := List.mem_map.mp otherMem
    rw [single _ origin _ origin'])
  rw [← List.forall₂_eq_eq_eq, List.forall₂_map_left_iff, List.forall₂_map_right_iff] at alike
  exact alike.imp fun _ _ equal => equal.symm

/-- A contender beside the one that stands for it when routes are registered in another order. -/
structure SameContender (contender copy : Contender ε) : Prop where
  route : copy.route.unordered = contender.route.unordered
  values : copy.values = contender.values
  endpoint : copy.endpoint = contender.endpoint

theorem SameContender.pattern {contender copy : Contender ε} (same : SameContender contender copy) :
    copy.route.pattern = contender.route.pattern :=
  (Route.of_unordered_eq same.route).1

/-- The contenders with an endpoint are the same in every order of registration. -/
theorem contenders_shuffled (sound : index.Sound) (headOf : ε → ε) {method : String}
    (plain : Method.parse? method ≠ some .head) {raw : List String}
    (found : List.Forall₂ (Candidate.Agree SameRoutes []) (index.collect raw) (other.collect raw)) :
    List.Forall₂ SameContender
      ((index.contenders headOf method raw).filter (·.endpoint.isSome))
      ((other.contenders headOf method raw).filter (·.endpoint.isSome)) := by
  have members := (List.forall₂_and_left _ _).mpr ⟨fun _ member => sound.pairwise_apart member, found⟩
  rw [contenders, contenders, List.filter_flatMap, List.filter_flatMap]
  refine List.rel_flatMap members ?_
  rintro candidate copy ⟨apart, routes, values⟩
  have answers : ∀ values : List String,
      ((·.endpoint.isSome) ∘ fun route : Route ε =>
        (⟨route, values, route.methods.get? headOf method⟩ : Contender ε)) =
        Route.answers headOf method := fun _ => rfl
  dsimp only
  rw [List.filter_map, List.filter_map, answers, answers]
  refine List.rel_map ?_ (forall₂_answering routes apart headOf plain)
  intro route other same
  have methods : other.methods = route.methods := (Route.of_unordered_eq same).2.1
  exact ⟨same, values, by simp only [methods]⟩

/-- Contenders without an endpoint do not matter for the choice. -/
theorem foldl_better_filter (index : RouteIndex ε) (contenders : List (Contender ε)) :
    (contenders.filter (·.endpoint.isSome)).foldl index.better none =
      contenders.foldl index.better none := by
  rw [List.foldl_filter]
  congr 1
  funext best contender
  split_ifs with answers
  · rfl
  · have none : contender.endpoint = none := by simpa using answers
    simp only [better, none]

/-- The methods that are answered at a path are the same in every order of registration. -/
theorem allowedAt_shuffled (alike : other.settings = index.settings)
    (same : SameRoutes index.routes other.routes) (raw : List String) :
    other.allowedAt raw = index.allowedAt raw := by
  have matching : SameRoutes (index.matching raw) (other.matching raw) := by
    have kept := same.filter fun route =>
      (route.pattern.captures? index.settings.ignoreCase raw).isSome
    rw [List.filter_map, List.filter_map] at kept
    rw [RouteIndex.matching, RouteIndex.matching, alike]
    exact kept
  refine List.filter_congr fun method _ => ?_
  have answered := matching.any_eq (f := fun route => route.methods.allowed.contains method)
  rw [List.any_map, List.any_map] at answered
  exact answered.symm

/-- The decision about a method other than `HEAD` is the same in every order of registration. -/
theorem resolve_shuffled (sound : index.Sound) (alike : other.settings = index.settings)
    (same : SameRoutes index.routes other.routes)
    (unmixed : Trie.Unmixed index.settings.ignoreCase (index.routes.map (·.pattern.segments)))
    (headOf : ε → ε) {method : String} (plain : Method.parse? method ≠ some .head) (path : String) :
    Resolution.Rel Resolved.Alike (index.resolve headOf method path) (other.resolve headOf method path) := by
  have found := collect_shuffled alike same unmixed (splitPath path)
  have related := contenders_shuffled sound headOf plain found
  have led := leaders_related index other SameContender.endpoint (by
    intro left right left' right' holds holds'
    rw [alike, holds.pattern, holds'.pattern]) related
  rw [foldl_better_filter, foldl_better_filter] at led
  rcases led with ⟨none, none'⟩ | ⟨leader, copy, endpoint, best, best', holds⟩
  · rw [resolve_of_none none, resolve_of_none none', allowedAmong_contenders, allowedAmong_contenders,
      allowedAt_shuffled alike same]
    exact Resolution.rel_unanswered _ _
  · have strip : copy.route.strip = leader.route.strip := (Route.of_unordered_eq holds.route).2.2
    rw [resolve_of_some best, resolve_of_some best']
    refine .resolved ⟨rfl, ?_, holds.pattern, ?_⟩
    · rw [holds.pattern, holds.values]
    · rw [strip]

end RouteIndex

/-- A call that registers one route. -/
inductive Registration where
  | route (path : String) (handlers : Fields (Option Handler)) (options : RouteOptions)
  | register (selectors : List String) (path : String) (handler : Handler) (options : RouteOptions)

namespace Registration

/-- The text of the pattern that the route is registered on. -/
def path : Registration → String
  | .route path _ _ => path
  | .register _ path _ _ => path

def apply (router : Router) : Registration → Outcome Router
  | .route path handlers options => router.route path handlers options
  | .register selectors path handler options => router.register selectors path handler options

/-- The route that the call adds, which does not depend on the router. -/
def prepared : Registration → Outcome (Route Endpoint)
  | .route path handlers options => Router.prepare path (Router.selected handlers) options
  | .register selectors path handler options => do
    let endpoint ← Router.wrapped options.middleware (.ofHandler handler)
    let handlers := Fields.ofPairs (selectors.map fun name => (name, some (.endpoint endpoint)))
    Router.prepare path (Router.selected handlers) { name := options.name, info := options.info }

/-- A fresh router after calls, one after the other. -/
def all (settings : MatchSettings) (logger : Option Logger) (calls : List Registration) :
    Outcome Router :=
  calls.foldlM apply (Router.fresh settings logger)

def patterns (calls : List Registration) : List (List Segment) :=
  calls.filterMap fun call => (Pattern.compile call.path).toOption.map (·.segments)

private theorem apply_eq_ok {call : Registration} {router after : Router} :
    call.apply router = .ok after ↔
      router.frozen = false ∧ ∃ route, call.prepared = .ok route ∧ router.add [route] = .ok after := by
  cases call with
  | route path handlers options => exact Router.route_eq_ok
  | register selectors path handler options =>
    simp only [apply, prepared, Router.register, bind_eq_ok, Router.route_eq_ok]
    constructor
    · rintro ⟨endpoint, wrapped, openness, route, prepared, added⟩
      exact ⟨openness, route, ⟨endpoint, wrapped, prepared⟩, added⟩
    · rintro ⟨openness, route, ⟨endpoint, wrapped, prepared⟩, added⟩
      exact ⟨endpoint, wrapped, openness, route, prepared, added⟩

private theorem prepared_eq_ok {call : Registration} {route : Route Endpoint}
    (prepared : call.prepared = .ok route) :
    Pattern.compile call.path = .ok route.pattern ∧ route.methods.Lawful ∧
      route.methods.isEmpty = false := by
  have of_prepare : ∀ {path bound options}, Router.prepare path bound options = .ok route →
      Pattern.compile path = .ok route.pattern ∧ route.methods.Lawful ∧ route.methods.isEmpty = false := by
    intro path bound options made
    obtain ⟨pattern, methods, compiled, _, _, rfl⟩ := Router.prepare_eq_ok.mp made
    exact ⟨compiled, Router.prepare_lawful made⟩
  cases call with
  | route path handlers options => exact of_prepare prepared
  | register selectors path handler options =>
    obtain ⟨endpoint, _, made⟩ := bind_eq_ok.mp prepared
    exact of_prepare made

private theorem forall_lawful {calls : List Registration} {batch : List (Route Endpoint)}
    (made : List.Forall₂ (fun call route => call.prepared = .ok route) calls batch) :
    ∀ route ∈ batch, route.methods.Lawful ∧ route.methods.isEmpty = false := by
  intro route member
  obtain ⟨call, _, prepared⟩ := exists_of_mem_right made member
  exact (prepared_eq_ok prepared).2

/-- Calls are accepted one after the other exactly when the batch of their routes is. -/
theorem foldlM_apply_eq_ok {calls : List Registration} {router after : Router}
    (openness : router.frozen = false) (sound : router.index.Sound) :
    calls.foldlM apply router = .ok after ↔ ∃ batch index,
      List.Forall₂ (fun call route => call.prepared = .ok route) calls batch ∧
        router.index.add batch = .ok index ∧ after = { router with index } := by
  induction calls generalizing router with
  | nil =>
    rw [List.foldlM_nil, pure_eq_ok]
    constructor
    · rintro rfl
      exact ⟨[], router.index, .nil, rfl, rfl⟩
    · rintro ⟨batch, index, made, added, rfl⟩
      cases made
      cases added
      rfl
  | cons call calls ih =>
    rw [List.foldlM_cons, bind_eq_ok]
    constructor
    · rintro ⟨_, first, rest⟩
      obtain ⟨_, route, prepared, added⟩ := apply_eq_ok.mp first
      obtain ⟨middle, firstAdded, rfl⟩ := Router.add_eq_ok.mp added
      have middleSound := sound.add (forall_lawful (.cons prepared .nil)) firstAdded
      obtain ⟨batch, index, others, restAdded, rfl⟩ :=
        (@ih { router with index := middle } openness middleSound).mp rest
      have made : List.Forall₂ (fun call route => call.prepared = .ok route) (call :: calls)
        (route :: batch) := .cons prepared others
      exact ⟨route :: batch, index, made,
        (sound.add_cons (forall_lawful made)).mpr ⟨middle, firstAdded, restAdded⟩, rfl⟩
    · rintro ⟨_, index, made, added, rfl⟩
      have lawful := forall_lawful made
      obtain ⟨route, batch, prepared, others, rfl⟩ := List.forall₂_cons_left_iff.mp made
      obtain ⟨middle, firstAdded, restAdded⟩ := (sound.add_cons lawful).mp added
      have middleSound := sound.add (forall_lawful (.cons prepared .nil)) firstAdded
      have first : call.apply router = .ok { router with index := middle } := apply_eq_ok.mpr
        ⟨openness, route, prepared, Router.add_eq_ok.mpr ⟨middle, firstAdded, rfl⟩⟩
      exact ⟨_, first, (@ih { router with index := middle } openness middleSound).mpr
        ⟨batch, index, others, restAdded, rfl⟩⟩

/-- The patterns of prepared routes are those of their calls. -/
theorem mem_patterns {calls : List Registration} {batch : List (Route Endpoint)}
    (made : List.Forall₂ (fun call route => call.prepared = .ok route) calls batch) {route : Route Endpoint}
    (member : route ∈ batch) : route.pattern.segments ∈ patterns calls := by
  obtain ⟨call, callMem, prepared⟩ := exists_of_mem_right made member
  refine List.mem_filterMap.mpr ⟨call, callMem, ?_⟩
  rw [(prepared_eq_ok prepared).1]
  rfl

/-- When calls in one order are accepted on a fresh router, so are the same calls in any other order, and
the two routers decide alike about every path and every method but `HEAD`, unless patterns that begin with
one shape go on with different constraints. -/
theorem all_perm {settings : MatchSettings} {logger : Option Logger} {calls calls' : List Registration}
    (perm : calls.Perm calls') (unmixed : Trie.Unmixed settings.ignoreCase (patterns calls))
    {router : Router} (accepted : all settings logger calls = .ok router) :
    ∃ router', all settings logger calls' = .ok router' ∧
      ∀ method path, Method.parse? method ≠ some .head →
        Resolution.Rel Resolved.Alike (router.resolve method path) (router'.resolve method path) := by
  have empty : (Router.fresh settings logger).index.Sound := RouteIndex.sound_empty settings
  obtain ⟨batch, index, made, added, rfl⟩ := (foldlM_apply_eq_ok rfl empty).mp accepted
  obtain ⟨batch', made', shuffled⟩ := List.perm_comp_forall₂ perm.symm made
  have sound := empty.add (forall_lawful made) added
  have answers := fun route member => (forall_lawful made route member).2
  have answers' := fun route member => (forall_lawful made' route member).2
  have same : RouteIndex.SameRoutes batch batch' := shuffled.symm.map _
  obtain ⟨coherent, rfl⟩ := (empty.add_iff answers).mp added
  have added' := (empty.add_iff answers').mpr ⟨coherent.of_perm same, rfl⟩
  refine ⟨_, (foldlM_apply_eq_ok rfl empty).mpr ⟨batch', _, made', added', rfl⟩, ?_⟩
  intro method path plain
  refine RouteIndex.resolve_shuffled sound ?_ ?_ ?_ Endpoint.headOf plain path
  · rw [RouteIndex.settings_foldl_insert, RouteIndex.settings_foldl_insert]
  · rw [RouteIndex.SameRoutes, RouteIndex.routes_foldl_insert, RouteIndex.routes_foldl_insert,
      List.map_append, List.map_append, RouteIndex.map_unordered_numbered,
      RouteIndex.map_unordered_numbered]
    exact same.append_left _
  · rw [RouteIndex.settings_foldl_insert, RouteIndex.routes_foldl_insert]
    refine unmixed.mono fun segments member => ?_
    obtain ⟨copy, copyMem, rfl⟩ := List.mem_map.mp member
    obtain ⟨route, routeMem, order, rfl⟩ :=
      exists_of_mem_right (RouteIndex.forall₂_numbered _ batch) copyMem
    have known : route.pattern.segments ∈ patterns calls := mem_patterns made routeMem
    exact known

/-- Two calls whose routes both match the path of a number. -/
def numberCalls : List Registration :=
  [.route "/users/:id<[0-9]+>" [("GET", some (.endpoint .notFound))] {},
    .register ["GET", "PUT"] "/users/:name" (.endpoint .notFound) {}]

theorem all_perm_numberCalls : Trie.Unmixed false (patterns numberCalls) ∧
    Method.parse? "get" ≠ some .head ∧
    ∃ router router', all {} none numberCalls = .ok router ∧
      all {} none numberCalls.reverse = .ok router' ∧
      Resolution.Rel Resolved.Alike (router.resolve "get" "/users/7") (router'.resolve "get" "/users/7") := by
  have edges : ((patterns numberCalls).all fun segments => segments.all fun segment =>
      segment.edge false ∈ [.literal "users", .capture, .constrained "[0-9]+"]) = true := rfl
  have sources : ∀ segments ∈ patterns numberCalls, ∀ segment ∈ segments, ∀ name constraint,
      segment = .constrained name constraint → constraint.source = "[0-9]+" := by
    rintro segments member _ inside name constraint rfl
    have edge := List.all_eq_true.mp (List.all_eq_true.mp edges segments member) _ inside
    simpa [Segment.edge] using edge
  have unmixed : Trie.Unmixed false (patterns numberCalls) := by
    intro left leftMem right rightMem place _ name name' constraint constraint' here there
    rw [sources left leftMem _ (List.mem_of_getElem? here) _ _ rfl,
      sources right rightMem _ (List.mem_of_getElem? there) _ _ rfl]
  have plain : Method.parse? "get" ≠ some .head := by decide
  obtain ⟨router, accepted⟩ : ∃ router, all {} none numberCalls = .ok router := ⟨_, rfl⟩
  obtain ⟨router', accepted', alike⟩ :=
    all_perm (List.reverse_perm numberCalls).symm unmixed accepted
  exact ⟨unmixed, plain, router, router', accepted, accepted', alike "get" "/users/7" plain⟩

end Registration

end HttpRouting

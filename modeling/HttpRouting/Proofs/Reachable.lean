import HttpRouting.Proofs.Registry
import HttpRouting.Router

/-! # Reachable routers

The routers that registrations make. `Router.Reachable` starts from routers that hold nothing and is
closed under every operation that succeeds; a router that is mounted has to be reachable too. What each
operation does to the routes is said once, by an inversion lemma, and since all of them add batches of
routes with lawful tables or leave the routes alone, the index of every reachable router is sound.
-/

namespace HttpRouting

namespace Router

/-- The routers that operations can make out of fresh ones. -/
inductive Reachable : Router → Prop
  | fresh (settings : MatchSettings) (logger : Option Logger) : Reachable (fresh settings logger)
  | route {router after : Router} {path : String} {handlers : Fields (Option Handler)}
      {options : RouteOptions} (reached : Reachable router)
      (accepted : router.route path handlers options = .ok after) : Reachable after
  | mountHandler {router after : Router} {path : String} {handler : Handler} {strip : Bool}
      (reached : Reachable router)
      (accepted : router.mount path (.handler handler) strip = .ok after) : Reachable after
  | mountRouter {router child after : Router} {path : String} {strip : Bool}
      (reached : Reachable router) (childReached : Reachable child)
      (accepted : router.mount path (.router child) strip = .ok after) : Reachable after
  | use {router after : Router} {middleware : Middleware} (reached : Reachable router)
      (accepted : router.use middleware = .ok after) : Reachable after
  | withFallback {router after : Router} {handler : Handler} (reached : Reachable router)
      (accepted : router.withFallback handler = .ok after) : Reachable after
  | settled {router : Router} (pipelines : List (List Middleware)) (reached : Reachable router) :
      Reachable (router.settled pipelines)
  | freeze {router after : Router} (reached : Reachable router)
      (frozen : router.freeze = .ok after) : Reachable after

/-- Registering one handler for several selectors is one such step. -/
theorem Reachable.register {router after : Router} {selectors : List String} {path : String}
    {handler : Handler} {options : RouteOptions} (reached : Reachable router)
    (accepted : router.register selectors path handler options = .ok after) : Reachable after := by
  obtain ⟨endpoint, _, accepted⟩ := bind_eq_ok.mp accepted
  exact reached.route accepted

/-- So is a group, when what is registered on the group makes a reachable router. -/
theorem Reachable.group {router after : Router} {path : String} {build : Router → Outcome Router}
    (reached : Reachable router) (inner : ∀ built, build router.sibling = .ok built → Reachable built)
    (accepted : router.group path build = .ok after) : Reachable after := by
  obtain ⟨built, ran, accepted⟩ := bind_eq_ok.mp accepted
  exact reached.mountRouter (inner built ran) accepted

theorem requireOpen_eq_ok {router : Router} {target : String} {method : Option String} :
    router.requireOpen target method = .ok () ↔ router.frozen = false := by
  rw [requireOpen]
  split_ifs with closed <;> simp [closed]

theorem add_eq_ok {router after : Router} {batch : List (Route Endpoint)} :
    router.add batch = .ok after ↔
      ∃ index, router.index.add batch = .ok index ∧ after = { router with index } := by
  simp only [add, bind_eq_ok, pure_eq_ok, Outcome.lift_eq_ok, eq_comm (a := after)]

/-- A registration adds the one route that was prepared for it. -/
theorem route_eq_ok {router after : Router} {path : String} {handlers : Fields (Option Handler)}
    {options : RouteOptions} :
    router.route path handlers options = .ok after ↔
      router.frozen = false ∧ ∃ route, prepare path (selected handlers) options = .ok route ∧
        router.add [route] = .ok after := by
  simp only [Router.route, bind_eq_ok]
  constructor
  · rintro ⟨⟨⟩, openness, rest⟩
    exact ⟨requireOpen_eq_ok.mp openness, rest⟩
  · rintro ⟨openness, rest⟩
    exact ⟨(), requireOpen_eq_ok.mpr openness, rest⟩

theorem prepare_eq_ok {path : String} {bound : List (Selector × Option Handler)}
    {options : RouteOptions} {route : Route Endpoint} :
    prepare path bound options = .ok route ↔ ∃ pattern methods,
      Pattern.compile path = .ok pattern ∧
        bound.foldlM (bindHandler pattern.source options.middleware) .empty = .ok methods ∧
        methods.isEmpty = false ∧
        route = { pattern, methods, order := 0, name := options.name, info := options.info } := by
  simp only [prepare, bind_eq_ok, Outcome.lift_eq_ok]
  constructor
  · rintro ⟨pattern, compiled, methods, bound, rest⟩
    split_ifs at rest with empty
    · exact (throw_ne_ok rest).elim
    · exact ⟨pattern, methods, compiled, bound, by simpa using empty, (pure_eq_ok.mp rest).symm⟩
  · rintro ⟨pattern, methods, compiled, bound, answers, rfl⟩
    refine ⟨pattern, compiled, methods, bound, ?_⟩
    rw [answers]
    rfl

private theorem bindHandler_lawful {source : String} {middleware : List Middleware}
    {methods after : MethodTable Endpoint} {bound : Selector × Option Handler}
    (lawful : methods.Lawful) (accepted : bindHandler source middleware methods bound = .ok after) :
    after.Lawful := by
  rw [bindHandler] at accepted
  split at accepted
  · cases accepted
    exact lawful
  · obtain ⟨endpoint, _, accepted⟩ := bind_eq_ok.mp accepted
    exact (lawful.set (Outcome.lift_eq_ok.mp accepted)).1

theorem prepare_lawful {path : String} {bound : List (Selector × Option Handler)}
    {options : RouteOptions} {route : Route Endpoint}
    (prepared : prepare path bound options = .ok route) :
    route.methods.Lawful ∧ route.methods.isEmpty = false := by
  obtain ⟨pattern, methods, _, ran, answers, rfl⟩ := prepare_eq_ok.mp prepared
  exact ⟨foldlM_ok_induction (fun _ _ _ => bindHandler_lawful) MethodTable.lawful_empty ran, answers⟩

/-- Freezing a router gives it a dispatcher and changes nothing else. -/
theorem freeze_eq {router frozen : Router} (closed : router.freeze = .ok frozen) :
    frozen = { router with dispatcher := frozen.dispatcher } := by
  rw [Router.freeze] at closed
  split at closed
  · cases closed
    rfl
  · obtain ⟨endpoint, _, same⟩ := bind_eq_ok.mp closed
    cases pure_eq_ok.mp same
    rfl

theorem mountPoint_eq_ok {router : Router} {path : String} {head : Pattern} :
    router.mountPoint path = .ok head ↔
      router.frozen = false ∧ Pattern.compile path = .ok head ∧ head.hasWildcard = false := by
  simp only [mountPoint, bind_eq_ok, Outcome.lift_eq_ok]
  constructor
  · rintro ⟨⟨⟩, openness, pattern, compiled, rest⟩
    split_ifs at rest with wild
    · exact (throw_ne_ok rest).elim
    · cases pure_eq_ok.mp rest
      exact ⟨requireOpen_eq_ok.mp openness, compiled, by simpa using wild⟩
  · rintro ⟨openness, compiled, plain⟩
    refine ⟨(), requireOpen_eq_ok.mpr openness, head, compiled, ?_⟩
    rw [plain]
    rfl

theorem mount_eq_ok {router after : Router} {path : String} {child : Mountable} {strip : Bool} :
    router.mount path child strip = .ok after ↔
      ∃ head, router.mountPoint path = .ok head ∧ router.mountOn head strip child = .ok after :=
  bind_eq_ok

/-- Mounting a handler adds one route for everything below the pattern. -/
theorem mountOn_handler_eq_ok {router after : Router} {head : Pattern} {handler : Handler}
    {strip : Bool} :
    router.mountOn head strip (.handler handler) = .ok after ↔ ∃ pattern,
      head.under restPattern = .ok pattern ∧
        router.add [⟨pattern, { catchAll := some (.ofHandler handler) }, 0, none, none,
          head.hidden strip []⟩] = .ok after := by
  simp only [mountOn, bind_eq_ok, Outcome.lift_eq_ok]

private theorem requireAlike_eq_ok {router child : Router} {head : Pattern} :
    router.requireAlike child head = .ok () ↔ child.index.settings = router.index.settings := by
  rw [requireAlike, settingsDiffer]
  obtain ⟨ignoreCase, precedence⟩ := router.index.settings
  obtain ⟨ignoreCase', precedence'⟩ := child.index.settings
  by_cases sameCase : ignoreCase' = ignoreCase
  · by_cases samePrecedence : precedence' = precedence <;> simp [sameCase, samePrecedence]
  · simp [sameCase]

/-- Mounting a router adds the copies of its routes. -/
theorem mountOn_router_eq_ok {router child after : Router} {head : Pattern} {strip : Bool} :
    router.mountOn head strip (.router child) = .ok after ↔
      child.index.settings = router.index.settings ∧ ∃ frozen batch, child.freeze = .ok frozen ∧
        frozen.routes.mapM (frozen.copied head strip) = .ok batch ∧ router.add batch = .ok after := by
  simp only [mountOn, bind_eq_ok]
  constructor
  · rintro ⟨⟨⟩, alike, frozen, closed, batch, copies, rest⟩
    exact ⟨requireAlike_eq_ok.mp alike, frozen, batch, closed, copies, rest⟩
  · rintro ⟨alike, frozen, batch, closed, copies, rest⟩
    exact ⟨(), requireAlike_eq_ok.mpr alike, frozen, closed, batch, copies, rest⟩

theorem copied_eq_ok {child : Router} {head : Pattern} {strip : Bool} {route copy : Route Endpoint} :
    child.copied head strip route = .ok copy ↔ ∃ pattern methods,
      head.under route.pattern = .ok pattern ∧ route.methods.mapM child.carried = .ok methods ∧
        copy = { route with pattern, methods, strip := head.hidden strip route.strip } := by
  simp only [copied, bind_eq_ok, pure_eq_ok, Outcome.lift_eq_ok]
  constructor
  · rintro ⟨pattern, joined, methods, carried, rfl⟩
    exact ⟨pattern, methods, joined, carried, rfl⟩
  · rintro ⟨pattern, methods, joined, carried, rfl⟩
    exact ⟨pattern, joined, methods, carried, rfl⟩

theorem lawful_of_copied {child : Router} {head : Pattern} {strip : Bool} {route copy : Route Endpoint}
    (lawful : route.methods.Lawful ∧ route.methods.isEmpty = false)
    (copied : child.copied head strip route = .ok copy) :
    copy.methods.Lawful ∧ copy.methods.isEmpty = false := by
  obtain ⟨pattern, methods, _, carried, rfl⟩ := copied_eq_ok.mp copied
  exact ⟨lawful.1.mapM carried, MethodTable.isEmpty_mapM carried lawful.2⟩

/-- The index of every reachable router is sound. -/
theorem Reachable.sound {router : Router} (reached : Reachable router) : router.index.Sound := by
  induction reached with
  | fresh settings logger => exact RouteIndex.sound_empty settings
  | route _ accepted ih =>
    obtain ⟨_, route, prepared, added⟩ := route_eq_ok.mp accepted
    obtain ⟨index, indexed, rfl⟩ := add_eq_ok.mp added
    exact ih.add (by simpa using prepare_lawful prepared) indexed
  | mountHandler _ accepted ih =>
    obtain ⟨head, _, mounted⟩ := mount_eq_ok.mp accepted
    obtain ⟨pattern, _, added⟩ := mountOn_handler_eq_ok.mp mounted
    obtain ⟨index, indexed, rfl⟩ := add_eq_ok.mp added
    refine ih.add ?_ indexed
    intro route member
    cases List.mem_singleton.mp member
    exact ⟨⟨List.nodup_nil, fun _ => rfl⟩, rfl⟩
  | mountRouter _ _ accepted ih childIh =>
    obtain ⟨head, _, mounted⟩ := mount_eq_ok.mp accepted
    obtain ⟨_, frozen, batch, closed, copies, added⟩ := mountOn_router_eq_ok.mp mounted
    obtain ⟨index, indexed, rfl⟩ := add_eq_ok.mp added
    refine ih.add ?_ indexed
    intro copy member
    obtain ⟨route, routeMem, copied⟩ := exists_of_mem_right (mapM_eq_ok.mp copies) member
    rw [freeze_eq closed] at routeMem
    exact lawful_of_copied (childIh.lawful route routeMem) copied
  | use _ accepted ih =>
    obtain ⟨_, _, same⟩ := bind_eq_ok.mp accepted
    cases pure_eq_ok.mp same
    exact ih
  | withFallback _ accepted ih =>
    obtain ⟨_, _, same⟩ := bind_eq_ok.mp accepted
    cases pure_eq_ok.mp same
    exact ih
  | settled _ _ ih => exact ih
  | freeze _ closed ih =>
    rw [freeze_eq closed]
    exact ih

/-- A router with a capture and a literal that both match one path. -/
def usersRouter : Outcome Router := do
  let router ← Router.fresh.route "/users/:id" [("GET", some (.endpoint .notFound))]
  router.route "/users/me" [("GET", some (.endpoint .notFound))]

theorem reachable_usersRouter {router : Router} (made : usersRouter = .ok router) :
    Reachable router := by
  obtain ⟨first, registered, rest⟩ := bind_eq_ok.mp made
  exact .route (.route (.fresh {} none) registered) rest

end Router

end HttpRouting

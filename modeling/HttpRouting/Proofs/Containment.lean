import HttpRouting.Proofs.Bindings
import HttpRouting.Proofs.Composition
import HttpRouting.Proofs.Registering
import HttpRouting.Proofs.Sessions

/-! # Routers contain failures

A router that has no middleware of its own stands around the functions and plain endpoints that it was assembled
from, also around those of routers that were mounted on it. Attempts to answer what they throw may fail, and what
such attempts leave is answered by the outermost guard of the router.

So the router answers every request exactly when all that is left can be answered. Of statuses and headers that no
response can carry, and of values without a text, a violation is left, and that can. An object that throws itself
whenever it is asked for its text gets through every guard.
-/

namespace HttpRouting

variable {thrown : Fault → Prop}

/-- A handler that is a function or a plain endpoint, or was put together from such, which throw nothing but faults
of a kind. -/
def Handler.Simple (thrown : Fault → Prop) (handler : Handler) : Prop :=
  Endpoint.Composed thrown (.ofHandler handler)

namespace Middleware

variable {inner outer : Endpoint}

/-- Layers made of functions give an endpoint that is put together from functions. -/
theorem composed_transformAll {layers : List Middleware} (simple : ∀ layer ∈ layers, layer.FromFunction thrown)
    (composed : Endpoint.Composed thrown inner) (made : transformAll layers inner = .ok outer) :
    Endpoint.Composed thrown outer := by
  induction layers generalizing outer with
  | nil =>
    cases made
    exact composed
  | cons layer layers ih =>
    obtain ⟨here, later⟩ := List.forall_mem_cons.mp simple
    obtain ⟨middle, rest, first⟩ := bind_eq_ok.mp made
    exact (ih later rest).transform here first

/-- What the pipelines hold does not matter to a layer made of a function. -/
theorem expand_of_simple {layer : Middleware} (simple : layer.FromFunction thrown)
    (pipelines : List (List Middleware)) : layer.expand pipelines = layer := by
  have once : expandOnce pipelines layer = layer := by
    cases simple <;> rfl
  rw [expand, List.foldl_fixed' fun _ => once]

end Middleware

namespace Router

/-- The routers that are assembled from simple handlers and layers, on the router itself, on its routes and on
what is mounted. -/
inductive Assembled (thrown : Fault → Prop) : Router → Prop
  | fresh (settings : MatchSettings) (logger : Option Logger) : Assembled thrown (fresh settings logger)
  | route {router after : Router} {path : String} {handlers : Fields (Option Handler)}
      {options : RouteOptions} (assembled : Assembled thrown router)
      (handled : ∀ name handler, (name, some handler) ∈ handlers → handler.Simple thrown)
      (layered : ∀ layer ∈ options.middleware, layer.FromFunction thrown)
      (accepted : router.route path handlers options = .ok after) : Assembled thrown after
  | mountHandler {router after : Router} {path : String} {handler : Handler} {strip : Bool}
      (assembled : Assembled thrown router) (simple : handler.Simple thrown)
      (accepted : router.mount path (.handler handler) strip = .ok after) : Assembled thrown after
  | mountRouter {router child after : Router} {path : String} {strip : Bool}
      (assembled : Assembled thrown router) (childAssembled : Assembled thrown child)
      (accepted : router.mount path (.router child) strip = .ok after) : Assembled thrown after
  | use {router after : Router} {layer : Middleware} (assembled : Assembled thrown router)
      (simple : layer.FromFunction thrown) (accepted : router.use layer = .ok after) : Assembled thrown after
  | withFallback {router after : Router} {handler : Handler} (assembled : Assembled thrown router)
      (simple : handler.Simple thrown) (accepted : router.withFallback handler = .ok after) : Assembled thrown after
  | freeze {router after : Router} (assembled : Assembled thrown router) (frozen : router.freeze = .ok after) :
      Assembled thrown after

/-- What assembling keeps of a router: all that its routes bind, its fallback and its layers are put together
from functions and plain endpoints, and a router that is frozen is dispatched as one with its routes and layers. -/
structure Contained (thrown : Fault → Prop) (router : Router) : Prop where
  routes : ∀ route ∈ router.routes, route.methods.All fun _ => Endpoint.Composed thrown
  fallback : Endpoint.Composed thrown router.fallback
  layers : ∀ layer ∈ router.layers, layer.FromFunction thrown
  dispatched : ∀ endpoint, router.dispatcher = some endpoint → router.chain = .ok endpoint

variable {router after : Router}

private theorem dispatch_withDispatcher (router : Router) (dispatcher : Option Endpoint) :
    { router with dispatcher }.dispatch = router.dispatch := by
  funext request
  simp only [dispatch, resolve]

/-- How a router is dispatched does not depend on whether it already is. -/
theorem chain_withDispatcher (router : Router) (dispatcher : Option Endpoint) :
    { router with dispatcher }.chain = router.chain := by
  rw [chain, chain, dispatch_withDispatcher]

/-- A batch of such routes may be added to an open router. -/
theorem Contained.add {batch : List (Route Endpoint)} (contained : router.Contained thrown)
    (openness : router.frozen = false)
    (routes : ∀ route ∈ batch, route.methods.All fun _ => Endpoint.Composed thrown)
    (added : router.add batch = .ok after) : after.Contained thrown := by
  obtain ⟨same, copies, behind, alike⟩ := routes_of_add added
  have undispatched : after.dispatcher = none := by
    rw [same]
    exact dispatcher_of_open openness
  refine ⟨fun route member => ?_, ?_, ?_, fun endpoint found => ?_⟩
  · rw [behind] at member
    rcases List.mem_append.mp member with old | new
    · exact contained.routes route old
    · obtain ⟨origin, originMem, order, rfl⟩ := exists_of_mem_right alike new
      exact routes origin originMem
  · rw [same]
    exact contained.fallback
  · rw [same]
    exact contained.layers
  · cases undispatched.symm.trans found

/-- What is carried from a router that is mounted is put together from functions. -/
theorem Contained.carried {inner outer : Endpoint} (contained : router.Contained thrown)
    (composed : Endpoint.Composed thrown inner) (made : router.carried inner = .ok outer) :
    Endpoint.Composed thrown outer := by
  rw [Router.carried] at made
  split_ifs at made
  · cases made
    exact composed
  · obtain ⟨middle, transformed, same⟩ := bind_eq_ok.mp made
    cases pure_eq_ok.mp same
    have put := Middleware.composed_transformAll contained.layers composed transformed
    rwa [Endpoint.adapt_of_composable put.composable]

/-- Every router that is assembled contains what it was assembled from. -/
theorem Assembled.contained (assembled : Assembled thrown router) : router.Contained thrown := by
  induction assembled with
  | fresh settings logger =>
    have missing : ∃ response, Response.notFound = .ok response := ⟨_, rfl⟩
    obtain ⟨response, missing⟩ := missing
    refine ⟨by simp [Router.routes, Router.fresh], .function fun _ => ?_, by simp [Router.fresh],
      by simp [Router.fresh]⟩
    rw [missing]
    exact .of_pure
  | @route router after path handlers options _ handled layered accepted ih =>
    obtain ⟨openness, route, prepared, added⟩ := route_eq_ok.mp accepted
    refine ih.add openness (fun other member => ?_) added
    cases List.mem_singleton.mp member
    refine (all_of_prepare prepared).imp ?_
    rintro selector endpoint ⟨handler, given, made⟩
    obtain ⟨⟨name, _⟩, listed, same⟩ := List.mem_filterMap.mp given
    obtain ⟨_, _, same⟩ := Option.map_eq_some_iff.mp same
    cases same
    exact Middleware.composed_transformAll layered (handled name handler listed) made
  | @mountHandler router after path handler strip _ simple accepted ih =>
    obtain ⟨head, point, mounted⟩ := mount_eq_ok.mp accepted
    obtain ⟨pattern, _, added⟩ := mountOn_handler_eq_ok.mp mounted
    refine ih.add (mountPoint_eq_ok.mp point).1 (fun other member => ?_) added
    cases List.mem_singleton.mp member
    exact ⟨by simp, fun endpoint same => Option.some.inj same ▸ simple⟩
  | mountRouter _ _ accepted ih childIh =>
    obtain ⟨head, point, mounted⟩ := mount_eq_ok.mp accepted
    obtain ⟨_, frozen, batch, closed, copies, added⟩ := mountOn_router_eq_ok.mp mounted
    refine ih.add (mountPoint_eq_ok.mp point).1 (fun copy member => ?_) added
    obtain ⟨route, routeMem, copied⟩ := exists_of_mem_right (mapM_eq_ok.mp copies) member
    rw [freeze_eq closed] at routeMem copied
    refine (all_of_copied (childIh.routes route routeMem) copied).imp ?_
    rintro _ endpoint ⟨inner, composed, made⟩
    exact childIh.carried composed made
  | use _ simple accepted ih =>
    obtain ⟨openness, rfl⟩ := use_eq_ok.mp accepted
    refine ⟨ih.routes, ih.fallback, fun layer member => ?_, fun endpoint found => ?_⟩
    · rcases List.mem_append.mp member with old | new
      · exact ih.layers layer old
      · cases List.mem_singleton.mp new
        exact simple
    · cases (dispatcher_of_open openness).symm.trans found
  | withFallback _ simple accepted ih =>
    obtain ⟨openness, rfl⟩ := withFallback_eq_ok.mp accepted
    refine ⟨ih.routes, simple, ih.layers, fun endpoint found => ?_⟩
    cases (dispatcher_of_open openness).symm.trans found
  | freeze _ closed ih =>
    rw [Router.freeze] at closed
    split at closed
    · cases closed
      exact ih
    · obtain ⟨endpoint, built, same⟩ := bind_eq_ok.mp closed
      cases pure_eq_ok.mp same
      refine ⟨ih.routes, ih.fallback, ih.layers, fun other found => ?_⟩
      rw [chain_withDispatcher, ← Option.some.inj found]
      exact built

/-- Registering one handler for several selectors assembles a router too. -/
theorem Assembled.register {selectors : List String} {path : String} {handler : Handler} {options : RouteOptions}
    (assembled : Assembled thrown router) (simple : handler.Simple thrown)
    (layered : ∀ layer ∈ options.middleware, layer.FromFunction thrown)
    (accepted : router.register selectors path handler options = .ok after) : Assembled thrown after := by
  obtain ⟨endpoint, made, accepted⟩ := bind_eq_ok.mp accepted
  have composed := Middleware.composed_transformAll layered simple made
  refine assembled.route (fun name other listed => ?_) (by simp) accepted
  obtain ⟨_, _, same⟩ := List.mem_map.mp (Fields.mem_of_mem_ofPairs listed)
  cases same
  rwa [Handler.Simple, Endpoint.ofHandler, Endpoint.adapt_of_composable composed.composable]

/-- So does a group, when what is registered on it assembles its router. -/
theorem Assembled.group {path : String} {build : Router → Outcome Router} (assembled : Assembled thrown router)
    (inner : ∀ built, build router.sibling = .ok built → Assembled thrown built)
    (accepted : router.group path build = .ok after) : Assembled thrown after := by
  obtain ⟨built, ran, accepted⟩ := bind_eq_ok.mp accepted
  exact assembled.mountRouter (inner built ran) accepted

/-- What the pipelines hold does not matter to such a router. -/
theorem Contained.settled_eq (contained : router.Contained thrown) (pipelines : List (List Middleware)) :
    router.settled pipelines = router := by
  have same : router.layers.map (Middleware.expand pipelines) = router.layers := by
    refine List.map_congr_left (fun layer member => ?_) |>.trans (List.map_id _)
    exact Middleware.expand_of_simple (contained.layers layer member) pipelines
  rw [settled, same]

/-- What answers a request by one of the routes is put together from functions; one that answers `HEAD` in the place
of another may find a response that cannot be made again without its body. -/
theorem Contained.composed_of_resolve (contained : router.Contained thrown) {method path : String}
    {choice : Resolved Endpoint} (resolved : router.resolve method path = .resolved choice) :
    Endpoint.Composed (fun fault => thrown fault ∨ fault.IsViolation) choice.endpoint := by
  obtain ⟨member, gets, _⟩ := RouteIndex.of_resolve resolved
  obtain ⟨_, inner, composed, _, same | ⟨_, same⟩⟩ := (contained.routes _ member).of_get? gets
  · rw [same]
    exact composed.mono fun _ => .inl
  · rw [same]
    exact (composed.mono fun _ => .inl).after fun _ => .of_ofViolation fun kind => .inr ⟨kind, rfl⟩

/-- What comes out of what the router does with a request: what failed attempts to answer leave, and violations. -/
theorem Contained.throwsOnly_dispatch (contained : router.Contained thrown) (request : Request) :
    ThrowsOnly (fun fault => Endpoint.Unanswered thrown fault ∨ fault.IsViolation) (router.dispatch request) := by
  rw [dispatch]
  split
  · rename_i choice resolved
    have composed := contained.composed_of_resolve resolved
    refine ThrowsOnly.of_modify.bind fun _ => (Trace.throwsOnly_setRoute _ _).bind fun _ => ?_
    exact (composed.throwsOnly _).mono fun _ unanswered => .inl unanswered.of_or_isViolation
  · exact .of_ofViolation fun kind => .inr ⟨kind, rfl⟩
  · exact (contained.fallback.throwsOnly request).mono fun _ => .inl

/-- Only residues of what failed attempts to answer leave get through the guard around that. -/
theorem Contained.throwsOnly_guarded (contained : router.Contained thrown) (request : Request) :
    ThrowsOnly (fun left => ∃ cause, Endpoint.Unanswered thrown cause ∧ cause.residue? = some left)
      ((Endpoint.guarded router.dispatch).call request) := by
  refine (Endpoint.throwsOnly_guard (contained.throwsOnly_dispatch request)).mono ?_
  rintro left ⟨cause, unanswered | violation, residue⟩
  · exact ⟨cause, unanswered, residue⟩
  · cases violation.residue?_eq_none.symm.trans residue

/-- A router without layers of its own is dispatched by a guard around it. -/
theorem chain_of_bare (bare : router.layers = []) : router.chain = .ok (.guarded router.dispatch) := by
  rw [chain, bare]
  rfl

end Router

namespace Deployment

variable {deployment : Deployment} {number : Nat}

/-- The dispatcher of a router is had without a fault if it can be built. -/
theorem exists_dispatcher {router : Router} {endpoint : Endpoint}
    (built : (router.settled deployment.layers).chain = .ok endpoint)
    (dispatched : ∀ other, router.dispatcher = some other → other = endpoint) (number : Nat) (sites : Sites)
    (world : World) : ∃ final, deployment.dispatcher number router sites world = (.ok endpoint, final) := by
  rw [dispatcher]
  cases frozen : router.dispatcher with
  | some other =>
    rw [dispatched other frozen]
    exact ⟨world, rfl⟩
  | none =>
    dsimp only
    rw [built]
    change ∃ final, (do
      unless world.closed.contains number do
        set { world with closed := world.closed ++ [number] }
        logTo (router.logger.getD world.logger) .debug "Router frozen" router.frozenContext
      return endpoint : Act Endpoint) sites world = (.ok endpoint, final)
    by_cases noted : world.closed.contains number = true
    · rw [if_pos noted]
      exact ⟨world, rfl⟩
    · rw [if_neg noted]
      exact ⟨_, rfl⟩

/-- A request to a router without layers of its own meets the guard around the router. -/
theorem answer_of_bare {registry : Registry} (site : deployment.registryAt? number = some registry)
    (assembled : registry.toRouter.Assembled thrown) (bare : registry.layers = []) (request : Request) (sites : Sites)
    (world : World) : ∃ middle, deployment.answer number request sites world =
      (Endpoint.guarded registry.toRouter.dispatch).call request sites middle := by
  have contained := assembled.contained
  have built := Router.chain_of_bare bare
  have dispatched (other : Endpoint) (frozen : registry.dispatcher = some other) :
      other = .guarded registry.toRouter.dispatch :=
    Except.ok.inj ((contained.dispatched other frozen).symm.trans built)
  have settled : (registry.toRouter.settled deployment.layers).chain = .ok (.guarded registry.toRouter.dispatch) := by
    rw [contained.settled_eq deployment.layers]
    exact built
  obtain ⟨middle, ready⟩ := exists_dispatcher settled dispatched number sites world
  refine ⟨middle, ?_⟩
  rw [answer, registryAt?_eq_some.mp site]
  dsimp only
  rw [run_act_bind, ready]

def throwingRouter (fault : Fault) : Router :=
  { Router.fresh with fallback := .ofHandler (.function fun _ => throw fault) }

theorem assembled_throwingRouter {fault : Fault} (known : thrown fault) :
    (throwingRouter fault).Assembled thrown := by
  have accepted : Router.fresh.withFallback (.function fun _ => throw fault) = .ok (throwingRouter fault) := rfl
  exact .withFallback (.fresh {} none) (.function fun _ => .of_throw known) accepted

/-- What its fallback throws meets two guards. -/
theorem answer_throwingRouter (fault : Fault) (request : Request) (sites : Sites) (world : World) : ∃ middle,
    ({ sites := [.paths (.ofRouter (throwingRouter fault))] } : Deployment).answer 0 request sites world =
      tryCatch (answerFault fault) answerFault sites middle := by
  have assembled : (throwingRouter fault).Assembled fun _ => True := assembled_throwingRouter trivial
  have site : ({ sites := [.paths (.ofRouter (throwingRouter fault))] } : Deployment).registryAt? 0 =
      some (.ofRouter (throwingRouter fault)) := rfl
  obtain ⟨middle, ran⟩ := answer_of_bare site assembled rfl request sites world
  have missing : (throwingRouter fault).resolve request.method request.path = .notFound :=
    RouteIndex.resolve_of_unanswered rfl
  have dispatched : (throwingRouter fault).dispatch request = answerFault fault := by
    rw [Router.dispatch, missing]
    rfl
  refine ⟨middle, ran.trans ?_⟩
  change tryCatch ((throwingRouter fault).dispatch request) answerFault sites middle = _
  rw [dispatched]

/-- Routers without layers of their own that are assembled from functions and plain endpoints answer every request
exactly when all that failed attempts to answer leave can be answered. Statuses and headers that no response can
carry, and values without a text, leave nothing else. Whatever is thrown, only what both attempts leave gets out. -/
theorem answer_contained_iff (thrown : Fault → Prop) :
    ((∀ (deployment : Deployment) number registry, deployment.registryAt? number = some registry →
        registry.toRouter.Assembled thrown → registry.layers = [] → ∀ request sites world,
          ∃ response final, deployment.answer number request sites world = (.ok response, final)) ↔
      ∀ fault left : Fault, thrown fault → fault.residue? = some left → left.isAnswerable = true) ∧
    (∀ fault left : Fault, fault.isInert = true → fault.residue? = some left → left.isAnswerable = true) ∧
    ∀ (deployment : Deployment) number registry, deployment.registryAt? number = some registry →
      registry.toRouter.Assembled thrown → registry.layers = [] → ∀ request,
        ThrowsOnly (fun left => ∃ cause, Endpoint.Unanswered thrown cause ∧ cause.residue? = some left)
          (deployment.answer number request) := by
  have leaves (deployment : Deployment) (number : Nat) (registry : Registry)
      (site : deployment.registryAt? number = some registry) (assembled : registry.toRouter.Assembled thrown)
      (bare : registry.layers = []) (request : Request) :
      ThrowsOnly (fun left => ∃ cause, Endpoint.Unanswered thrown cause ∧ cause.residue? = some left)
        (deployment.answer number request) := by
    intro sites world fault final ran
    obtain ⟨middle, same⟩ := answer_of_bare site assembled bare request sites world
    exact assembled.contained.throwsOnly_guarded request sites middle fault final (same.symm.trans ran)
  refine ⟨⟨fun answers fault left known residue => ?_, fun answerable => ?_⟩,
    fun fault left inert residue => (Fault.isViolation_of_isInert inert residue).isAnswerable, leaves⟩
  · obtain ⟨response, final, answered⟩ := answers { sites := [.paths (.ofRouter (throwingRouter fault))] } 0 _ rfl
      (assembled_throwingRouter known) rfl (Endpoint.pathRequest "/") (fun _ _ => throw fault) {}
    obtain ⟨middle, ran⟩ := answer_throwingRouter fault (Endpoint.pathRequest "/") (fun _ _ => throw fault) {}
    rw [ran, run_tryCatch] at answered
    rcases run_answerFault fault (fun _ _ => throw fault) middle with ⟨none, _⟩ | ⟨other, residue', refused⟩
    · cases none.symm.trans residue
    · cases residue'.symm.trans residue
      rw [refused] at answered
      rcases run_answerFault left (fun _ _ => throw fault) middle with ⟨fits, _⟩ | ⟨_, _, refused'⟩
      · exact Fault.residue?_eq_none_iff.mp fits
      · cases refused'.symm.trans answered
  · intro deployment number registry site assembled bare request sites world
    -- what is left is answerable, so nothing is left of that, and nothing gets through the second guard
    have settled (cause : Fault) (unanswered : Endpoint.Unanswered thrown cause) : cause.residue? = none := by
      induction unanswered with
      | failed known residue => exact Fault.residue?_eq_none_iff.mpr (answerable _ _ known residue)
      | again _ residue ih => cases ih.symm.trans residue
    refine ThrowsOnly.returns ((leaves deployment number registry site assembled bare request).mono ?_) sites world
    rintro left ⟨cause, unanswered, residue⟩
    cases (settled cause unanswered).symm.trans residue

/-- An object that throws itself whenever it is asked for its text leaves a router as it is. -/
theorem answer_throwingItself : (throwingRouter .throwingItself).Assembled (fun _ => True) ∧
    ({ sites := [.paths (.ofRouter (throwingRouter .throwingItself))] } : Deployment).registryAt? 0 =
      some (.ofRouter (throwingRouter .throwingItself)) ∧
    (throwingRouter .throwingItself).layers = [] ∧
    ∀ request sites world, ∃ final,
      ({ sites := [.paths (.ofRouter (throwingRouter .throwingItself))] } : Deployment).answer 0 request sites world =
        (.error .throwingItself, final) := by
  refine ⟨assembled_throwingRouter trivial, rfl, rfl, fun request sites world => ?_⟩
  obtain ⟨middle, ran⟩ := answer_throwingRouter .throwingItself request sites world
  exact ⟨middle, ran⟩

/-- A router on which another one and a plain endpoint are mounted. All its functions throw what cannot be turned
into a response: a status that no response with a body can have, or a value without a text. -/
def troubledRouter : Outcome Router := do
  let bare : Fault := .value (.object [(Json.textField, .null)])
  let child ← Router.fresh.register ["GET", "POST"] "/:id" (.function fun _ => throw (.http (.ofStatus 999)))
    { middleware := [.after fun _ => throw bare, .around fun _ next => next none] }
  let child ← child.use (.before fun _ => throw (.http (.ofStatus 204)))
  let router ← Router.fresh.mount "/users" (.router child)
  let router ← router.mount "/files" (.handler (.endpoint { call := fun _ => throw bare, composable := false }))
  router.withFallback (.function fun _ => throw bare)

/-- Whether a fault is one of those that the functions of this router throw. -/
def IsTrouble (fault : Fault) : Prop :=
  fault = .value (.object [(Json.textField, .null)]) ∨ ∃ status, fault = .http (.ofStatus status)

theorem IsTrouble.isInert {fault : Fault} (trouble : IsTrouble fault) : fault.isInert = true := by
  rcases trouble with rfl | ⟨status, rfl⟩ <;> rfl

private theorem assembled_troubledRouter {router : Router} (made : troubledRouter = .ok router) :
    router.Assembled IsTrouble := by
  obtain ⟨first, registered, rest⟩ := bind_eq_ok.mp made
  obtain ⟨child, used, rest⟩ := bind_eq_ok.mp rest
  obtain ⟨parent, mounted, rest⟩ := bind_eq_ok.mp rest
  obtain ⟨whole, mountedPlain, rest⟩ := bind_eq_ok.mp rest
  have route : first.Assembled IsTrouble := by
    refine .register (.fresh {} none) (.function fun _ => .of_throw (.inr ⟨_, rfl⟩)) (fun layer member => ?_) registered
    rcases List.mem_cons.mp member with rfl | member
    · exact .after fun _ => .of_throw (.inl rfl)
    · cases List.mem_singleton.mp member
      exact .around fun _ _ _ throws => (throws none).mono fun _ => .inr
  have inner : child.Assembled IsTrouble := .use route (.before fun _ => .of_throw (.inr ⟨_, rfl⟩)) used
  have outer : whole.Assembled IsTrouble :=
    .mountHandler (.mountRouter (.fresh {} none) inner mounted) (.plain rfl fun _ => .of_throw (.inl rfl)) mountedPlain
  exact .withFallback outer (.function fun _ => .of_throw (.inl rfl)) rest

/-- Such a router answers all the same. -/
theorem answer_troubledRouter : ∃ router, troubledRouter = .ok router ∧ router.layers = [] ∧
    ∀ request sites world, ∃ response final,
      ({ sites := [.paths (.ofRouter router)] } : Deployment).answer 0 request sites world = (.ok response, final) := by
  have known : ∃ router, troubledRouter = .ok router ∧ router.layers = [] := ⟨_, rfl, rfl⟩
  obtain ⟨router, made, bare⟩ := known
  refine ⟨router, made, bare, fun request sites world => ?_⟩
  have contained := answer_contained_iff IsTrouble
  exact contained.1.mpr (fun fault left trouble => contained.2.1 fault left trouble.isInert)
    { sites := [.paths (.ofRouter router)] } 0 (.ofRouter router) rfl (assembled_troubledRouter made) bare
    request sites world

end Deployment

end HttpRouting

import HttpRouting.Proofs.Bindings
import HttpRouting.Proofs.HeadAsGet
import HttpRouting.Proofs.Onion

/-! # How routers nest their layers

A route of a router that is mounted, and mounted again, stands in the outermost router with the layers of all the
routers that were mounted around the middleware that it was registered with, whenever these layers were added;
and the layers of the outermost router stand around the dispatch. So a request that the router sends to the route
makes one journey through all of them, from the outermost router to the handler.
-/

namespace HttpRouting

section

variable {wraps : List AroundFn} {inner : Endpoint}

theorem transformAll_eq_nest (wraps : List AroundFn) (inner : Endpoint) :
    Middleware.transformAll (wraps.map .around) inner = .ok (nest wraps inner) := by
  induction wraps with
  | nil => rfl
  | cons wrap wraps ih => exact bind_eq_ok.mpr ⟨_, ih, rfl⟩

theorem composable_nest (wraps : List AroundFn) (composable : inner.composable = true) :
    (nest wraps inner).composable = true := by
  cases wraps with
  | nil => exact composable
  | cons => rfl

private theorem stack_eq_nest (wraps : List AroundFn) (composable : inner.composable = true) :
    (Middleware.stack (wraps.map .around)).transform inner = .ok (nest wraps inner) := by
  rw [Middleware.transform, transformAll_eq_nest]
  exact congrArg Except.ok (Endpoint.adapt_of_composable (composable_nest wraps composable))

end

namespace Router

variable {router after : Router}

/-- What a mounted router carries is an endpoint with its layers around. -/
theorem carried_eq_nest {wraps : List AroundFn} (layered : router.layers = wraps.map .around) {endpoint : Endpoint}
    (composable : endpoint.composable = true) : router.carried endpoint = .ok (nest wraps endpoint) := by
  rw [carried, layered]
  split_ifs with none
  · rw [List.isEmpty_iff, List.map_eq_nil_iff] at none
    rw [none]
    rfl
  · exact stack_eq_nest wraps composable

/-- A router dispatches inside its layers. -/
theorem chain_eq_nest {wraps : List AroundFn} (layered : router.layers = wraps.map .around) :
    router.chain = .ok (nest wraps (.guarded router.dispatch)) := by
  rw [chain, layered]
  exact stack_eq_nest wraps rfl

/-- One operation on a router that is accepted. -/
inductive Operation : Router → Router → Prop
  | route {router after : Router} {path : String} {handlers : Fields (Option Handler)} {options : RouteOptions}
      (accepted : router.route path handlers options = .ok after) : Operation router after
  | register {router after : Router} {selectors : List String} {path : String} {handler : Handler}
      {options : RouteOptions} (accepted : router.register selectors path handler options = .ok after) :
      Operation router after
  | mount {router after : Router} {path : String} {child : Mountable} {strip : Bool}
      (accepted : router.mount path child strip = .ok after) : Operation router after
  | use {router after : Router} {middleware : Middleware} (accepted : router.use middleware = .ok after) :
      Operation router after
  | withFallback {router after : Router} {handler : Handler}
      (accepted : router.withFallback handler = .ok after) : Operation router after
  | freeze {router after : Router} (frozen : router.freeze = .ok after) : Operation router after

/-- Registering and mounting add a batch of routes. -/
theorem exists_add_of_route {path : String} {handlers : Fields (Option Handler)} {options : RouteOptions}
    (accepted : router.route path handlers options = .ok after) : ∃ batch, router.add batch = .ok after := by
  obtain ⟨_, route, _, added⟩ := route_eq_ok.mp accepted
  exact ⟨_, added⟩

theorem exists_add_of_mount {path : String} {child : Mountable} {strip : Bool}
    (accepted : router.mount path child strip = .ok after) : ∃ batch, router.add batch = .ok after := by
  obtain ⟨head, _, mounted⟩ := mount_eq_ok.mp accepted
  cases child with
  | handler handler =>
    obtain ⟨_, _, added⟩ := mountOn_handler_eq_ok.mp mounted
    exact ⟨_, added⟩
  | router child =>
    obtain ⟨_, _, _, _, _, added⟩ := mountOn_router_eq_ok.mp mounted
    exact ⟨_, added⟩

/-- An operation leaves the routes that there are in their places. -/
theorem Operation.routes (operation : Operation router after) : ∃ added, after.routes = router.routes ++ added := by
  have kept {batch : List (Route Endpoint)} (added : router.add batch = .ok after) :
      ∃ added, after.routes = router.routes ++ added := by
    obtain ⟨_, copies, behind, _⟩ := routes_of_add added
    exact ⟨copies, behind⟩
  cases operation with
  | route accepted => exact kept (exists_add_of_route accepted).choose_spec
  | register accepted =>
    obtain ⟨_, _, accepted⟩ := bind_eq_ok.mp accepted
    exact kept (exists_add_of_route accepted).choose_spec
  | mount accepted => exact kept (exists_add_of_mount accepted).choose_spec
  | use accepted =>
    obtain ⟨_, rfl⟩ := use_eq_ok.mp accepted
    exact ⟨[], (List.append_nil _).symm⟩
  | withFallback accepted =>
    obtain ⟨_, rfl⟩ := withFallback_eq_ok.mp accepted
    exact ⟨[], (List.append_nil _).symm⟩
  | freeze frozen =>
    rw [freeze_eq frozen]
    exact ⟨[], (List.append_nil _).symm⟩

def given (handlers : Fields (Option Handler)) : List (Selector × Handler) :=
  (selected handlers).filterMap fun bound => bound.2.map (bound.1, ·)

private theorem mem_given {handlers : Fields (Option Handler)} {selector : Selector} {handler : Handler} :
    (selector, handler) ∈ given handlers ↔
      ∃ name, (name, some handler) ∈ handlers ∧ Selector.ofName? name = some selector := by
  rw [given, selected, List.mem_filterMap]
  constructor
  · rintro ⟨bound, listed, same⟩
    obtain ⟨⟨name, _⟩, field, selects⟩ := List.mem_filterMap.mp listed
    obtain ⟨_, named, rfl⟩ := Option.map_eq_some_iff.mp selects
    obtain ⟨_, rfl, same⟩ := Option.map_eq_some_iff.mp same
    cases same
    exact ⟨name, field, named⟩
  · rintro ⟨name, field, named⟩
    refine ⟨(selector, some handler), List.mem_filterMap.mpr ⟨_, field, ?_⟩, rfl⟩
    rw [named]
    rfl

/-- A router offers a route of its own, or of a router at the end of a chain of mounts, under a number: with the
functions that stand around its handlers, those of the mounted routers before those of the route, and its handlers
by their selectors. What is done to the routers of the chain before and after does not matter. -/
inductive Offers : Router → Nat → List AroundFn → List (Selector × Handler) → Prop
  | route {router after : Router} {path : String} {handlers : Fields (Option Handler)} {options : RouteOptions}
      {wraps : List AroundFn} (layered : options.middleware = wraps.map .around)
      (accepted : router.route path handlers options = .ok after) :
      Offers after router.routes.length wraps (given handlers)
  | register {router after : Router} {selectors : List String} {path : String} {handler : Handler}
      {options : RouteOptions} {wraps : List AroundFn} (layered : options.middleware = wraps.map .around)
      (accepted : router.register selectors path handler options = .ok after) :
      Offers after router.routes.length wraps ((selectors.filterMap Selector.ofName?).map (·, handler))
  | mount {router child after : Router} {path : String} {strip : Bool} {number : Nat} {outer wraps : List AroundFn}
      {bound : List (Selector × Handler)} (offered : Offers child number wraps bound)
      (layered : child.layers = outer.map .around)
      (accepted : router.mount path (.router child) strip = .ok after) :
      Offers after (router.routes.length + number) (outer ++ wraps) bound
  | later {router after : Router} {number : Nat} {wraps : List AroundFn} {bound : List (Selector × Handler)}
      (offered : Offers router number wraps bound) (operation : Operation router after) :
      Offers after number wraps bound

def Binds (wraps : List AroundFn) (bound : List (Selector × Handler)) (methods : MethodTable Endpoint) : Prop :=
  methods.All fun selector endpoint => ∃ handler, (selector, handler) ∈ bound ∧
    endpoint = nest wraps (.ofHandler handler)

/-- The routes of a batch are found behind those that there were, with their tables. -/
theorem getElem?_of_add {batch : List (Route Endpoint)} (added : router.add batch = .ok after) {place : Nat}
    {route : Route Endpoint} (found : batch[place]? = some route) :
    ∃ placed, after.routes[router.routes.length + place]? = some placed ∧ placed.methods = route.methods := by
  obtain ⟨_, copies, behind, alike⟩ := routes_of_add added
  obtain ⟨_, copied, order, rfl⟩ := exists_getElem?_of_forall₂ alike found
  refine ⟨{ route with order }, ?_, rfl⟩
  rw [behind, List.getElem?_append_right (Nat.le_add_right ..), Nat.add_sub_cancel_left]
  exact copied

/-- A registration binds the handlers that it was given with its functions around them. -/
theorem binds_of_prepare {path : String} {handlers : Fields (Option Handler)} {options : RouteOptions}
    {wraps : List AroundFn} (layered : options.middleware = wraps.map .around) {route : Route Endpoint}
    (prepared : prepare path (selected handlers) options = .ok route) :
    Binds wraps (given handlers) route.methods := by
  refine (all_of_prepare prepared).imp ?_
  rintro selector endpoint ⟨handler, listed, made⟩
  refine ⟨handler, List.mem_filterMap.mpr ⟨_, listed, rfl⟩, ?_⟩
  rw [wrapped, layered, Middleware.transform, transformAll_eq_nest] at made
  exact (Except.ok.inj made).symm

/-- Registering one handler for several selectors binds it to each of them with its functions around it. -/
theorem binds_of_register {selectors : List String} {path : String} {handler : Handler} {options : RouteOptions}
    {wraps : List AroundFn} {endpoint : Endpoint} {route : Route Endpoint}
    (layered : options.middleware = wraps.map .around)
    (made : wrapped options.middleware (.ofHandler handler) = .ok endpoint)
    (prepared : prepare path (selected (.ofPairs (selectors.map fun name => (name, some (.endpoint endpoint)))))
      { name := options.name, info := options.info } = .ok route) :
    Binds wraps ((selectors.filterMap Selector.ofName?).map (·, handler)) route.methods := by
  have plain : ({ name := options.name, info := options.info } : RouteOptions).middleware =
      ([] : List AroundFn).map .around := rfl
  refine (binds_of_prepare plain prepared).imp ?_
  rintro selector _ ⟨other, listed, rfl⟩
  obtain ⟨name, field, named⟩ := mem_given.mp listed
  obtain ⟨_, nameMem, same⟩ := List.mem_map.mp (Fields.mem_of_mem_ofPairs field)
  cases same
  refine ⟨handler, List.mem_map.mpr ⟨selector, List.mem_filterMap.mpr ⟨name, nameMem, named⟩, rfl⟩, ?_⟩
  rw [wrapped, layered, Middleware.transform, transformAll_eq_nest] at made
  rw [← Except.ok.inj made]
  exact Endpoint.adapt_of_composable (composable_nest wraps (Endpoint.composable_ofHandler handler))

/-- A copy binds the same handlers with the functions of the mounted router around those that they have. -/
theorem binds_of_copied {child : Router} {head : Pattern} {strip : Bool} {route copy : Route Endpoint}
    {outer wraps : List AroundFn} {bound : List (Selector × Handler)} (binds : Binds wraps bound route.methods)
    (layered : child.layers = outer.map .around) (copied : child.copied head strip route = .ok copy) :
    Binds (outer ++ wraps) bound copy.methods := by
  refine (all_of_copied binds copied).imp ?_
  rintro selector endpoint ⟨_, ⟨handler, listed, rfl⟩, carried⟩
  refine ⟨handler, listed, ?_⟩
  rw [carried_eq_nest layered (composable_nest wraps (Endpoint.composable_ofHandler handler))] at carried
  rw [nest_append]
  exact (Except.ok.inj carried).symm

/-- The route that a router offers is there, and binds its handlers with its functions around them. -/
theorem Offers.binds {number : Nat} {wraps : List AroundFn} {bound : List (Selector × Handler)}
    (offered : Offers router number wraps bound) :
    ∃ route, router.routes[number]? = some route ∧ Binds wraps bound route.methods := by
  induction offered with
  | route layered accepted =>
    obtain ⟨_, route, prepared, added⟩ := route_eq_ok.mp accepted
    obtain ⟨placed, found, same⟩ := getElem?_of_add added (show [route][0]? = some route from rfl)
    exact ⟨placed, found, same ▸ binds_of_prepare layered prepared⟩
  | register layered accepted =>
    obtain ⟨endpoint, made, accepted⟩ := bind_eq_ok.mp accepted
    obtain ⟨_, route, prepared, added⟩ := route_eq_ok.mp accepted
    obtain ⟨placed, found, same⟩ := getElem?_of_add added (show [route][0]? = some route from rfl)
    exact ⟨placed, found, same ▸ binds_of_register layered made prepared⟩
  | mount _ layered accepted ih =>
    obtain ⟨route, found, binds⟩ := ih
    obtain ⟨head, _, mounted⟩ := mount_eq_ok.mp accepted
    obtain ⟨_, frozen, batch, closed, copies, added⟩ := mountOn_router_eq_ok.mp mounted
    rw [freeze_eq closed] at copies
    obtain ⟨copy, copyFound, copied⟩ := exists_getElem?_of_forall₂ (mapM_eq_ok.mp copies) found
    obtain ⟨placed, found, same⟩ := getElem?_of_add added copyFound
    refine ⟨placed, found, same ▸ binds_of_copied binds ?_ copied⟩
    exact layered
  | later _ operation ih =>
    obtain ⟨route, found, binds⟩ := ih
    obtain ⟨added, routes⟩ := operation.routes
    refine ⟨route, ?_, binds⟩
    rw [routes, List.getElem?_append_left (List.getElem?_eq_some_iff.mp found).1]
    exact found

/-- What a router notes about a route before the request goes there. -/
def noting (request : Request) (source : String) : Act Unit := do
  request.putState matchedRouteKey (.string source)
  Trace.setRoute .recording source request.method

theorem exists_noting (request : Request) (source : String) (sites : Sites) (world : World) :
    ∃ noted, noting request source sites world = (.ok (), noted) := by
  have throws : ThrowsOnly (fun _ => False) (noting request source) :=
    ThrowsOnly.of_modify.bind fun _ => Trace.throwsOnly_setRoute source request.method
  obtain ⟨_, noted, ran⟩ := throws.returns sites world
  exact ⟨noted, ran⟩

/-- A request that is routed to a route goes there once the route is noted. -/
theorem dispatch_of_resolved {request : Request} {choice : Resolved Endpoint}
    (resolved : router.resolve request.method request.path = .resolved choice) {sites : Sites}
    {world noted : World} (notes : noting request choice.route.pattern.source sites world = (.ok (), noted)) :
    router.dispatch request sites world = choice.endpoint.call
      (request.withRoute choice.params choice.path choice.route.pattern.source) sites noted := by
  have steps : router.dispatch request sites world = (noting request choice.route.pattern.source >>= fun _ =>
      choice.endpoint.call
        (request.withRoute choice.params choice.path choice.route.pattern.source)) sites world := by
    rw [dispatch, resolved]
    rfl
  rw [steps, run_act_bind, notes]

/-- A handler is reached and answers. -/
def Handles (sites : Sites) (handler : Handler) (request : Request) (world : World) (visits : List Visit)
    (response : Response) (final : World) : Prop :=
  visits = [.handled handler] ∧ (Endpoint.ofHandler handler).call request sites world = (.ok response, final)

/-- What a router does with a request that it sends to a route: it notes the route, and lets the request go on
through the layers of the route to the handler of a selector that serves the method. For `HEAD` the answer of the
handler of `GET` loses its body, if that is what the router chose. -/
inductive Sends (sites : Sites) (router : Router) (number : Nat) (layers : List SinglePass)
    (bound : List (Selector × Handler)) : Request → World → List Visit → Response → World → Prop
  | intro {request world choice noted selector handler visits answer last response final}
      (resolved : router.resolve request.method request.path = .resolved choice)
      (chosen : router.routes[number]? = some choice.route)
      (listed : (selector, handler) ∈ bound) (serves : selector.Serves request.method)
      (notes : noting request choice.route.pattern.source sites world = (.ok (), noted))
      (journey : Journey sites (Handles sites handler) layers
        (request.withRoute choice.params choice.path choice.route.pattern.source) noted visits answer last)
      (answers : choice.endpoint = nest (layers.map SinglePass.wrap) (.ofHandler handler) ∧ response = answer ∧
          final = last ∨
        choice.endpoint = (nest (layers.map SinglePass.wrap) (.ofHandler handler)).headOf ∧ selector = .only .get ∧
          tryCatch (ofViolation answer.withoutBody) answerFault sites last = (.ok response, final)) :
      Sends sites router number layers bound request world visits response final

/-- The visits of a request that was sent to a route go in through the layers of the route and out again. -/
theorem Sends.onion {sites : Sites} {number : Nat} {layers : List SinglePass} {bound : List (Selector × Handler)}
    {request : Request} {world final : World} {visits : List Visit} {response : Response}
    (sends : Sends sites router number layers bound request world visits response final) :
    Onion (fun handler => ∃ selector, (selector, handler) ∈ bound) layers visits := by
  obtain ⟨_, _, listed, _, _, journey, _⟩ := sends
  rw [← List.append_nil layers]
  refine journey.onion ?_
  rintro _ _ _ _ _ ⟨rfl, _⟩
  exact onion_handled ⟨_, listed⟩

theorem freeze_of_open {endpoint : Endpoint} (openness : router.frozen = false)
    (built : router.chain = .ok endpoint) :
    router.freeze = .ok { router with dispatcher := some endpoint } := by
  rw [freeze, dispatcher_of_open openness]
  exact bind_eq_ok.mpr ⟨endpoint, built, rfl⟩

def throwing : Handler :=
  .function fun _ => throw (.named "Error" "boom")

end Router

end HttpRouting

import HttpRouting.Middleware
import HttpRouting.Route.Admission
import HttpRouting.Route.PatternText
import HttpRouting.Route.Resolution
import HttpRouting.Trace

/-! # Routers

A router holds routes, middleware around all of them, and a fallback for paths that no route matches.
It is open for registration until it is frozen, which builds the endpoint that answers its requests
from what it holds at that moment. Every operation gives a new router or refuses, and a refusal leaves
nothing behind.

Mounting a router copies its routes under a pattern, wrapped by its middleware, so that they compete
with all others; a mounted router must be one that can be frozen. Any other endpoint that is mounted
answers every method on the pattern and everything below it.
-/

namespace HttpRouting

/-- A router. It is frozen once it has a dispatcher. -/
structure Router where
  index : RouteIndex Endpoint := {}
  logger : Option Logger := none
  layers : List Middleware := []
  fallback : Endpoint := .notFound
  dispatcher : Option Endpoint := none

/-- What may be said about a route besides its pattern and its handlers. -/
structure RouteOptions where
  name : Option String := none
  info : Option (Fields Json) := none
  middleware : List Middleware := []

/-- What can be mounted. -/
inductive Mountable where
  | handler (handler : Handler)
  | router (router : Router)

/-- The pattern of everything below a path. -/
def restPattern : Pattern :=
  ⟨"/*", [.wildcard none], rfl, List.forall_mem_singleton.mpr trivial⟩

namespace Router

/-- A router that holds nothing yet. -/
def fresh (settings : MatchSettings := {}) (logger : Option Logger := none) : Router :=
  { index := { settings }, logger }

def frozen (router : Router) : Bool :=
  router.dispatcher.isSome

def requireOpen (router : Router) (target : String) (method : Option String := none) :
    Outcome Unit :=
  if router.frozen then .error (.registration ⟨target, .frozen, method⟩) else .ok ()

def routes (router : Router) : List (Route Endpoint) :=
  router.index.routes

/-- Decide which route answers a method on a path. -/
def resolve (router : Router) (method path : String) : Resolution Endpoint :=
  router.index.resolve Endpoint.headOf method path

/-- Answer a request by the chosen route, by a list of methods, or by the fallback. -/
def dispatch (router : Router) (request : Request) : Act Response :=
  match router.resolve request.method request.path with
  | .resolved choice => do
    let source := choice.route.pattern.source
    request.putState matchedRouteKey (.string source)
    Trace.setRoute .recording source request.method
    choice.endpoint.call (request.withRoute choice.params choice.path source)
  | .methodNotAllowed allowed => ofViolation (Response.methodNotAllowed (allowed.map Method.name))
  | .notFound => router.fallback.call request

/-- The endpoint that answers the requests of the router, built from what it holds now. -/
def chain (router : Router) : Outcome Endpoint :=
  (Middleware.stack router.layers).transform (.guarded router.dispatch)

def freeze (router : Router) : Outcome Router :=
  match router.dispatcher with
  | some _ => .ok router
  | none => do
    return { router with dispatcher := some (← router.chain) }

/-- The router with its live stacks replaced by what the pipelines hold. -/
def settled (pipelines : List (List Middleware)) (router : Router) : Router :=
  { router with layers := router.layers.map (Middleware.expand pipelines) }

/-- The path of a named route, if there is a route of that name. -/
def url (router : Router) (name : String) (params : Fields String := []) :
    Outcome (Option String) :=
  match router.index.named? name with
  | none => .ok none
  | some route => do
    return some (← Outcome.lift Fault.ofPathError (route.pattern.path params))

/-- Add middleware around all routes, inside what was added before. -/
def use (router : Router) (middleware : Middleware) : Outcome Router := do
  router.requireOpen "use"
  return { router with layers := router.layers ++ [middleware] }

def withFallback (router : Router) (handler : Handler) : Outcome Router := do
  router.requireOpen "fallback"
  return { router with fallback := .ofHandler handler }

def add (router : Router) (batch : List (Route Endpoint)) : Outcome Router := do
  return { router with index := ← Outcome.lift .registration (router.index.add batch) }

def wrapped (middleware : List Middleware) (endpoint : Endpoint) : Outcome Endpoint :=
  (Middleware.compose middleware).transform endpoint

/-- Bind a handler to a selector of a route; a selector without a handler is passed over. -/
def bindHandler (source : String) (middleware : List Middleware) (methods : MethodTable Endpoint)
    (bound : Selector × Option Handler) : Outcome (MethodTable Endpoint) :=
  match bound.2 with
  | none => .ok methods
  | some handler => do
    let endpoint ← wrapped middleware (.ofHandler handler)
    Outcome.lift .registration (methods.set bound.1 endpoint source)

/-- The handlers given for selectors, in order. Names that are no selector are passed over. -/
def selected (handlers : Fields (Option Handler)) : List (Selector × Option Handler) :=
  handlers.filterMap fun pair => (Selector.ofName? pair.1).map (·, pair.2)

/-- The route that handlers make on a pattern; its order number is given when it is added. -/
def prepare (path : String) (bound : List (Selector × Option Handler)) (options : RouteOptions) :
    Outcome (Route Endpoint) := do
  let pattern ← Outcome.lift .pattern (Pattern.compile path)
  let methods ← bound.foldlM (bindHandler pattern.source options.middleware) .empty
  if methods.isEmpty then throw (.registration ⟨pattern.source, .noMethods, none⟩)
  return { pattern, methods, order := 0, name := options.name, info := options.info }

/-- Register a handler for each of several selectors on one pattern. -/
def route (router : Router) (path : String) (handlers : Fields (Option Handler))
    (options : RouteOptions := {}) : Outcome Router := do
  let bound := selected handlers
  router.requireOpen path (some (MethodTable.listed (bound.map (·.1))))
  router.add [← prepare path bound options]

def register (router : Router) (selectors : List String) (path : String) (handler : Handler)
    (options : RouteOptions := {}) : Outcome Router := do
  let endpoint ← wrapped options.middleware (.ofHandler handler)
  let handlers := Fields.ofPairs (selectors.map fun name => (name, some (.endpoint endpoint)))
  router.route path handlers { name := options.name, info := options.info }

def settingsDiffer (router child : Router) : List String :=
  (if child.index.settings.ignoreCase = router.index.settings.ignoreCase then []
    else ["ignoreCase"]) ++
    if child.index.settings.precedence = router.index.settings.precedence then []
    else ["regexPrecedence"]

/-- The pattern to mount on, if anything may be mounted there. -/
def mountPoint (router : Router) (path : String) : Outcome Pattern := do
  router.requireOpen path
  let head ← Outcome.lift .pattern (Pattern.compile path)
  if head.hasWildcard then throw (.registration ⟨head.source, .wildcardPrefix, none⟩)
  return head

def requireAlike (router child : Router) (head : Pattern) : Outcome Unit :=
  match router.settingsDiffer child with
  | [] => .ok ()
  | settings => .error (.registration ⟨head.source, .settingsDiffer settings, none⟩)

/-- An endpoint of a router that is mounted, wrapped by the middleware of that router. -/
def carried (child : Router) (endpoint : Endpoint) : Outcome Endpoint :=
  if child.layers.isEmpty then .ok endpoint
  else (Middleware.stack child.layers).transform endpoint

def copied (child : Router) (head : Pattern) (strip : Bool) (route : Route Endpoint) :
    Outcome (Route Endpoint) := do
  let pattern ← Outcome.lift .registration (head.under route.pattern)
  let methods ← route.methods.mapM child.carried
  return { route with pattern, methods, strip := head.hidden strip route.strip }

def mountOn (router : Router) (head : Pattern) (strip : Bool) : Mountable → Outcome Router
  | .handler handler => do
    let pattern ← Outcome.lift .registration (head.under restPattern)
    let methods : MethodTable Endpoint := { catchAll := some (.ofHandler handler) }
    router.add [{ pattern, methods, order := 0, strip := head.hidden strip [] }]
  | .router child => do
    router.requireAlike child head
    let child ← child.freeze
    router.add (← child.routes.mapM (child.copied head strip))

/-- Mount an endpoint or the routes of a router under a pattern. -/
def mount (router : Router) (path : String) (child : Mountable) (strip : Bool := true) :
    Outcome Router := do
  router.mountOn (← router.mountPoint path) strip child

/-- A router without routes, alike in everything else that is set when a router is made. -/
def sibling (router : Router) : Router :=
  fresh router.index.settings router.logger

/-- Register routes under a shared pattern and shared middleware; their handlers see the full path. -/
def group (router : Router) (path : String) (build : Router → Outcome Router) : Outcome Router := do
  router.mount path (.router (← build router.sibling)) false

end Router

end HttpRouting

import HttpRouting.HostRouter
import HttpRouting.Registry
import HttpRouting.SchemeRouter

/-! # Deployments

A deployment is a set of numbered sites, each a router of some kind, and of numbered pipelines, which
are lists of middleware that may still grow. Sites may pass requests to one another by number, so what
a request meets is settled when it arrives; `visit` bounds how deep requests may be passed on, and a
request passed on deeper is refused with a fault.

A session is a series of operations on a deployment and the world around it. An operation that throws
keeps what it had done to the sites and to the world before. A router that is called, resolved or
mounted is frozen by that, and each registration is told to the router's logger.
-/

namespace HttpRouting

/-- A router of some kind. -/
inductive Site where
  | paths (registry : Registry)
  | hosts (router : HostRouter Endpoint) (logger : Logger)
  | schemes (router : SchemeRouter Endpoint)

/-- A middleware in a pipeline; the tag tells whether two middleware are the same object. -/
structure PipelineEntry where
  middleware : Middleware
  tag : Option Nat := none

/-- Sites and pipelines, by number, and the world around them. -/
structure Deployment where
  world : World := {}
  sites : List Site := []
  pipelines : List (List PipelineEntry) := []

/-- An operation on a deployment, which may throw; what happened before stays. -/
abbrev Session := ExceptT Fault (StateM Deployment)

/-- What can be mounted on a site: a handler, or another site by its number. -/
inductive Child where
  | handler (handler : Handler)
  | site (number : Nat)

/-- How deep requests may be passed on from site to site. -/
def visitDepth : Nat := 1000

namespace Router

/-- The context of the log entry about a new route. -/
def routeContext (route : Route Endpoint) : LogContext :=
  [("methods", some (.string (MethodTable.listed route.methods.selectors))),
    ("pattern", some (.string route.pattern.source)), ("name", route.name.map .string)]

def frozenContext (router : Router) : LogContext :=
  [("routes", some (Json.ofNat router.routes.length)),
    ("middleware", some (Json.ofNat router.layers.length))]

end Router

namespace Deployment

def layers (deployment : Deployment) : List (List Middleware) :=
  deployment.pipelines.map fun entries => entries.map (·.middleware)

/-- The registry of a number, if the site is a router. -/
def registryAt? (deployment : Deployment) (number : Nat) : Option Registry :=
  match deployment.sites[number]? with
  | some (.paths registry) => some registry
  | _ => none

/-- The dispatcher of a router of this deployment. Building it closes the router, which is noted in
the world and told to the logger once. -/
def dispatcher (deployment : Deployment) (number : Nat) (router : Router) : Act Endpoint :=
  match router.dispatcher with
  | some endpoint => return endpoint
  | none =>
    match (router.settled deployment.layers).chain with
    | .error fault => throw fault
    | .ok endpoint => do
      let world ← get
      unless world.closed.contains number do
        set { world with closed := world.closed ++ [number] }
        logTo (router.logger.getD world.logger) .debug "Router frozen" router.frozenContext
      return endpoint

def answer (deployment : Deployment) (number : Nat) (request : Request) : Act Response := do
  match deployment.sites[number]? with
  | some (.paths registry) => (← deployment.dispatcher number registry.toRouter).call request
  | some (.hosts router _) => router.dispatch request
  | some (.schemes router) => router.dispatch request
  | none => ofViolation Response.notFound

/-- What the sites do with requests that are passed on at most `depth` times. -/
def visit (deployment : Deployment) : Nat → Sites
  | 0, _, _ => throw (.violation .outOfRange)
  | depth + 1, number, request => deployment.answer number request (visit deployment depth)

def setSite (deployment : Deployment) (number : Nat) (site : Site) : Deployment :=
  { deployment with sites := deployment.sites.set number site }

/-- The deployment with a router closed for registration. -/
def close (deployment : Deployment) (number : Nat) : Deployment :=
  match deployment.registryAt? number with
  | none => deployment
  | some registry =>
    match (registry.settled deployment.layers).freeze with
    | .error _ => deployment
    | .ok frozen =>
      deployment.setSite number (.paths { registry with dispatcher := frozen.dispatcher })

/-- The deployment with every router closed that the world notes as closed. -/
def commit (deployment : Deployment) : Deployment :=
  deployment.world.closed.foldl close
    { deployment with world := { deployment.world with closed := [] } }

end Deployment

namespace Session

def run {α : Type} (work : Act α) : Session α := fun deployment =>
  let (result, world) := work (deployment.visit visitDepth) deployment.world
  (result, { deployment with world }.commit)

/-- The value of an outcome, its fault thrown. -/
def lift {α : Type} (outcome : Outcome α) : Session α :=
  match outcome with
  | .ok value => return value
  | .error fault => throw fault

/-- Write a log entry, to the process logger unless one is given. -/
def log (logger : Option Logger) (level : Level) (message : String) (context : LogContext) :
    Session Unit :=
  run do
    logTo (logger.getD (← get).logger) level message context

def addSite (site : Site) : Session Nat := do
  let number := (← get).sites.length
  modify fun deployment => { deployment with sites := deployment.sites ++ [site] }
  return number

/-- The registry of a number; only routers can be registered on. -/
def registry (number : Nat) : Session Registry := do
  match (← get).registryAt? number with
  | some registry => return registry
  | none => throw (.violation .wrongSort)

def router (number : Nat) : Session Router :=
  return (← registry number).toRouter

def setRegistry (number : Nat) (registry : Registry) : Session Unit :=
  modify fun deployment => deployment.setSite number (.paths registry)

/-- Tell a router's logger about the routes that it has and had not before. -/
def announce (before after : Router) : Session Unit :=
  (after.routes.drop before.routes.length).forM fun route =>
    log after.logger .debug "Route registered" (Router.routeContext route)

/-- Change a router by a program that may add routes. What the program did before a fault stays. -/
def change (number : Nat) (program : Registering Unit) : Session Router := do
  let before ← registry number
  let (result, after) := program before
  setRegistry number after
  lift result
  announce before.toRouter after.toRouter
  return after.toRouter

def freeze (number : Nat) : Session Unit := do
  let deployment ← get
  let router ← router number
  discard (run (deployment.dispatcher number router))

/-- Decide which route of a router answers; the router is frozen by that. -/
def resolve (number : Nat) (method path : String) : Session (Resolution Endpoint) := do
  freeze number
  return (← router number).resolve method path

def url (number : Nat) (name : String) (params : Fields String := []) : Session (Option String) := do
  lift ((← registry number).url name params)

/-- The router at a number as it would be mounted, frozen by that, if the site is a router. -/
def childRouter? (parent : Router) (head : Pattern) (number : Nat) : Session (Option Router) := do
  match (← get).registryAt? number with
  | none => return none
  | some child =>
    lift (parent.requireAlike child.toRouter head)
    freeze number
    return some ((← router number).settled (← get).layers)

/-- Refuse to mount a router on itself. -/
def requireOther (number : Nat) (path : String) : Child → Session Unit
  | .handler _ => return
  | .site other =>
    if other = number then throw (.registration ⟨path, .selfMount, none⟩) else return

def mountHandler (number : Nat) (head : Pattern) (strip : Bool) (handler : Handler) : Session Unit := do
  let after ← change number (.mountOn head strip (.handler handler))
  log after.logger .debug "Endpoint mounted"
    [("prefix", some (.string head.source)), ("strip", some (.bool strip))]

/-- Mount another site on a pattern that was found fit: the routes of a router, or a site of another kind as
a handler. -/
def mountSite (number : Nat) (parent : Router) (head : Pattern) (strip : Bool) (other : Nat) :
    Session Unit := do
  match ← childRouter? parent head other with
  | none => mountHandler number head strip (.endpoint (.site other))
  | some child =>
    let after ← change number (.mountOn head strip (.router child))
    log after.logger .debug "Router mounted"
      [("prefix", some (.string head.source)), ("routes", some (Json.ofNat child.routes.length)),
        ("strip", some (.bool strip))]

/-- Mount a handler or another site on a router, which cannot be mounted on itself. -/
def mount (number : Nat) (path : String) (child : Child) (strip : Bool := true) : Session Unit := do
  let parent ← router number
  lift (parent.requireOpen path)
  requireOther number path child
  let head ← lift (parent.mountPoint path)
  match child with
  | .handler handler => mountHandler number head strip handler
  | .site other => mountSite number parent head strip other

/-- Begin a group of routes: a router without routes, for whatever is registered on it before the group
is mounted. -/
def startGroup (number : Nat) : Session Nat := do
  addSite (.paths { toRouter := (← router number).sibling })

/-- End a group: mount it under a path, which its handlers see in full. -/
def finishGroup (number : Nat) (path : String) (group : Nat) : Session Unit :=
  mount number path (.site group) false

/-- Register routes under a shared path and shared middleware. -/
def group (number : Nat) (path : String) (build : Nat → Session Unit) : Session Unit := do
  let group ← startGroup number
  build group
  finishGroup number path group

def registerHost (number : Nat) (pattern : String) (handler : Handler) : Session Unit := do
  match (← get).sites[number]? with
  | some (.hosts router logger) =>
    let (result, router) := router.register pattern (.ofHandler handler)
    modify fun deployment => deployment.setSite number (.hosts router logger)
    lift (Outcome.lift .registration result)
    log (some logger) .debug "Host registered" [("pattern", some (.string pattern))]
  | _ => throw (.violation .wrongSort)

def changeSchemes (number : Nat)
    (operation : SchemeRouter Endpoint → Except RegistrationError (SchemeRouter Endpoint)) :
    Session Unit := do
  match (← get).sites[number]? with
  | some (.schemes router) =>
    let router ← lift (Outcome.lift .registration (operation router))
    modify fun deployment => deployment.setSite number (.schemes router)
  | _ => throw (.violation .wrongSort)

def registerScheme (number : Nat) (scheme : String) (handler : Handler) : Session Unit :=
  changeSchemes number fun router => router.register scheme (.ofHandler handler)

/-- Replace the endpoint for everything that a site has no other for. -/
def setFallback (number : Nat) (handler : Handler) : Session Unit := do
  match (← get).registryAt? number with
  | some _ => discard (change number (.withFallback handler))
  | none => changeSchemes number fun router => .ok (router.withFallback (.ofHandler handler))

/-- Register a handler for several selectors, wrapped by what its middleware holds now. -/
def register (number : Nat) (selectors : List String) (path : String) (handler : Handler)
    (options : RouteOptions) : Session Unit := do
  let layers := (← get).layers
  let options := { options with middleware := options.middleware.map (.expand layers) }
  discard (change number (.register selectors path handler options))

/-- Register a handler for each of several selectors, wrapped by what the middleware holds now. -/
def route (number : Nat) (path : String) (handlers : Fields (Option Handler))
    (options : RouteOptions) : Session Unit := do
  let layers := (← get).layers
  let options := { options with middleware := options.middleware.map (.expand layers) }
  discard (change number (.route path handlers options))

def use (number : Nat) (middleware : Middleware) : Session Unit :=
  discard (change number (.use middleware))

def call (endpoint : Endpoint) (request : Request) : Session Response :=
  run (endpoint.call request)

/-- Answer a request by a site. A router is frozen by that before anything answers. -/
def callSite (number : Nat) (request : Request) : Session Response := do
  if ((← get).registryAt? number).isSome then freeze number
  call (.site number) request

/-- A middleware with its live stacks replaced by what the pipelines hold now. -/
def settled (middleware : Middleware) : Session Middleware :=
  return middleware.expand (← get).layers

def transform (middleware : Middleware) (endpoint : Endpoint) : Session Endpoint := do
  lift ((← settled middleware).transform endpoint)

def pipeline (number : Nat) : Session (List PipelineEntry) :=
  return (← get).pipelines.getD number []

def changePipeline (number : Nat) (change : List PipelineEntry → List PipelineEntry) :
    Session Unit :=
  modify fun deployment =>
    { deployment with pipelines := deployment.pipelines.modify number change }

end Session

/-- The place in a list that an index means: counted from the end when negative, and never outside. -/
def insertionPlace (length : Nat) (index : Int) : Nat :=
  if index < 0 then (Int.ofNat length + index).toNat else min index.toNat length

namespace Session

def addPipeline : Session Nat := do
  let number := (← get).pipelines.length
  modify fun deployment => { deployment with pipelines := deployment.pipelines ++ [[]] }
  return number

def pipelineUse (number : Nat) (entry : PipelineEntry) : Session Unit :=
  changePipeline number (· ++ [entry])

/-- Add a middleware at a place of a pipeline. -/
def pipelineUseAt (number : Nat) (index : Int) (entry : PipelineEntry) : Session Unit :=
  changePipeline number fun entries =>
    entries.insertIdx (insertionPlace entries.length index) entry

/-- Remove the first occurrence of a middleware from a pipeline. -/
def pipelineRemove (number : Nat) (tag : Option Nat) : Session Unit :=
  changePipeline number fun entries =>
    entries.eraseP fun entry => entry.tag.isSome && entry.tag == tag

def pipelineClear (number : Nat) : Session Unit :=
  changePipeline number fun _ => []

def pipelineExecute (number : Nat) (handler : Handler) (request : Request) : Session Response := do
  call (← transform (.live number) (.ofHandler handler)) request

end Session

end HttpRouting

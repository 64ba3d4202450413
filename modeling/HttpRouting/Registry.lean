import HttpRouting.Entries
import HttpRouting.Router

/-! # Registering step by step

A registry is a router with what registrations look up and count: the routes by their names, and the order
number of the next route. A registration is a series of changes of these pieces. Nothing takes a change
back, so a fault leaves behind whatever was changed before it. That a refused registration leaves nothing
behind comes from the order of the steps: a batch is checked against names and routes before its first
route is inserted, and what is inserted then cannot fail.
-/

namespace HttpRouting

/-- A router with its routes by name and the order number of its next route. -/
structure Registry extends Router where
  named : Entries (Route Endpoint) := []
  nextOrder : Nat := 0

/-- A series of changes of a registry; what was changed before a fault stays. -/
abbrev Registering := ExceptT Fault (StateM Registry)

/-- The path of a named route, if there is a route of that name. -/
def Registry.url (registry : Registry) (name : String) (params : Fields String := []) :
    Outcome (Option String) :=
  match registry.named.get? name with
  | none => .ok none
  | some route => do
    return some (← Outcome.lift Fault.ofPathError (route.pattern.path params))

/-- The routes of a batch, numbered from the next order number. -/
def Registry.numbered (registry : Registry) (batch : List (Route Endpoint)) : List (Route Endpoint) :=
  (batch.zipIdx registry.nextOrder).map fun pair => { pair.1 with order := pair.2 }

/-- Refuse routes that may not be added together, on account of a name or of a conflict. -/
def Registry.check (registry : Registry) (routes : List (Route Endpoint)) : Outcome Unit :=
  match RouteIndex.nameRefusal? (registry.named.map (·.1)) routes with
  | some refusal => .error (.registration refusal)
  | none => Outcome.lift .registration (registry.index.check routes)

namespace Registering

open Router

def requireOpen (target : String) (method : Option String := none) : Registering Unit := do
  (← get).toRouter.requireOpen target method

/-- Insert a route that was found fit, and note it under its name. -/
def enter (route : Route Endpoint) : Registering Unit := do
  modify fun registry => { registry with index := registry.index.insert route }
  if let some name := route.name then
    modify fun registry => { registry with named := registry.named.put name route }

/-- Insert routes that were found fit together, and count them. -/
def enterAll (routes : List (Route Endpoint)) : Registering Unit := do
  routes.forM enter
  modify fun registry => { registry with nextOrder := registry.nextOrder + routes.length }

/-- Add a batch of routes, which is numbered and checked as a whole first. -/
def add (batch : List (Route Endpoint)) : Registering Unit := do
  let registry ← get
  let routes := registry.numbered batch
  registry.check routes
  enterAll routes

/-- Register a handler for each of several selectors on one pattern. -/
def route (path : String) (handlers : Fields (Option Handler)) (options : RouteOptions := {}) :
    Registering Unit := do
  let bound := selected handlers
  requireOpen path (some (MethodTable.listed (bound.map (·.1))))
  add [← prepare path bound options]

def register (selectors : List String) (path : String) (handler : Handler)
    (options : RouteOptions := {}) : Registering Unit := do
  let endpoint ← wrapped options.middleware (.ofHandler handler)
  let handlers := Fields.ofPairs (selectors.map fun name => (name, some (.endpoint endpoint)))
  route path handlers { name := options.name, info := options.info }

def mountOn (head : Pattern) (strip : Bool) : Mountable → Registering Unit
  | .handler handler => do
    let pattern ← Outcome.lift .registration (head.under restPattern)
    let methods : MethodTable Endpoint := { catchAll := some (.ofHandler handler) }
    add [{ pattern, methods, order := 0, strip := head.hidden strip [] }]
  | .router child => do
    (← get).toRouter.requireAlike child head
    let child ← child.freeze
    let copies : Outcome (List (Route Endpoint)) := child.routes.mapM (child.copied head strip)
    add (← copies)

/-- Add middleware around all routes, inside what was added before. -/
def use (middleware : Middleware) : Registering Unit := do
  requireOpen "use"
  modify fun registry => { registry with layers := registry.layers ++ [middleware] }

def withFallback (handler : Handler) : Registering Unit := do
  requireOpen "fallback"
  modify fun registry => { registry with fallback := .ofHandler handler }

end Registering

end HttpRouting

import HttpRouting.Route.Index
import HttpRouting.Route.ServingTable

/-! # Which route answers

Every route that matches a path and answers the method competes, and the most specific one is chosen;
of equally specific ones the first found is. When routes match but none answers the method, the
methods that would have been answered are told instead.

`resolve` asks the methods that the routes hold. `serve` decides in the same way and asks tables that are
kept in a store, where each of them keeps what it makes to answer `HEAD`, and where routes may share one.
-/

namespace HttpRouting

open Text

/-- A chosen route, with all that its endpoint is called with. -/
structure Resolved (ε : Type) where
  endpoint : ε
  params : Params
  route : Route ε
  path : String

/-- What a router decides about a method and a path. -/
inductive Resolution (ε : Type) where
  | resolved (choice : Resolved ε)
  | notFound
  | methodNotAllowed (allowed : List Method)

/-- The decision when no route answers, given the methods that would have been answered. -/
def Resolution.unanswered {ε : Type} : List Method → Resolution ε
  | [] => .notFound
  | allowed => .methodNotAllowed allowed

/-- A route that matches a path, with the values captured and the endpoint for the method, if it
answers that. -/
structure Contender (ε : Type) where
  route : Route ε
  values : List String
  endpoint : Option ε

/-- The path that a handler sees: without the segments at the positions of `strip`. A trailing slash
stays when segments do. -/
def handlerPath (path : String) (raw : List String) (strip : List Nat) : String :=
  let pathname := before '?' path
  if strip.isEmpty then pathname
  else
    let rest := (raw.zipIdx.filter fun pair => !strip.contains pair.2).map (·.1)
    let trailing := if !rest.isEmpty && endsWith "/" pathname then "/" else ""
    "/" ++ join "/" rest ++ trailing

namespace RouteIndex

variable {ε : Type}

/-- Every route that matches the raw segments of a path, in order of precedence. -/
def contenders (headOf : ε → ε) (index : RouteIndex ε) (method : String) (raw : List String) :
    List (Contender ε) :=
  (index.collect raw).flatMap fun candidate =>
    candidate.routes.map fun route =>
      ⟨route, candidate.values, route.methods.get? headOf method⟩

/-- The better of a choice made so far and one more route with an endpoint for the method. -/
def better (index : RouteIndex ε) (best : Option (Contender ε × ε)) (contender : Contender ε) :
    Option (Contender ε × ε) :=
  match contender.endpoint, best with
  | none, best => best
  | some endpoint, none => some (contender, endpoint)
  | some endpoint, some (leader, chosen) =>
    if contender.route.pattern.specificity.compare index.settings.precedence
        leader.route.pattern.specificity > 0 then
      some (contender, endpoint)
    else some (leader, chosen)

/-- The methods that some of the routes answer, in canonical order. -/
def allowedAmong (contenders : List (Contender ε)) : List Method :=
  Method.all.filter fun method =>
    contenders.any fun contender => contender.route.methods.allowed.contains method

/-- Decide for a path between the routes that match it. -/
def choose (index : RouteIndex ε) (path : String) (contenders : List (Contender ε)) : Resolution ε :=
  match contenders.foldl index.better none with
  | some (leader, endpoint) =>
    .resolved
      { endpoint
        params := Params.ofCaptures leader.route.pattern.captureNames leader.values
        route := leader.route
        path := handlerPath path (splitPath path) leader.route.strip }
  | none => .unanswered (allowedAmong contenders)

/-- Decide which route answers a method on a path. -/
def resolve (headOf : ε → ε) (index : RouteIndex ε) (method path : String) : Resolution ε :=
  index.choose path (index.contenders headOf method (splitPath path))

end RouteIndex

/-- Method tables that are being asked, by number. -/
abbrev Tables (ε : Type) := Nat → ServingTable ε

def Tables.put {ε : Type} (tables : Tables ε) (number : Nat) (table : ServingTable ε) : Tables ε :=
  fun other => if other = number then table else tables other

namespace RouteIndex

variable {ε : Type}

/-- Ask the table of a route that matches a path, which `place` numbers. -/
def ask (headOf : ε → ε) (place : Route ε → Nat) (method : String) (values : List String) (route : Route ε) :
    StateM (Tables ε) (Contender ε) := fun tables =>
  let asked := (tables (place route)).get headOf method
  (⟨route, values, asked.1⟩, tables.put (place route) asked.2)

/-- Decide which route answers a method on a path, by the tables of the routes that match it. -/
def serve (headOf : ε → ε) (place : Route ε → Nat) (index : RouteIndex ε) (method path : String) :
    StateM (Tables ε) (Resolution ε) := do
  let contenders ← (index.collect (splitPath path)).mapM fun candidate =>
    candidate.routes.mapM (ask headOf place method candidate.values)
  return index.choose path contenders.flatten

end RouteIndex

end HttpRouting

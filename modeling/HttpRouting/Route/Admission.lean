import HttpRouting.Route.Index

/-! # Adding routes

Routes are added in batches. A batch is checked as a whole before any of its routes is inserted, first
for names that are taken and then for conflicts, so a refused batch leaves the index as it was. The
order numbers of the routes are their places in the index.
-/

namespace HttpRouting

namespace RouteIndex

variable {ε : Type}

def named? (index : RouteIndex ε) (name : String) : Option (Route ε) :=
  index.routes.find? fun route => route.name == some name

def names (index : RouteIndex ε) : List String :=
  index.routes.filterMap (·.name)

/-- The refusal of the first route whose name is already in use, given the names in use. -/
def nameRefusal? (used : List String) : List (Route ε) → Option RegistrationError
  | [] => none
  | route :: rest =>
    match route.name with
    | none => nameRefusal? used rest
    | some name =>
      if used.contains name then some ⟨route.pattern.source, .nameTaken name, none⟩
      else nameRefusal? (name :: used) rest

/-- The routes of a batch, numbered from the end of the index. -/
def numbered (index : RouteIndex ε) (batch : List (Route ε)) : List (Route ε) :=
  (batch.zipIdx index.routes.length).map fun pair => { pair.1 with order := pair.2 }

/-- The index with a whole batch added, or the first reason against it. -/
def add (index : RouteIndex ε) (batch : List (Route ε)) :
    Except RegistrationError (RouteIndex ε) :=
  let routes := index.numbered batch
  match nameRefusal? index.names routes with
  | some refusal => .error refusal
  | none => do
    index.check routes
    return routes.foldl insert index

end RouteIndex

/-- The pattern of a route that is copied under another pattern. -/
def Pattern.under (head tail : Pattern) : Except RegistrationError Pattern :=
  match head.join tail with
  | .ok pattern => .ok pattern
  | .error refusal => .error ⟨refusal.pattern, .pattern refusal.cause, none⟩

def Pattern.positions (pattern : Pattern) : List Nat :=
  List.range pattern.segments.length

/-- The positions hidden from the handlers of a route that is copied under another pattern: those of
that pattern, if they are stripped, and the route's own, moved to the right. -/
def Pattern.hidden (head : Pattern) (strip : Bool) (own : List Nat) : List Nat :=
  (if strip then head.positions else []) ++ own.map (· + head.segments.length)

end HttpRouting

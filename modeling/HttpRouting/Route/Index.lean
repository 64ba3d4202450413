import HttpRouting.Entries
import HttpRouting.Fields
import HttpRouting.Json.Value
import HttpRouting.Route.MethodTable
import HttpRouting.Route.Trie

/-! # The index of routes

All routes, in the order in which they were added, the trie that look-ups walk, and where in the trie the
node of each written shape is. The index carries the proof that the trie and these notes are those of the
routes in that order. Routes of one shape form one candidate of a look-up.

`check` decides beforehand whether routes may be added: two routes of one shape may not share a method. The
routes of a shape are found by its written form, at the node that is noted for it, and among the routes of
the batch that were checked before.
-/

namespace HttpRouting

open Text

/-- A registered route. `strip` lists the positions of the segments hidden from its handlers. -/
structure Route (ε : Type) where
  pattern : Pattern
  methods : MethodTable ε
  order : Nat
  name : Option String := none
  info : Option (Fields Json) := none
  strip : List Nat := []

/-- The route with the segments that lead to it in the trie. -/
def Route.planted {ε : Type} (route : Route ε) : List Segment × Route ε :=
  (route.pattern.segments, route)

/-- The written shape of the route, and the shape that leads to its node. -/
def Route.noted {ε : Type} (ignoreCase : Bool) (route : Route ε) : String × List Edge :=
  (route.pattern.shapeKey ignoreCase, route.pattern.shape ignoreCase)

/-- All routes of a router, in order of registration, their trie, and the nodes of their written shapes. -/
structure RouteIndex (ε : Type) where
  settings : MatchSettings := {}
  root : Trie (Route ε) := {}
  nodes : Entries (List Edge) := []
  routes : List (Route ε) := []
  grown : root = Trie.ofEntries settings.ignoreCase (routes.map Route.planted) := by rfl
  noted : nodes = Entries.ofPairs (routes.map (Route.noted settings.ignoreCase)) := by rfl

namespace RouteIndex

variable {ε : Type}

/-- The shape of a pattern under the index's comparison of literals. -/
def shapeOf (index : RouteIndex ε) (pattern : Pattern) : List Edge :=
  pattern.shape index.settings.ignoreCase

def insert (index : RouteIndex ε) (route : Route ε) : RouteIndex ε :=
  { index with
    root := index.root.insert index.settings.ignoreCase route route.pattern.segments
    nodes := index.nodes.put (route.pattern.shapeKey index.settings.ignoreCase) (index.shapeOf route.pattern)
    routes := index.routes ++ [route]
    grown := by
      rw [index.grown, List.map_append, Trie.ofEntries, Trie.ofEntries, List.foldl_append]
      rfl
    noted := by
      rw [index.noted, List.map_append, Entries.ofPairs, Entries.ofPairs, List.foldl_append]
      rfl }

@[simp] theorem settings_foldl_insert (index : RouteIndex ε) (inserted : List (Route ε)) :
    (inserted.foldl insert index).settings = index.settings := by
  induction inserted generalizing index with
  | nil => rfl
  | cons route inserted ih => exact ih (index.insert route)

@[simp] theorem routes_foldl_insert (index : RouteIndex ε) (inserted : List (Route ε)) :
    (inserted.foldl insert index).routes = index.routes ++ inserted := by
  induction inserted generalizing index with
  | nil => simp
  | cons route inserted ih => simp [ih, insert]

/-- Every candidate for the raw segments of a path, in order of precedence. -/
def collect (index : RouteIndex ε) (raw : List String) : List (Candidate (Route ε)) :=
  index.root.walk index.settings raw []

/-- The refusal of `route` on account of `other`, if they share a method. -/
def refusal? (route other : Route ε) : Option RegistrationError :=
  match other.methods.overlap route.methods with
  | [] => none
  | taken => some
    ⟨route.pattern.source, .conflict other.order other.pattern.source,
      some (MethodTable.listed taken)⟩

/-- The routes of a written shape: those inserted, at the node that is noted for it, and those that wait. -/
def rivals (index : RouteIndex ε) (waiting : Entries (List (Route ε))) (shape : String) : List (Route ε) :=
  (index.nodes.get? shape).elim [] (index.root.entriesAt ·) ++ (waiting.get? shape).getD []

/-- Check routes against those inserted, against those that wait to be, by their written shapes, and against
each other; the first conflict is the error. -/
def checkWaiting (index : RouteIndex ε) : Entries (List (Route ε)) → List (Route ε) →
    Except RegistrationError Unit
  | _, [] => .ok ()
  | waiting, route :: rest =>
    let shape := route.pattern.shapeKey index.settings.ignoreCase
    match (index.rivals waiting shape).findSome? (refusal? route) with
    | some error => .error error
    | none => checkWaiting index (waiting.put shape ((waiting.get? shape).getD [] ++ [route])) rest

def check (index : RouteIndex ε) (routes : List (Route ε)) : Except RegistrationError Unit :=
  index.checkWaiting [] routes

end RouteIndex

end HttpRouting

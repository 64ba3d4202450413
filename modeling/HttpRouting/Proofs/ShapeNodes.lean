import HttpRouting.Proofs.Lookup
import HttpRouting.Proofs.ShapeKeys

/-! # The routes of a written shape

A batch is checked by written shapes: the routes of a shape are looked up at the node that is noted for its
written form, and the routes of the batch that wait to be inserted are kept by it. As the written form tells
shapes apart, what is found are the routes of the same shape, in order, so a check is one against the list of
all routes that are there or come before.
-/

namespace HttpRouting

namespace Trie

variable {ρ : Type}

/-- The node of a shape holds the entries of that shape. -/
theorem entriesAt_ofEntries (ignoreCase : Bool) (shape : List Edge) (planted : List (List Segment × ρ)) :
    (ofEntries ignoreCase planted).entriesAt shape = ofShape ignoreCase shape planted := by
  induction shape generalizing planted with
  | nil => rw [entriesAt, entries_ofEntries, ofShape_nil]
  | cons edge shape ih =>
    rw [entriesAt, child?_ofEntries, ofShape_cons, under?]
    split_ifs with none
    · rw [none]
      rfl
    · rw [Option.map_some, Option.getD_some, ih]

end Trie

namespace RouteIndex

variable {ε : Type} (index : RouteIndex ε)

/-- The node that is noted for the written shape of a pattern is that of its shape, if a route has that. -/
theorem get?_nodes (pattern : Pattern) :
    index.nodes.get? (pattern.shapeKey index.settings.ignoreCase) =
      (index.routes.find? fun other => index.shapeOf other.pattern = index.shapeOf pattern).map fun _ =>
        index.shapeOf pattern := by
  rw [index.noted]
  induction index.routes using List.reverseRecOn with
  | nil => rfl
  | append_singleton routes route ih =>
    have step : Entries.ofPairs ((routes ++ [route]).map (Route.noted index.settings.ignoreCase)) =
        (Entries.ofPairs (routes.map (Route.noted index.settings.ignoreCase))).put
          (route.pattern.shapeKey index.settings.ignoreCase) (index.shapeOf route.pattern) := by
      rw [List.map_append, Entries.ofPairs, List.foldl_append]
      rfl
    rw [step, Entries.get?_put, ih, List.find?_append]
    by_cases same : index.shapeOf route.pattern = index.shapeOf pattern
    · rw [if_pos (Pattern.shapeKey_eq_iff.mpr same.symm), List.find?_cons_of_pos (by simpa using same), same]
      cases routes.find? _ <;> rfl
    · rw [if_neg (mt Pattern.shapeKey_eq_iff.mp (Ne.symm same)), List.find?_cons_of_neg (by simpa using same)]
      simp

/-- The routes at the node of a written shape are those of the shape. -/
theorem entriesAt_nodes (pattern : Pattern) :
    (index.nodes.get? (pattern.shapeKey index.settings.ignoreCase)).elim [] (index.root.entriesAt ·) =
      index.routes.filter fun other => index.shapeOf other.pattern = index.shapeOf pattern := by
  rw [get?_nodes]
  cases found : index.routes.find? fun other => index.shapeOf other.pattern = index.shapeOf pattern with
  | none =>
    rw [Option.map_none, Option.elim_none, eq_comm, List.filter_eq_nil_iff]
    exact List.find?_eq_none.mp found
  | some other =>
    rw [Option.map_some, Option.elim_some, index.grown, Trie.entriesAt_ofEntries, ofShape_planted]
    rfl

/-- Check routes against a list of routes that are present and against each other. -/
def checkAgainst : List (Route ε) → List (Route ε) → Except RegistrationError Unit
  | _, [] => .ok ()
  | present, route :: rest =>
    let rivals := present.filter fun other => index.shapeOf other.pattern = index.shapeOf route.pattern
    match rivals.findSome? (refusal? route) with
    | some error => .error error
    | none => checkAgainst (present ++ [route]) rest

/-- Whether routes are kept by their written shapes, in order. -/
def Keeps (waiting : Entries (List (Route ε))) (routes : List (Route ε)) : Prop :=
  ∀ pattern : Pattern, (waiting.get? (pattern.shapeKey index.settings.ignoreCase)).getD [] =
    routes.filter fun other => index.shapeOf other.pattern = index.shapeOf pattern

variable {index}

/-- A route that has been checked is kept behind those of its shape. -/
theorem Keeps.put {waiting : Entries (List (Route ε))} {routes : List (Route ε)} (keeps : index.Keeps waiting routes)
    (route : Route ε) :
    let shape := route.pattern.shapeKey index.settings.ignoreCase
    index.Keeps (waiting.put shape ((waiting.get? shape).getD [] ++ [route])) (routes ++ [route]) := by
  intro shape pattern
  rw [Entries.get?_put, List.filter_append]
  by_cases same : index.shapeOf route.pattern = index.shapeOf pattern
  · have key : pattern.shapeKey index.settings.ignoreCase = shape := Pattern.shapeKey_eq_iff.mpr same.symm
    rw [if_pos key, Option.getD_some, keeps route.pattern, List.filter_singleton]
    simp [same]
  · have key : pattern.shapeKey index.settings.ignoreCase ≠ shape := mt Pattern.shapeKey_eq_iff.mp (Ne.symm same)
    rw [if_neg key, keeps pattern]
    simp [same]

private theorem checkWaiting_eq {waiting : Entries (List (Route ε))} {routes : List (Route ε)}
    (keeps : index.Keeps waiting routes) (batch : List (Route ε)) :
    index.checkWaiting waiting batch = index.checkAgainst (index.routes ++ routes) batch := by
  induction batch generalizing waiting routes with
  | nil => rfl
  | cons route batch ih =>
    have rivals : index.rivals waiting (route.pattern.shapeKey index.settings.ignoreCase) =
        (index.routes ++ routes).filter fun other => index.shapeOf other.pattern = index.shapeOf route.pattern := by
      rw [RouteIndex.rivals, entriesAt_nodes, keeps route.pattern, List.filter_append]
    have later := ih (keeps.put route)
    rw [← List.append_assoc] at later
    rw [checkWaiting, checkAgainst, rivals]
    cases List.findSome? (refusal? route) _ with
    | some error => rfl
    | none => exact later

/-- A batch is checked as it would be against the list of all routes. -/
theorem check_eq (batch : List (Route ε)) : index.check batch = index.checkAgainst index.routes batch := by
  have start : index.Keeps [] [] := fun _ => rfl
  rw [check, checkWaiting_eq start, List.append_nil]

end RouteIndex

end HttpRouting

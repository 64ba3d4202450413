import HttpRouting.Route.Match
import HttpRouting.Route.Rank

/-! # The trie of patterns

Entries are kept in a trie of pattern segments, so that a look-up visits only the beginnings of shapes
that the path has matched so far. A node holds the entries whose segments end there and leads on by the
key of a literal, by a constraint, by a plain capture or by a wildcard; the constraints of a node stand
in the order in which they were first used there.

A look-up explores the children of a node in order of precedence — the literal, then the constrained
captures, then the plain capture (the two change places under the `capture` precedence), then the
wildcard — so what it finds is ordered by precedence too. Every node reached with no segment left over
gives one candidate.
-/

namespace HttpRouting

/-- How paths are compared with patterns. -/
structure MatchSettings where
  ignoreCase : Bool := false
  precedence : Precedence := .regex
deriving DecidableEq, Repr

/-- Entries of one shape that match a path, with the values captured, by position. -/
structure Candidate (ρ : Type) where
  routes : List ρ
  values : List String

/-- A candidate, unless it has no entry. -/
def candidate {ρ : Type} (routes : List ρ) (values : List String) : List (Candidate ρ) :=
  if routes.isEmpty then [] else [⟨routes, values⟩]

/-- What the kinds of children give, in the order in which they are explored. -/
def Precedence.arrange {α : Type} (precedence : Precedence)
    (literals constrained captures remaining : List α) : List α :=
  match precedence with
  | .regex => literals ++ constrained ++ captures ++ remaining
  | .capture => literals ++ captures ++ constrained ++ remaining

/-- A node of the trie with all that is below it. -/
structure Trie (ρ : Type) where
  entries : List ρ := []
  literals : List (String × Trie ρ) := []
  constrained : List (Constraint × Trie ρ) := []
  capture : Option (Trie ρ) := none
  wildcard : Option (Trie ρ) := none

namespace Trie

variable {ρ : Type}

/-- The children with the one under `key` grown; one under a new key comes last. -/
def growUnder {κ : Type} [DecidableEq κ] (key : κ) (grow : Trie ρ → Trie ρ) :
    List (κ × Trie ρ) → List (κ × Trie ρ)
  | [] => [(key, grow {})]
  | (other, child) :: rest =>
    if other = key then (other, grow child) :: rest else (other, child) :: growUnder key grow rest

/-- The trie with an entry added at the node that its segments lead to. -/
def insert (ignoreCase : Bool) (entry : ρ) : List Segment → Trie ρ → Trie ρ
  | [], node => { node with entries := node.entries ++ [entry] }
  | .literal value :: rest, node =>
    { node with
      literals := growUnder (literalKey ignoreCase value) (insert ignoreCase entry rest) node.literals }
  | .constrained _ constraint :: rest, node =>
    { node with constrained := growUnder constraint (insert ignoreCase entry rest) node.constrained }
  | .capture _ :: rest, node =>
    { node with capture := some (insert ignoreCase entry rest (node.capture.getD {})) }
  | .wildcard _ :: rest, node =>
    { node with wildcard := some (insert ignoreCase entry rest (node.wildcard.getD {})) }

/-- The trie of entries inserted one after the other, each where its segments lead. -/
def ofEntries (ignoreCase : Bool) (planted : List (List Segment × ρ)) : Trie ρ :=
  planted.foldl (fun node plant => node.insert ignoreCase plant.2 plant.1) {}

def child? (node : Trie ρ) : Edge → Option (Trie ρ)
  | .literal key => node.literals.lookup key
  | .constrained source => (node.constrained.find? (·.1.source = source)).map (·.2)
  | .capture => node.capture
  | .wildcard => node.wildcard

/-- The entries of the node to which a shape leads. -/
def entriesAt : List Edge → Trie ρ → List ρ
  | [], node => node.entries
  | edge :: shape, node => ((node.child? edge).map (entriesAt shape)).getD []

def wildcardEntries (node : Trie ρ) : List ρ :=
  (node.wildcard.map (·.entries)).getD []

/-- Every candidate below a node for the raw segments still ahead, given the values captured so far.
A wildcard also matches where nothing is left. -/
def walk (settings : MatchSettings) : Trie ρ → List String → List String → List (Candidate ρ)
  | node, [], values =>
    candidate node.entries values ++ candidate node.wildcardEntries (values ++ [""])
  | node, raw :: rest, values =>
    let value := decodeSegment raw
    let literals :=
      match node.literals.lookup (literalKey settings.ignoreCase raw) with
      | none => []
      | some child => walk settings child rest values
    let constrained := node.constrained.flatMap fun branch =>
      if branch.1.accepts value then walk settings branch.2 rest (values ++ [value]) else []
    let captures :=
      match node.capture with
      | none => []
      | some child => walk settings child rest (values ++ [value])
    let remaining := candidate node.wildcardEntries (values ++ [wildcardValue (raw :: rest)])
    settings.precedence.arrange literals constrained captures remaining

end Trie

end HttpRouting

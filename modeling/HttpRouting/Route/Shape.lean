import HttpRouting.Route.Pattern
import HttpRouting.Text.Case

/-! # Shapes

The shape of a pattern forgets the names of its captures and, where letter case does not count, the
case of its literals. Two patterns of one shape match exactly the same paths. The written form of a
shape tells apart any two shapes of compiled patterns: the first character of a part says what it is,
and no part holds a slash.
-/

namespace HttpRouting

open Text

/-- What two literal segments are compared by. -/
def literalKey (ignoreCase : Bool) (value : String) : String :=
  if ignoreCase then lower value else value

/-- One part of a shape. -/
inductive Edge where
  | literal (key : String)
  | capture
  | constrained (source : String)
  | wildcard
deriving DecidableEq, Repr

def Edge.text : Edge → String
  | .literal key => "L" ++ key
  | .capture => ":"
  | .constrained source => "<" ++ source ++ ">"
  | .wildcard => "*"

def Segment.edge (ignoreCase : Bool) : Segment → Edge
  | .literal value => .literal (literalKey ignoreCase value)
  | .capture _ => .capture
  | .constrained _ constraint => .constrained constraint.source
  | .wildcard _ => .wildcard

/-- The written form of a segment, letter case kept. -/
def Segment.key (segment : Segment) : String :=
  (segment.edge false).text

def Pattern.shape (ignoreCase : Bool) (pattern : Pattern) : List Edge :=
  pattern.segments.map (Segment.edge ignoreCase)

def shapeText (shape : List Edge) : String :=
  "/" ++ join "/" (shape.map Edge.text)

def Pattern.shapeKey (ignoreCase : Bool) (pattern : Pattern) : String :=
  shapeText (pattern.shape ignoreCase)

end HttpRouting

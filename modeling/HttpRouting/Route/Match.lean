import HttpRouting.Entries
import HttpRouting.Route.Shape
import HttpRouting.Text.Percent

/-! # Matching paths

A path is cut at its slashes into raw segments, empty ones dropped, and whatever follows a question
mark is ignored. Literals are compared with the raw segment as it is written; captures take it with
its percent escapes read, or as it is written when they are malformed.

The parameters of a match are its named captures, in the order of the pattern. Captures without a name
are dropped, and a name whose capture has no value gets the empty text.
-/

namespace HttpRouting

open Text

/-- The named captures of a matched path. -/
abbrev Params := Entries String

namespace Params

/-- Pair the capture names with the values of a match, by position. -/
def named : List (Option String) → List String → List (String × String)
  | [], _ => []
  | some name :: names, values => (name, values.headD "") :: named names values.tail
  | none :: names, values => named names values.tail

def ofCaptures (names : List (Option String)) (values : List String) : Params :=
  Entries.ofPairs (named names values)

end Params

def splitPath (path : String) : List String :=
  pieces '/' (before '?' path)

/-- A raw segment with its escapes read, or unchanged when they are malformed. -/
def decodeSegment (segment : String) : String :=
  (unescape? segment).getD segment

/-- The value that a wildcard captures from the segments left over. -/
def wildcardValue (rest : List String) : String :=
  join "/" (rest.map decodeSegment)

/-- The outcome of matching one segment: nothing for a literal, a value for a capture. -/
inductive SegmentMatch where
  | literal
  | value (text : String)
deriving DecidableEq, Repr

/-- The values that a segment's match adds to those of a path. -/
def SegmentMatch.values : SegmentMatch → List String
  | .literal => []
  | .value text => [text]

/-- Match one raw segment; a wildcard matches no single segment. -/
def Segment.matches? (ignoreCase : Bool) (segment : Segment) (raw : String) : Option SegmentMatch :=
  match segment with
  | .literal value =>
    if literalKey ignoreCase value = literalKey ignoreCase raw then some .literal else none
  | .capture _ => some (.value (decodeSegment raw))
  | .constrained _ constraint =>
    if constraint.accepts (decodeSegment raw) then some (.value (decodeSegment raw)) else none
  | .wildcard _ => none

/-- Match raw segments against the segments of a pattern, giving the captured values in order. -/
def matchSegments? (ignoreCase : Bool) : List Segment → List String → Option (List String)
  | [], [] => some []
  | [], _ :: _ => none
  | [.wildcard _], raw => some [wildcardValue raw]
  | _ :: _, [] => none
  | segment :: segments, raw :: rest => do
    let found ← segment.matches? ignoreCase raw
    return found.values ++ (← matchSegments? ignoreCase segments rest)

namespace Pattern

/-- The values that the pattern captures from raw segments, by position. -/
def captures? (ignoreCase : Bool) (pattern : Pattern) (raw : List String) : Option (List String) :=
  matchSegments? ignoreCase pattern.segments raw

def match? (ignoreCase : Bool) (pattern : Pattern) (path : String) : Option Params :=
  (pattern.captures? ignoreCase (splitPath path)).map (Params.ofCaptures pattern.captureNames)

end Pattern

end HttpRouting

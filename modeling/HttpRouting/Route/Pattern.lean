import HttpRouting.Regex.Parser
import HttpRouting.Regex.Match
import HttpRouting.Text.Split

/-! # Route patterns

A pattern is the list of segments that a path must have:

* `/users/active` — literal segments,
* `/users/:id` — a capture of one segment,
* `/item/:id<\d+>` — a capture whose value a regular expression must accept,
* `/files/*rest` — a wildcard, which captures all that remains and must come last.

Whatever can be wrong with a pattern is found when it is made: `segmentFault?` gives the first
offence, and a `Pattern` carries the proof that there is none, and that each of its segments fits between
two slashes. The expression of a constraint is kept with the proof that its source spells it, so that
constraints with one source are equal.
-/

namespace HttpRouting

open Text

/-- Why a text is no pattern. -/
inductive PatternCause where
  | empty
  | badName (name : String)
  | unterminatedRegex (text : String)
  | emptyRegex
  | invalidRegex (source : String)
  | wildcardNotLast
  | duplicateName (name : String)
  | stated (reason : String)
deriving DecidableEq, Repr

def PatternCause.reason : PatternCause → String
  | .empty => "pattern is empty"
  | .badName name => "invalid capture name \"" ++ name ++ "\""
  | .unterminatedRegex text => "unterminated regex in segment \"" ++ text ++ "\""
  | .emptyRegex => "empty regex"
  | .invalidRegex source => "invalid regex <" ++ source ++ ">"
  | .wildcardNotLast => "a wildcard must be the last segment"
  | .duplicateName name => "duplicate capture name \"" ++ name ++ "\""
  | .stated reason => reason

/-- A text that is no pattern, and why. -/
structure PatternError where
  pattern : String
  cause : PatternCause
deriving DecidableEq, Repr

def PatternError.message (error : PatternError) : String :=
  "Invalid route pattern \"" ++ error.pattern ++ "\": " ++ error.cause.reason

/-- The text that is compiled for a constraint: its source between anchors, as plain text. -/
def anchored (source : String) : String :=
  "^(?:" ++ source ++ ")$"

/-- A regular expression that a captured value must satisfy. -/
structure Constraint where
  source : String
  program : Regex.Program
  compiled : Regex.parse? (anchored source) = some program
deriving DecidableEq

/-- The constraint with the given source, if that is a regular expression. -/
def Constraint.ofSource? (source : String) : Option Constraint :=
  match compiled : Regex.parse? (anchored source) with
  | some program => some ⟨source, program, compiled⟩
  | none => none

def Constraint.accepts (constraint : Constraint) (value : String) : Bool :=
  constraint.program.matchesIn value

theorem Constraint.eq_of_source_eq {left right : Constraint}
    (same : left.source = right.source) : left = right := by
  obtain ⟨source, program, compiled⟩ := left
  obtain ⟨source', program', compiled'⟩ := right
  cases same
  have : some program = some program' := compiled ▸ compiled'
  cases this
  rfl

/-- One segment of a pattern. -/
inductive Segment where
  | literal (value : String)
  | capture (name : Option String)
  | constrained (name : Option String) (constraint : Constraint)
  | wildcard (name : Option String)
deriving DecidableEq

namespace Segment

def isWildcard : Segment → Bool
  | .wildcard _ => true
  | _ => false

/-- The name under which the segment captures, or `none` for a literal. -/
def captureName? : Segment → Option (Option String)
  | .literal _ => none
  | .capture name => some name
  | .constrained name _ => some name
  | .wildcard name => some name

def name? (segment : Segment) : Option String :=
  segment.captureName?.join

end Segment

/-- The first offence in a list of segments, given the names already used: a wildcard that something
follows, or a name used before. -/
def segmentFault? (used : List String) : List Segment → Option PatternCause
  | [] => none
  | segment :: rest =>
    if segment.isWildcard ∧ rest ≠ [] then some .wildcardNotLast
    else
      match segment.name? with
      | none => segmentFault? used rest
      | some name =>
        if used.contains name then some (.duplicateName name) else segmentFault? (name :: used) rest

/-- Whether what is written in a segment fits between two slashes of a path. -/
def Segment.Unbroken : Segment → Prop
  | .literal value => value ≠ "" ∧ '/' ∉ value.toList
  | .constrained _ constraint => '/' ∉ constraint.source.toList
  | .capture _ | .wildcard _ => True

/-- A route pattern: the text it was made from, with a leading slash, and its segments. -/
structure Pattern where
  source : String
  segments : List Segment
  sound : segmentFault? [] segments = none
  unbroken : ∀ segment ∈ segments, segment.Unbroken
deriving DecidableEq

def withLeadingSlash (text : String) : String :=
  if startsWith "/" text then text else "/" ++ text

namespace Pattern

def ofSegments (source : String) (segments : List Segment)
    (unbroken : ∀ segment ∈ segments, segment.Unbroken) : Except PatternError Pattern :=
  match sound : segmentFault? [] segments with
  | some cause => .error ⟨source, cause⟩
  | none => .ok ⟨withLeadingSlash source, segments, sound, unbroken⟩

def captureNames (pattern : Pattern) : List (Option String) :=
  pattern.segments.filterMap Segment.captureName?

def hasWildcard (pattern : Pattern) : Bool :=
  pattern.segments.getLast?.any Segment.isWildcard

/-- The source of two patterns written one after the other. -/
def joinSources (head tail : String) : String :=
  let head := if head = "/" then "" else dropTrailing '/' head
  let tail := if tail = "/" then "" else tail
  if head ++ tail = "" then "/" else head ++ tail

/-- The pattern of a path that first has the segments of `head` and then those of `tail`. -/
def join (head tail : Pattern) : Except PatternError Pattern :=
  ofSegments (joinSources head.source tail.source) (head.segments ++ tail.segments)
    (List.forall_mem_append.mpr ⟨head.unbroken, tail.unbroken⟩)

end Pattern

end HttpRouting

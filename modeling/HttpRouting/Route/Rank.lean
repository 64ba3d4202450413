import HttpRouting.Route.Pattern

/-! # Which pattern is more specific

Patterns that match one path are ranked by counting their segments: more literals win; then a pattern
without a wildcard; then more constrained captures (fewer, under the `capture` precedence); then more
plain captures. Only the sign of the rank counts for the choice; its size is the difference that
decided.
-/

namespace HttpRouting

/-- Which of a constrained and a plain capture at one place is tried and preferred first. -/
inductive Precedence where
  | regex
  | capture
deriving DecidableEq, Repr

def Precedence.name : Precedence → String
  | .regex => "regex"
  | .capture => "capture"

def Precedence.ofName? (name : String) : Option Precedence :=
  if name = "regex" then some .regex else if name = "capture" then some .capture else none

/-- The precedence that a word asks for: any word but `regex` puts plain captures first. -/
def Precedence.ofWord (word : String) : Precedence :=
  if word = "regex" then .regex else .capture

/-- How many segments of each kind a pattern has. -/
structure Specificity where
  literals : Nat
  regexes : Nat
  captures : Nat
  wildcard : Bool
deriving DecidableEq, Repr

def Pattern.specificity (pattern : Pattern) : Specificity where
  literals := pattern.segments.countP fun | .literal _ => true | _ => false
  regexes := pattern.segments.countP fun | .constrained _ _ => true | _ => false
  captures := pattern.segments.countP fun | .capture _ => true | _ => false
  wildcard := pattern.hasWildcard

def countDifference (left right : Nat) : Int :=
  Int.ofNat left - Int.ofNat right

/-- Positive when `left` is the more specific, negative when `right` is, zero on a tie. -/
def Specificity.compare (precedence : Precedence) (left right : Specificity) : Int :=
  if left.literals ≠ right.literals then countDifference left.literals right.literals
  else if left.wildcard ≠ right.wildcard then if left.wildcard then -1 else 1
  else if left.regexes ≠ right.regexes then
    match precedence with
    | .regex => countDifference left.regexes right.regexes
    | .capture => countDifference right.regexes left.regexes
  else countDifference left.captures right.captures

end HttpRouting

import HttpRouting.Regex.Basic

/-! # Matching by backtracking

A matcher takes the progress made so far and a continuation that says what must follow, and gives
the first progress, in order of preference, with which the continuation succeeds. Backward matching,
inside a look behind, is the same with the ends of the text exchanged. A round of an iteration that
is not required may not be empty, so a text of `n` units bounds the optional rounds by `n`.
-/

namespace HttpRouting.Regex

open Text

/-- How far a match has come: its position, and where each capture last matched. -/
structure Progress where
  position : Nat
  captures : Array (Option (Nat × Nat))
deriving DecidableEq, Repr

/-- What must follow a partial match. -/
abbrev Continuation := Progress → Option Progress

/-- Match one part of an expression. -/
abbrev Matcher := Progress → Continuation → Option Progress

def Progress.capture? (progress : Progress) (index : Nat) : Option (Nat × Nat) :=
  (progress.captures[index]?).join

/-- Forget the captures numbered after `before`, `count` of them. -/
def Progress.forget (before count : Nat) (progress : Progress) : Progress :=
  { progress with
    captures := (List.range count).foldl
      (fun captures offset => captures.setIfInBounds (before + 1 + offset) none) progress.captures }

def Progress.record (index first last : Nat) (progress : Progress) : Progress :=
  { progress with captures := progress.captures.setIfInBounds index (some (first, last)) }

/-- Consume one unit that passes `test`, forward or backward. -/
def consume (input : Array CodeUnit) (forward : Bool) (test : UnitTest) : Matcher :=
  fun progress next =>
    if forward then
      match input[progress.position]? with
      | some unit =>
        if test.holds unit then next { progress with position := progress.position + 1 } else none
      | none => none
    else if progress.position = 0 then none
    else
      match input[progress.position - 1]? with
      | some unit =>
        if test.holds unit then next { progress with position := progress.position - 1 } else none
      | none => none

/-- Whether the units from `first` on, `count` of them, equal those from `other` on. -/
def sameUnits (input : Array CodeUnit) (first other count : Nat) : Bool :=
  (List.range count).all fun offset => input[first + offset]? == input[other + offset]?

/-- Consume what a capture matched; a capture that has not matched consumes nothing. -/
def consumeCapture (input : Array CodeUnit) (forward : Bool) (index : Nat) : Matcher :=
  fun progress next =>
    match progress.capture? index with
    | none => next progress
    | some (first, last) =>
      let count := last - first
      if forward then
        if progress.position + count ≤ input.size ∧
            sameUnits input progress.position first count then
          next { progress with position := progress.position + count }
        else none
      else if count ≤ progress.position ∧
          sameUnits input (progress.position - count) first count then
        next { progress with position := progress.position - count }
      else none

def isWordAt (input : Array CodeUnit) (position : Nat) : Bool :=
  (input[position]?).any UnitSet.isWord

/-- Whether a word begins or ends at a position. -/
def isBoundary (input : Array CodeUnit) (position : Nat) : Bool :=
  (position > 0 && isWordAt input (position - 1)) != isWordAt input position

/-- Go on only under a condition that consumes nothing. -/
def proceedIf (condition : Progress → Bool) : Matcher :=
  fun progress next => if condition progress then next progress else none

/-- The rounds of an iteration, at most `fuel` of them. -/
def rounds (body : Matcher) (forget : Progress → Progress) (greedy : Bool) :
    Nat → Nat → Option Nat → Matcher
  | 0, _, _ => fun _ _ => none
  | fuel + 1, least, most => fun progress next =>
    if most = some 0 then next progress
    else
      let again (_ : Unit) := body (forget progress) fun after =>
        if least = 0 ∧ after.position = progress.position then none
        else rounds body forget greedy fuel (least - 1) (most.map (· - 1)) after next
      if least > 0 then again ()
      else if greedy then (again ()).orElse fun _ => next progress
      else (next progress).orElse again

/-- The matcher of an expression in one direction. -/
def run (input : Array CodeUnit) : Regex → Bool → Matcher
  | .empty, _ => fun progress next => next progress
  | .test condition, forward => consume input forward condition
  | .sequence first second, forward => fun progress next =>
    if forward then
      run input first forward progress fun between => run input second forward between next
    else run input second forward progress fun between => run input first forward between next
  | .either left right, forward => fun progress next =>
    (run input left forward progress next).orElse fun _ => run input right forward progress next
  | .capture index body, forward => fun progress next =>
    run input body forward progress fun after =>
      next (after.record index (min progress.position after.position)
        (max progress.position after.position))
  | .iterate body least most greedy before count, forward =>
    rounds (run input body forward) (Progress.forget before count) greedy
      (least + input.size + 2) least most
  | .recall index, forward => consumeCapture input forward index
  | .look ahead negated body, _ => fun progress next =>
    match run input body ahead progress some with
    | some after => if negated then none else next { after with position := progress.position }
    | none => if negated then next progress else none
  | .textStart, _ => proceedIf fun progress => progress.position = 0
  | .textEnd, _ => proceedIf fun progress => progress.position = input.size
  | .boundary negated, _ => proceedIf fun progress => isBoundary input progress.position != negated

/-- The progress before any unit from `position` on is read. -/
def Program.start (program : Program) (position : Nat) : Progress :=
  ⟨position, Array.replicate (program.captureCount + 1) none⟩

def Program.matchesAt (program : Program) (input : Array CodeUnit) (position : Nat) : Bool :=
  (run input program.tree true (program.start position) some).isSome

def Program.matchesIn (program : Program) (text : String) : Bool :=
  let input := (units text).toArray
  (List.range (input.size + 1)).any (program.matchesAt input)

end HttpRouting.Regex

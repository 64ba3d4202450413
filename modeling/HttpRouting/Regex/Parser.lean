import HttpRouting.Regex.Token

/-! # Reading regular expressions

Tokens are folded into a tree with a stack of the parentheses that are still open. An expression is
malformed when a parenthesis has no partner, a quantifier has nothing to repeat, two captures share
a name, or a name is recalled that no capture has.
-/

namespace HttpRouting.Regex

/-- One factor of a sequence, with the number of captures before it. -/
structure Factor where
  tree : Regex
  capturesBefore : Nat
  repeatable : Bool

/-- An open parenthesis: the alternatives it already has and the factors of the one being read,
each latest first. -/
structure Frame where
  opening : Opening
  capturesBefore : Nat
  alternatives : List Regex
  factors : List Factor

/-- The sequence of factors given latest first. -/
def sequenceOf : List Factor → Regex
  | [] => .empty
  | factors => factors.foldl (fun later factor =>
      if later = .empty then factor.tree else .sequence factor.tree later) .empty

/-- The choice between alternatives given latest first. -/
def choiceOf : List Regex → Regex
  | [] => .empty
  | last :: earlier => earlier.foldl (fun later alternative => .either alternative later) last

def Frame.add (frame : Frame) (tree : Regex) (capturesBefore : Nat) (repeatable : Bool) : Frame :=
  { frame with factors := ⟨tree, capturesBefore, repeatable⟩ :: frame.factors }

def Frame.endAlternative (frame : Frame) : Frame :=
  { frame with alternatives := sequenceOf frame.factors :: frame.alternatives, factors := [] }

/-- The choice that the frame has read. -/
def Frame.body (frame : Frame) : Regex :=
  choiceOf (sequenceOf frame.factors :: frame.alternatives)

/-- The tree of a parenthesis that has been closed. -/
def Frame.close (frame : Frame) : Regex :=
  match frame.opening with
  | .group => frame.body
  | .capture _ => .capture (frame.capturesBefore + 1) frame.body
  | .look ahead negated => .look ahead negated frame.body

/-- Whether the tree of the closed parenthesis may be repeated; only a look behind may not. -/
def Frame.repeatable (frame : Frame) : Bool :=
  match frame.opening with
  | .look ahead _ => ahead
  | _ => true

def captureNames (tokens : List Token) : List (Option String) :=
  tokens.filterMap fun
    | .opening (.capture name) => some name
    | _ => none

/-- Fold tokens into a tree, given the names of all captures, the enclosing open parentheses, the
innermost one, and the number of captures so far. -/
def build? (names : List (Option String)) (outer : List Frame) (frame : Frame) (captures : Nat) :
    List Token → Option Regex
  | [] => if outer.isEmpty then some frame.body else none
  | token :: rest =>
    match token with
    | .test condition => build? names outer (frame.add (.test condition) captures true) captures rest
    | .recall index => build? names outer (frame.add (.recall index) captures true) captures rest
    | .recallName name =>
      if names.contains (some name) then
        build? names outer (frame.add (.recall (names.idxOf (some name) + 1)) captures true)
          captures rest
      else none
    | .textStart => build? names outer (frame.add .textStart captures false) captures rest
    | .textEnd => build? names outer (frame.add .textEnd captures false) captures rest
    | .boundary negated =>
      build? names outer (frame.add (.boundary negated) captures false) captures rest
    | .opening opening =>
      let inside := match opening with
        | .capture _ => captures + 1
        | _ => captures
      build? names (frame :: outer) ⟨opening, captures, [], []⟩ inside rest
    | .closing =>
      match outer with
      | [] => none
      | enclosing :: outer =>
        build? names outer
          (enclosing.add frame.close frame.capturesBefore frame.repeatable) captures rest
    | .bar => build? names outer frame.endAlternative captures rest
    | .quantifier least most greedy =>
      match frame.factors with
      | [] => none
      | factor :: earlier =>
        if factor.repeatable then
          let tree := .iterate factor.tree least most greedy factor.capturesBefore
            (captures - factor.capturesBefore)
          build? names outer
            { frame with factors := ⟨tree, factor.capturesBefore, false⟩ :: earlier } captures rest
        else none

def namesDistinct (names : List (Option String)) : Bool :=
  let given := names.filterMap id
  given.eraseDups.length = given.length

def parseUnits? (units : List Text.CodeUnit) : Option Program := do
  let outline := Outline.scan false {} units
  let tokens ← tokens? outline units.length units
  let names := captureNames tokens
  if namesDistinct names then
    let tree ← build? names [] ⟨.group, 0, [], []⟩ 0 tokens
    return ⟨tree, names.length⟩
  else none

/-- The expression that a text spells; `none` when the text is malformed. -/
def parse? (source : String) : Option Program :=
  parseUnits? (Text.units source)

end HttpRouting.Regex

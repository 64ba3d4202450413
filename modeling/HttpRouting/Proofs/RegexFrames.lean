import HttpRouting.Regex.Parser
import Mathlib.Data.List.Basic
import Mathlib.Tactic.SplitIfs

/-! # Folding tokens under another parenthesis

The tree of an expression is made with a stack of the parentheses that are still open. What lies at the bottom
of the stack is not looked at until a token closes it. So tokens that close no parenthesis but their own are
folded in the same way when one more frame lies under theirs, and the first token that closes more than was
opened is where the two foldings part.
-/

namespace HttpRouting.Regex

/-- What has been folded so far: the enclosing open parentheses, the innermost one, and the number of captures. -/
structure Folding where
  outer : List Frame
  frame : Frame
  captures : Nat

namespace Folding

/-- The folding with a factor added to the innermost parenthesis. -/
def add (folding : Folding) (tree : Regex) (repeatable : Bool) : Folding :=
  { folding with frame := folding.frame.add tree folding.captures repeatable }

def step (names : List (Option String)) (folding : Folding) : Token → Option Folding
  | .test condition => some (folding.add (.test condition) true)
  | .recall index => some (folding.add (.recall index) true)
  | .recallName name =>
    if names.contains (some name) then some (folding.add (.recall (names.idxOf (some name) + 1)) true) else none
  | .textStart => some (folding.add .textStart false)
  | .textEnd => some (folding.add .textEnd false)
  | .boundary negated => some (folding.add (.boundary negated) false)
  | .opening opening =>
    let inside := match opening with
      | .capture _ => folding.captures + 1
      | _ => folding.captures
    some ⟨folding.frame :: folding.outer, ⟨opening, folding.captures, [], []⟩, inside⟩
  | .closing =>
    match folding.outer with
    | [] => none
    | enclosing :: outer =>
      some ⟨outer, enclosing.add folding.frame.close folding.frame.capturesBefore folding.frame.repeatable,
        folding.captures⟩
  | .bar => some { folding with frame := folding.frame.endAlternative }
  | .quantifier least most greedy =>
    match folding.frame.factors with
    | [] => none
    | factor :: earlier =>
      if factor.repeatable then
        let tree := .iterate factor.tree least most greedy factor.capturesBefore
          (folding.captures - factor.capturesBefore)
        some { folding with
          frame := { folding.frame with factors := ⟨tree, factor.capturesBefore, false⟩ :: earlier } }
      else none

/-- The tree, if no parenthesis is open any more. -/
def finish? (folding : Folding) : Option Regex :=
  if folding.outer.isEmpty then some folding.frame.body else none

end Folding

theorem build?_eq (names : List (Option String)) (outer : List Frame) (frame : Frame) (captures : Nat)
    (tokens : List Token) :
    build? names outer frame captures tokens =
      (tokens.foldlM (Folding.step names) ⟨outer, frame, captures⟩).bind Folding.finish? := by
  induction tokens generalizing outer frame captures with
  | nil => rfl
  | cons token rest ih =>
    rw [build?.eq_def, List.foldlM_cons]
    cases token with
    | test | «recall» | textStart | textEnd | boundary | bar | opening => exact ih _ _ _
    | recallName name =>
      simp only [Folding.step]
      split_ifs
      · exact ih _ _ _
      · rfl
    | closing =>
      cases outer with
      | nil => rfl
      | cons enclosing outer => exact ih _ _ _
    | quantifier least most greedy =>
      dsimp only [Folding.step]
      cases frame.factors with
      | nil => rfl
      | cons factor earlier =>
        dsimp only
        split_ifs
        · exact ih _ _ _
        · rfl

namespace Folding

variable {names : List (Option String)} {folding folding' : Folding} {bottom : Frame} {token : Token}
  {tokens : List Token}

/-- The folding with one more parenthesis around all others. -/
def under (bottom : Frame) (folding : Folding) : Folding :=
  { folding with outer := folding.outer ++ [bottom] }

/-- The bottom of the stack makes a difference only to the token that closes it. -/
theorem step_under (inner : token = .closing → folding.outer ≠ []) :
    (folding.under bottom).step names token = (folding.step names token).map (under bottom) := by
  cases token with
  | test | «recall» | textStart | textEnd | boundary | bar | opening => rfl
  | recallName name =>
    simp only [step]
    split_ifs <;> rfl
  | closing =>
    obtain ⟨outer, frame, captures⟩ := folding
    cases outer with
    | nil => exact (inner rfl rfl).elim
    | cons enclosing outer => rfl
  | quantifier least most greedy =>
    obtain ⟨outer, ⟨opening, before, alternatives, factors⟩, captures⟩ := folding
    cases factors with
    | nil => rfl
    | cons factor earlier =>
      simp only [step, under]
      split_ifs <;> rfl

/-- Tokens that can be folded can be folded under one more parenthesis. -/
theorem foldlM_under (folded : tokens.foldlM (step names) folding = some folding') :
    tokens.foldlM (step names) (folding.under bottom) = some (folding'.under bottom) := by
  induction tokens generalizing folding with
  | nil =>
    cases folded
    rfl
  | cons token rest ih =>
    rw [List.foldlM_cons] at folded ⊢
    obtain ⟨between, first, later⟩ := Option.bind_eq_some_iff.mp folded
    have inner : token = .closing → folding.outer ≠ [] := by
      rintro rfl empty
      simp [step, empty] at first
    rw [step_under inner, first]
    exact ih later

/-- When tokens cannot be folded, but can be under one more parenthesis, then one of them closes that. -/
theorem exists_closing_of_foldlM (stuck : tokens.foldlM (step names) folding = none)
    (folded : tokens.foldlM (step names) (folding.under bottom) ≠ none) :
    ∃ front back between, tokens = front ++ .closing :: back ∧
      front.foldlM (step names) folding = some between ∧ between.outer = [] := by
  induction tokens generalizing folding with
  | nil => cases stuck
  | cons token rest ih =>
    by_cases closes : token = .closing ∧ folding.outer = []
    · obtain ⟨rfl, empty⟩ := closes
      exact ⟨[], rest, folding, rfl, rfl, empty⟩
    have inner : token = .closing → folding.outer ≠ [] := fun same empty => closes ⟨same, empty⟩
    rw [List.foldlM_cons] at stuck folded
    rw [step_under inner] at folded
    cases first : folding.step names token with
    | none => exact (folded (by rw [first]; rfl)).elim
    | some next =>
      rw [first] at stuck folded
      obtain ⟨front, back, between, same, before, empty⟩ := ih stuck folded
      refine ⟨token :: front, back, between, congrArg _ same, ?_, empty⟩
      rw [List.foldlM_cons, first]
      exact before

end Folding

def openings (tokens : List Token) : Nat :=
  tokens.countP fun token => token matches .opening _

def closings (tokens : List Token) : Nat :=
  tokens.countP fun token => token matches .closing

namespace Folding

variable {names : List (Option String)} {folding folding' : Folding} {token : Token} {tokens : List Token}

/-- What a token does to the open parentheses: it puts one on the stack, takes one off, or leaves the stack as it
is and the innermost parenthesis of its kind. -/
theorem step_cases (stepped : folding.step names token = some folding') :
    (∃ opening, token = .opening opening ∧ folding'.outer = folding.frame :: folding.outer) ∨
    (∃ enclosing, token = .closing ∧ folding.outer = enclosing :: folding'.outer ∧
      folding'.frame.opening = enclosing.opening) ∨
    (openings [token] = 0 ∧ closings [token] = 0 ∧ folding'.outer = folding.outer ∧
      folding'.frame.opening = folding.frame.opening) := by
  cases token with
  | test | «recall» | textStart | textEnd | boundary | bar =>
    cases stepped
    exact .inr (.inr ⟨rfl, rfl, rfl, rfl⟩)
  | opening opening =>
    cases stepped
    exact .inl ⟨opening, rfl, rfl⟩
  | recallName name =>
    simp only [step] at stepped
    split_ifs at stepped
    cases stepped
    exact .inr (.inr ⟨rfl, rfl, rfl, rfl⟩)
  | closing =>
    obtain ⟨outer, frame, captures⟩ := folding
    cases outer with
    | nil => cases stepped
    | cons enclosing outer =>
      cases stepped
      exact .inr (.inl ⟨enclosing, rfl, rfl, rfl⟩)
  | quantifier least most greedy =>
    obtain ⟨outer, ⟨opening, before, alternatives, factors⟩, captures⟩ := folding
    cases factors with
    | nil => cases stepped
    | cons factor earlier =>
      simp only [step] at stepped
      split_ifs at stepped
      cases stepped
      exact .inr (.inr ⟨rfl, rfl, rfl, rfl⟩)

/-- As many parentheses stay open as were opened and not closed. -/
theorem foldlM_outer (folded : tokens.foldlM (step names) folding = some folding') :
    folding'.outer.length + closings tokens = folding.outer.length + openings tokens := by
  induction tokens generalizing folding with
  | nil =>
    cases folded
    rfl
  | cons token rest ih =>
    rw [List.foldlM_cons] at folded
    obtain ⟨between, first, later⟩ := Option.bind_eq_some_iff.mp folded
    have here : between.outer.length + closings [token] = folding.outer.length + openings [token] := by
      obtain ⟨opening, rfl, pushed⟩ | ⟨enclosing, rfl, popped, _⟩ | ⟨opens, closes, same, _⟩ :=
        step_cases first
      · rw [pushed]
        rfl
      · rw [popped]
        rfl
      · rw [opens, closes, same]
    have behind := ih later
    simp only [openings, closings, List.countP_cons, List.countP_nil] at here behind ⊢
    omega

/-- What the outermost of the open parentheses begins. -/
def root? (folding : Folding) : Option Opening :=
  ((folding.frame :: folding.outer).map Frame.opening).getLast?

/-- The outermost parenthesis stays what it is. -/
theorem foldlM_root? (folded : tokens.foldlM (step names) folding = some folding') :
    folding'.root? = folding.root? := by
  induction tokens generalizing folding with
  | nil =>
    cases folded
    rfl
  | cons token rest ih =>
    rw [List.foldlM_cons] at folded
    obtain ⟨between, first, later⟩ := Option.bind_eq_some_iff.mp folded
    refine (ih later).trans ?_
    obtain ⟨opening, rfl, pushed⟩ | ⟨enclosing, rfl, popped, kind⟩ | ⟨_, _, same, kind⟩ :=
      step_cases first
    · simp [root?, pushed]
    · simp [root?, popped, kind]
    · simp [root?, same, kind]

end Folding

end HttpRouting.Regex

import HttpRouting.Regex.Match
import Mathlib.Data.List.Basic
import Mathlib.Tactic.SplitIfs

/-! # What an expression spans

The matcher tries the ways of matching one after another and stops at the first with which the continuation
succeeds. The relation `Spans` says which ways there are, without an order and without a bound on the rounds
of an iteration, and `run_isSome_iff` that the matcher misses none: it succeeds exactly when the continuation
does after one of them. A negated look is here that there is no way at all. Only in a look that is not negated
does it matter which way is first, since its captures stay, so there the relation asks the matcher.

That the bound on the rounds is high enough rests on the units that are left in the direction of the match:
no way adds to them, and a round that is not required must take some.
-/

namespace HttpRouting.Regex

open Text

/-- The rounds of an iteration whose body leads from one progress to another. -/
inductive Rounds (body : Progress → Progress → Prop) (forget : Progress → Progress) :
    Nat → Option Nat → Progress → Progress → Prop
  | stop {least : Nat} {most : Option Nat} {here : Progress} (enough : least = 0 ∨ most = some 0) :
    Rounds body forget least most here here
  | again {least : Nat} {most : Option Nat} {here between last : Progress} (allowed : most ≠ some 0)
    (round : body (forget here) between) (fruitful : least = 0 → between.position ≠ here.position)
    (later : Rounds body forget (least - 1) (most.map (· - 1)) between last) :
    Rounds body forget least most here last

/-- Whether an expression, read in one direction, leads from one progress to another. -/
def Spans (input : Array CodeUnit) : Regex → Bool → Progress → Progress → Prop
  | .empty, _, here, last => last = here
  | .test condition, forward, here, last => consume input forward condition here some = some last
  | .sequence first second, forward, here, last =>
    if forward then ∃ between, Spans input first forward here between ∧ Spans input second forward between last
    else ∃ between, Spans input second forward here between ∧ Spans input first forward between last
  | .either left right, forward, here, last =>
    Spans input left forward here last ∨ Spans input right forward here last
  | .capture index body, forward, here, last =>
    ∃ after, Spans input body forward here after ∧
      last = after.record index (min here.position after.position) (max here.position after.position)
  | .iterate body least most _ before count, forward, here, last =>
    Rounds (Spans input body forward) (Progress.forget before count) least most here last
  | .recall index, forward, here, last => consumeCapture input forward index here some = some last
  | .look ahead negated body, _, here, last =>
    if negated then (¬∃ after, Spans input body ahead here after) ∧ last = here
    else ∃ after, run input body ahead here some = some after ∧ last = { after with position := here.position }
  | .textStart, _, here, last => here.position = 0 ∧ last = here
  | .textEnd, _, here, last => here.position = input.size ∧ last = here
  | .boundary negated, _, here, last => (isBoundary input here.position != negated) = true ∧ last = here

/-- How many units are left in the direction of a match. -/
def Progress.left (input : Array CodeUnit) (forward : Bool) (here : Progress) : Nat :=
  if forward then input.size - here.position else here.position

/-- Whether a part of a match stays within the text and goes in its direction. -/
def Advances (input : Array CodeUnit) (forward : Bool) (here last : Progress) : Prop :=
  last.position ≤ input.size ∧ last.left input forward ≤ here.left input forward

section

variable {input : Array CodeUnit} {forward : Bool} {here between last : Progress} {next : Continuation}

theorem Advances.of_position_eq (inside : here.position ≤ input.size) (same : last.position = here.position) :
    Advances input forward here last := by
  rw [Advances, Progress.left, Progress.left, same]
  exact ⟨inside, Nat.le_refl _⟩

theorem Advances.trans (front : Advances input forward here between)
    (back : Advances input forward between last) : Advances input forward here last :=
  ⟨back.1, Nat.le_trans back.2 front.2⟩

/-- A part of a match that ends elsewhere than it began has taken units. -/
theorem Advances.left_lt (advances : Advances input forward here last) (inside : here.position ≤ input.size)
    (moved : last.position ≠ here.position) : last.left input forward < here.left input forward := by
  obtain ⟨bound, fewer⟩ := advances
  rw [Progress.left, Progress.left] at fewer ⊢
  cases forward with
  | true => simp only [if_true] at fewer ⊢; omega
  | false => simp only [Bool.false_eq_true, if_false] at fewer ⊢; omega

private theorem consume_eq_bind (condition : UnitTest) :
    consume input forward condition here next = (consume input forward condition here some).bind next := by
  rw [consume, consume]
  split_ifs
  · split
    · split_ifs <;> rfl
    · rfl
  · rfl
  · split
    · split_ifs <;> rfl
    · rfl

private theorem advances_of_consume {condition : UnitTest} (inside : here.position ≤ input.size)
    (taken : consume input forward condition here some = some last) : Advances input forward here last := by
  rw [consume] at taken
  cases forward with
  | true =>
    rw [if_pos rfl] at taken
    split at taken
    · rename_i unit found
      obtain ⟨bound, _⟩ := Array.getElem?_eq_some_iff.mp found
      split_ifs at taken
      cases taken
      refine ⟨bound, ?_⟩
      simp only [Progress.left, if_true]
      omega
    · cases taken
  | false =>
    rw [if_neg Bool.false_ne_true] at taken
    split_ifs at taken with start
    split at taken
    · split_ifs at taken
      cases taken
      simp only [Advances, Progress.left, Bool.false_eq_true, if_false]
      omega
    · cases taken

private theorem consumeCapture_eq_bind (index : Nat) :
    consumeCapture input forward index here next =
      (consumeCapture input forward index here some).bind next := by
  rw [consumeCapture, consumeCapture]
  split
  · rfl
  · dsimp only
    split_ifs <;> rfl

private theorem advances_of_consumeCapture {index : Nat} (inside : here.position ≤ input.size)
    (taken : consumeCapture input forward index here some = some last) : Advances input forward here last := by
  rw [consumeCapture] at taken
  split at taken
  · cases taken
    exact .of_position_eq inside rfl
  · cases forward with
    | true =>
      dsimp only at taken
      rw [if_pos rfl] at taken
      split_ifs at taken with fits
      cases taken
      refine ⟨fits.1, ?_⟩
      simp only [Progress.left, if_true]
      omega
    | false =>
      dsimp only at taken
      rw [if_neg Bool.false_ne_true] at taken
      split_ifs at taken with fits
      cases taken
      simp only [Advances, Progress.left, Bool.false_eq_true, if_false]
      omega

private theorem isSome_proceedIf (condition : Progress → Bool) :
    (proceedIf condition here next).isSome ↔ condition here = true ∧ (next here).isSome := by
  rw [proceedIf]
  split_ifs with holds
  · simp [holds]
  · simp [holds]

private theorem position_forget (before count : Nat) : (here.forget before count).position = here.position := rfl

theorem Rounds.advances {body : Progress → Progress → Prop} {before count least : Nat} {most : Option Nat}
    (steps : ∀ {here last}, here.position ≤ input.size → body here last → Advances input forward here last)
    (rounds : Rounds body (Progress.forget before count) least most here last)
    (inside : here.position ≤ input.size) : Advances input forward here last := by
  induction rounds with
  | stop => exact .of_position_eq inside rfl
  | again _ round _ _ ih =>
    have front : Advances input forward _ _ := @steps (Progress.forget before count _) _ inside round
    exact Advances.trans front (ih front.1)

/-- An expression spans parts of the text that go in the direction of the match. -/
theorem Spans.advances {tree : Regex} (inside : here.position ≤ input.size)
    (spans : Spans input tree forward here last) : Advances input forward here last := by
  induction tree generalizing forward here last with
  | empty => exact .of_position_eq inside (congrArg _ spans)
  | test condition => exact advances_of_consume inside spans
  | sequence first second ih₁ ih₂ =>
    rw [Spans] at spans
    split_ifs at spans
    · obtain ⟨between, front, back⟩ := spans
      exact (ih₁ inside front).trans (ih₂ (ih₁ inside front).1 back)
    · obtain ⟨between, front, back⟩ := spans
      exact (ih₂ inside front).trans (ih₁ (ih₂ inside front).1 back)
  | either left right ih₁ ih₂ => exact spans.elim (ih₁ inside) (ih₂ inside)
  | capture index body ih =>
    obtain ⟨after, within, rfl⟩ := spans
    have advances : Advances input forward here after := ih inside within
    exact advances
  | iterate body least most greedy before count ih =>
    exact Rounds.advances (fun inside once => ih inside once) spans inside
  | «recall» index => exact advances_of_consumeCapture inside spans
  | look ahead negated body =>
    rw [Spans] at spans
    split_ifs at spans
    · exact .of_position_eq inside (congrArg _ spans.2)
    · obtain ⟨after, _, rfl⟩ := spans
      exact .of_position_eq inside rfl
  | textStart | textEnd | boundary => exact .of_position_eq inside (congrArg _ spans.2)

/-- The rounds of an iteration are over, or one more round leads to the others. -/
theorem exists_rounds_iff {body : Progress → Progress → Prop} {forget : Progress → Progress} {least : Nat}
    {most : Option Nat} {accepts : Progress → Prop} :
    (∃ last, Rounds body forget least most here last ∧ accepts last) ↔
      (least = 0 ∨ most = some 0) ∧ accepts here ∨
        most ≠ some 0 ∧ ∃ between, body (forget here) between ∧
          (least = 0 → between.position ≠ here.position) ∧
          ∃ last, Rounds body forget (least - 1) (most.map (· - 1)) between last ∧ accepts last := by
  constructor
  · rintro ⟨last, rounds, ends⟩
    cases rounds with
    | stop enough => exact .inl ⟨enough, ends⟩
    | again allowed round fruitful later => exact .inr ⟨allowed, _, round, fruitful, _, later, ends⟩
  · rintro (⟨enough, ends⟩ | ⟨allowed, between, round, fruitful, last, later, ends⟩)
    · exact ⟨here, .stop enough, ends⟩
    · exact ⟨last, .again allowed round fruitful later, ends⟩

/-- When the matcher of the body misses no way, and there is fuel for the required rounds and for one round for
each unit that is left, then the matcher of the iteration misses none. -/
theorem rounds_isSome_iff {matcher : Matcher} {body : Progress → Progress → Prop} {before count : Nat}
    (greedy : Bool)
    (complete : ∀ {here next}, here.position ≤ input.size →
      ((matcher here next).isSome ↔ ∃ last, body here last ∧ (next last).isSome))
    (steps : ∀ {here last}, here.position ≤ input.size → body here last → Advances input forward here last)
    {fuel least : Nat} {most : Option Nat} (inside : here.position ≤ input.size)
    (enough : least + here.left input forward < fuel) :
    (rounds matcher (Progress.forget before count) greedy fuel least most here next).isSome ↔
      ∃ last, Rounds body (Progress.forget before count) least most here last ∧ (next last).isSome := by
  induction fuel generalizing least most here with
  | zero => omega
  | succ fuel ih =>
    have again : (matcher (here.forget before count) fun after =>
          if least = 0 ∧ after.position = here.position then none
          else rounds matcher (Progress.forget before count) greedy fuel (least - 1) (most.map (· - 1))
            after next).isSome ↔
        ∃ between, body (here.forget before count) between ∧
          (least = 0 → between.position ≠ here.position) ∧
          ∃ last, Rounds body (Progress.forget before count) (least - 1) (most.map (· - 1)) between last ∧
            (next last).isSome := by
      rw [complete (by rwa [position_forget])]
      refine exists_congr fun between => and_congr_right fun round => ?_
      have front : Advances input forward here between :=
        @steps (here.forget before count) _ inside round
      split_ifs with fruitless
      · simp [fruitless]
      · have fruitful : least = 0 → between.position ≠ here.position :=
          fun zero same => fruitless ⟨zero, same⟩
        rw [and_iff_right fruitful]
        refine ih front.1 ?_
        have fewer := front.2
        -- a required round lowers what is required, any other takes a unit
        by_cases zero : least = 0
        · have less := front.left_lt inside (fruitful zero)
          omega
        · omega
    rw [exists_rounds_iff, ← again, rounds]
    split_ifs with exhausted required
    · simp [exhausted]
    · have more : least ≠ 0 := by omega
      simp [exhausted, more]
    · have free : least = 0 := by omega
      simp [exhausted, free, or_comm]
    · have free : least = 0 := by omega
      simp [exhausted, free]

/-- When the matchers of two parts miss no way, the one after the other misses none of the ways through both. -/
private theorem sequence_isSome_iff {tree later : Regex} (inside : here.position ≤ input.size)
    (front : ∀ {next}, (run input tree forward here next).isSome ↔
      ∃ between, Spans input tree forward here between ∧ (next between).isSome)
    (back : ∀ {between : Progress}, between.position ≤ input.size → ((run input later forward between next).isSome ↔
      ∃ last, Spans input later forward between last ∧ (next last).isSome)) :
    (run input tree forward here fun between => run input later forward between next).isSome ↔
      ∃ last, (∃ between, Spans input tree forward here between ∧ Spans input later forward between last) ∧
        (next last).isSome := by
  rw [front]
  constructor
  · rintro ⟨between, spans, found⟩
    obtain ⟨last, later, ends⟩ := (back (spans.advances inside).1).mp found
    exact ⟨last, ⟨between, spans, later⟩, ends⟩
  · rintro ⟨last, ⟨between, spans, later⟩, ends⟩
    exact ⟨between, spans, (back (spans.advances inside).1).mpr ⟨last, later, ends⟩⟩

private theorem left_le_size (inside : here.position ≤ input.size) : here.left input forward ≤ input.size := by
  rw [Progress.left]
  split_ifs
  · exact Nat.sub_le ..
  · exact inside

/-- The matcher succeeds exactly when the continuation does after one of the ways that there are. -/
theorem run_isSome_iff {tree : Regex} (inside : here.position ≤ input.size) :
    (run input tree forward here next).isSome ↔
      ∃ last, Spans input tree forward here last ∧ (next last).isSome := by
  induction tree generalizing forward here next with
  | empty => simp [run, Spans]
  | test condition =>
    rw [run, consume_eq_bind]
    simp [Spans, Option.isSome_bind, Option.any_eq_true]
  | sequence first second ih₁ ih₂ =>
    cases forward with
    | true =>
      simp only [run, Spans, if_true]
      exact sequence_isSome_iff inside (ih₁ inside) ih₂
    | false =>
      simp only [run, Spans, Bool.false_eq_true, if_false]
      exact sequence_isSome_iff inside (ih₂ inside) ih₁
  | either left right ih₁ ih₂ =>
    simp [run, Spans, ih₁ inside, ih₂ inside, or_and_right, exists_or]
  | capture index body ih =>
    rw [run, ih inside]
    simp only [Spans]
    constructor
    · rintro ⟨after, within, ends⟩
      exact ⟨_, ⟨after, within, rfl⟩, ends⟩
    · rintro ⟨_, ⟨after, within, rfl⟩, ends⟩
      exact ⟨after, within, ends⟩
  | iterate body least most greedy before count ih =>
    have advances {here last : Progress} (inside : here.position ≤ input.size)
        (spans : Spans input body forward here last) : Advances input forward here last :=
      spans.advances inside
    have complete {here : Progress} {next : Continuation} (inside : here.position ≤ input.size) :
        (run input body forward here next).isSome ↔
          ∃ last, Spans input body forward here last ∧ (next last).isSome :=
      ih inside
    refine rounds_isSome_iff greedy complete advances inside ?_
    have few : here.left input forward ≤ input.size := left_le_size inside
    omega
  | «recall» index =>
    rw [run, consumeCapture_eq_bind]
    simp [Spans, Option.isSome_bind, Option.any_eq_true]
  | look ahead negated body ih =>
    have found : (run input body ahead here some).isSome ↔ ∃ after, Spans input body ahead here after := by
      simpa using @ih ahead here some inside
    simp only [run, Spans]
    cases outcome : run input body ahead here some with
    | none =>
      rw [outcome] at found
      have never : ¬∃ after, Spans input body ahead here after := fun spans => by simpa using found.mpr spans
      cases negated with
      | true => simp [never]
      | false => simp
    | some after =>
      rw [outcome] at found
      have present : ∃ after, Spans input body ahead here after := found.mp rfl
      cases negated with
      | true => simp [present]
      | false => simp
  | textStart | textEnd | boundary =>
    rw [run, isSome_proceedIf]
    simp [Spans, and_assoc]

end

namespace Program

/-- Whether the expression describes a text: a match may begin where the text does and end where it ends. -/
def Describes (program : Program) (text : String) : Prop :=
  ∃ last, Spans (units text).toArray program.tree true (program.start 0) last ∧
    last.position = (units text).length

/-- The expression between the start and the end of the text. -/
def between (program : Program) : Program :=
  ⟨.sequence .textStart (.sequence program.tree .textEnd), program.captureCount⟩

/-- Between the start and the end of the text an expression matches the texts that it describes. -/
theorem matchesIn_between {program : Program} {text : String} :
    program.between.matchesIn text = true ↔ program.Describes text := by
  have spans (here last : Progress) : Spans (units text).toArray program.between.tree true here last ↔
      here.position = 0 ∧ Spans (units text).toArray program.tree true here last ∧
        last.position = (units text).length := by
    simp only [between, Spans, if_true, List.size_toArray]
    constructor
    · rintro ⟨_, ⟨start, rfl⟩, _, inside, ends, rfl⟩
      exact ⟨start, inside, ends⟩
    · rintro ⟨start, inside, ends⟩
      exact ⟨here, ⟨start, rfl⟩, last, inside, ends, rfl⟩
  rw [matchesIn, List.any_eq_true]
  constructor
  · rintro ⟨position, member, found⟩
    have inside : position ≤ (units text).toArray.size := Nat.lt_succ_iff.mp (List.mem_range.mp member)
    rw [matchesAt, run_isSome_iff inside] at found
    obtain ⟨last, whole, _⟩ := found
    obtain ⟨start, within, ends⟩ := (spans _ _).mp whole
    obtain rfl : position = 0 := start
    exact ⟨last, within, ends⟩
  · rintro ⟨last, within, ends⟩
    refine ⟨0, List.mem_range.mpr (Nat.succ_pos _), ?_⟩
    rw [matchesAt, run_isSome_iff (Nat.zero_le _)]
    exact ⟨last, (spans _ _).mpr ⟨rfl, within, ends⟩, rfl⟩

end Program

end HttpRouting.Regex

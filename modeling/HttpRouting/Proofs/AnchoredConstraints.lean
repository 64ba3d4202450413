import HttpRouting.Proofs.JoinedPatterns
import HttpRouting.Proofs.RegexFrames
import HttpRouting.Proofs.RegexReaders
import HttpRouting.Proofs.RegexSpans
import HttpRouting.Route.Path

/-! # Constraints between anchors

A constraint is compiled with an anchor on either side of a group around its source, and only the whole is read as
an expression. A source that is an expression by itself keeps its meaning there: the lead and the closing add
tokens of their own and change none of the source's (`parse?_anchored`), and what is between the anchors describes
the whole of a text (`Constraint.accepts_iff`).

The converse holds but for one way out: a source may close the group around it and open another one, and is
then compiled though it is no expression. `Constraint.exists_program_iff` says that there is no other way.
-/

namespace HttpRouting

open Text

namespace Regex

def Folding.start : Folding :=
  ⟨[], ⟨.group, 0, [], []⟩, 0⟩

section

variable {units : List CodeUnit} {program : Program}

/-- An expression is spelled when its tokens are read to the end, no two captures share a name, and the tokens can
be folded into a tree. -/
theorem parseUnits?_eq_some_iff :
    parseUnits? units = some program ↔ ∃ tokens, Reads (Outline.scan false {} units) units tokens [] ∧
      namesDistinct (captureNames tokens) = true ∧ program.captureCount = (captureNames tokens).length ∧
      ((tokens.foldlM (Folding.step (captureNames tokens)) .start).bind Folding.finish?) =
        some program.tree := by
  obtain ⟨tree, count⟩ := program
  rw [parseUnits?]
  constructor
  · intro spelled
    obtain ⟨tokens, read, spelled⟩ := Option.bind_eq_some_iff.mp spelled
    have reads := (tokens?_eq_some_iff (Nat.le_refl _)).mp read
    dsimp only at spelled
    split_ifs at spelled with distinct
    obtain ⟨built, folded, same⟩ := Option.bind_eq_some_iff.mp spelled
    cases same
    rw [build?_eq] at folded
    exact ⟨tokens, reads, distinct, rfl, folded⟩
  · rintro ⟨tokens, reads, distinct, rfl, folded⟩
    have built := (build?_eq (captureNames tokens) [] ⟨.group, 0, [], []⟩ 0 tokens).trans folded
    have read := (tokens?_eq_some_iff (Nat.le_refl _)).mpr reads
    simp [read, distinct, built]

end

/-- What is written before the source of a constraint: the start of the text and the beginning of a group. -/
def lead : List CodeUnit := [0x5E, 0x28, 0x3F, 0x3A]

private theorem units_anchored (source : String) : units (anchored source) = lead ++ (units source ++ closing) := by
  simp only [anchored, units, String.toList_append, List.flatMap_append, List.append_assoc]
  rfl

def leadTokens : List Token := [.textStart, .opening .group]

theorem Reads.lead {outline : Outline} {units rest : List CodeUnit} {tokens : List Token}
    (reads : Reads outline units tokens rest) : Reads outline (lead ++ units) (leadTokens ++ tokens) rest :=
  .next rfl (.next rfl reads)

/-- The tokens of a text that begins with the lead begin with those of the lead. -/
theorem Reads.of_lead {outline : Outline} {units : List CodeUnit} {tokens : List Token}
    (reads : Reads outline (Regex.lead ++ units) tokens []) :
    ∃ later, tokens = leadTokens ++ later ∧ Reads outline units later [] := by
  cases reads with
  | next first reads =>
    cases first
    cases reads with
    | next second reads =>
      cases second
      exact ⟨_, rfl, reads⟩

private theorem reads_closing {outline : Outline} : Reads outline closing [.closing, .textEnd] [] :=
  .next rfl (.next rfl .done)

/-- Whether a source closes a parenthesis that it does not open. -/
def Overcloses (source : String) : Prop :=
  ∃ tokens rest, Reads (Outline.scan false {} (units source)) (units source) tokens rest ∧
    openings tokens < closings tokens

/-- The frame that lies under a source between anchors: the start of the text has been read in it. -/
def anchorFrame : Frame :=
  ⟨.group, 0, [], [⟨.textStart, 0, false⟩]⟩

private theorem foldlM_leadTokens (names : List (Option String)) (tokens : List Token) :
    (leadTokens ++ tokens).foldlM (Folding.step names) .start =
      tokens.foldlM (Folding.step names) (Folding.start.under anchorFrame) := rfl

private theorem captureNames_append (front back : List Token) :
    captureNames (front ++ back) = captureNames front ++ captureNames back :=
  List.filterMap_append

private theorem captureNames_anchored (tokens : List Token) {last : Token} (unnamed : captureNames [last] = []) :
    captureNames (leadTokens ++ (tokens ++ [last, .textEnd])) = captureNames tokens := by
  have ends : captureNames [last, .textEnd] = [] := by
    rw [← List.singleton_append, captureNames_append, unnamed]
    rfl
  rw [captureNames_append, captureNames_append, ends, List.append_nil]
  rfl

private theorem add_anchored (tokens : List Token) {last : Token}
    (uncounted : ∀ outline : Outline, outline.add last = outline) :
    (leadTokens ++ (tokens ++ [last, .textEnd])).foldl Outline.add {} = tokens.foldl Outline.add {} := by
  rw [List.foldl_append, List.foldl_append]
  exact uncounted _

/-- A source that is an expression by itself is one between anchors. -/
theorem parse?_anchored {source : String} {program : Program} (spelled : parse? source = some program) :
    parse? (anchored source) = some program.between := by
  obtain ⟨tokens, reads, distinct, count, folded⟩ := parseUnits?_eq_some_iff.mp spelled
  obtain ⟨folding, folded, finished⟩ := Option.bind_eq_some_iff.mp folded
  rw [parse?, units_anchored]
  have whole : Reads (Outline.scan false {} (units source)) (lead ++ (units source ++ closing))
      (leadTokens ++ (tokens ++ [.closing, .textEnd])) [] :=
    (reads.enclosed.append reads_closing).lead
  have outline :
      Outline.scan false {} (lead ++ (units source ++ closing)) = Outline.scan false {} (units source) := by
    rw [whole.scan, reads.scan, add_anchored tokens fun _ => rfl]
  have names : captureNames (leadTokens ++ (tokens ++ [.closing, .textEnd])) = captureNames tokens :=
    captureNames_anchored tokens rfl
  refine parseUnits?_eq_some_iff.mpr ⟨_, outline ▸ whole, names ▸ distinct, count.trans (by rw [names]), ?_⟩
  rw [names, foldlM_leadTokens, List.foldlM_append, Folding.foldlM_under folded]
  have root : folding.root? = some .group := Folding.foldlM_root? folded
  obtain ⟨outer, ⟨kind, before, alternatives, factors⟩, captures⟩ := folding
  cases outer with
  | cons => cases finished
  | nil =>
    obtain rfl : kind = .group := Option.some.inj root
    have body : Frame.body ⟨.group, before, alternatives, factors⟩ = program.tree := Option.some.inj finished
    rw [Program.between, ← body]
    rfl

/-- A source that closes a parenthesis that it does not open is no expression. -/
theorem parse?_of_overcloses {source : String} (overcloses : Overcloses source) : parse? source = none := by
  cases spelled : parse? source with
  | none => rfl
  | some program =>
    obtain ⟨tokens, reads, distinct, count, folded⟩ := parseUnits?_eq_some_iff.mp spelled
    obtain ⟨folding, folded, finished⟩ := Option.bind_eq_some_iff.mp folded
    obtain ⟨front, rest, before, more⟩ := overcloses
    obtain ⟨back, rfl⟩ := before.prefix_of reads
    rw [List.foldlM_append] at folded
    obtain ⟨between, folded, _⟩ := Option.bind_eq_some_iff.mp folded
    have depth : between.outer.length + closings front = 0 + openings front := Folding.foldlM_outer folded
    omega

/-- Tokens of a source that closes no parenthesis but its own can be folded by themselves when they can be folded
between anchors. -/
theorem exists_folding {source : String} {names : List (Option String)} {tokens : List Token}
    {rest : List CodeUnit} (reads : Reads (Outline.scan false {} (units source)) (units source) tokens rest)
    (closed : ¬Overcloses source)
    (folded : tokens.foldlM (Folding.step names) (Folding.start.under anchorFrame) ≠ none) :
    ∃ folding, tokens.foldlM (Folding.step names) .start = some folding := by
  cases run : tokens.foldlM (Folding.step names) Folding.start with
  | some folding => exact ⟨folding, rfl⟩
  | none =>
    obtain ⟨front, back, between, rfl, before, empty⟩ := Folding.exists_closing_of_foldlM run folded
    rw [List.append_cons] at reads
    obtain ⟨left, within, _⟩ := reads.of_append
    have depth : between.outer.length + closings front = 0 + openings front := Folding.foldlM_outer before
    have opened : openings (front ++ [.closing]) = openings front := List.countP_append
    have more : closings (front ++ [.closing]) = closings front + 1 := List.countP_append
    rw [empty, List.length_nil] at depth
    exact (closed ⟨_, left, within, by omega⟩).elim

/-- A source that is an expression between anchors, and closes no parenthesis that it does not open, is one by
itself. -/
theorem exists_parse?_of_anchored {source : String} {program : Program}
    (spelled : parse? (anchored source) = some program) (closed : ¬Overcloses source) :
    ∃ inner, parse? source = some inner := by
  rw [parse?, units_anchored] at spelled
  obtain ⟨all, reads, distinct, _, folded⟩ := parseUnits?_eq_some_iff.mp spelled
  obtain ⟨behind, rfl, later⟩ := reads.of_lead
  obtain ⟨tokens, left, last, inner, rfl, ending⟩ := later.of_enclosed
  -- neither what is left of the source nor the last tokens count, so both texts have one outline
  have uncounted (outline : Outline) : outline.scan false left = outline ∧ outline.add last = outline := by
    obtain ⟨rfl, rfl⟩ | ⟨rfl, rfl⟩ := ending
    · exact ⟨rfl, rfl⟩
    · exact ⟨rfl, rfl⟩
  have unnamed : captureNames [last] = [] := by
    obtain ⟨_, rfl⟩ | ⟨_, rfl⟩ := ending
    · rfl
    · rfl
  have outline :
      Outline.scan false {} (lead ++ (units source ++ closing)) = Outline.scan false {} (units source) := by
    rw [reads.scan, inner.scan, add_anchored tokens fun outline => (uncounted outline).2, (uncounted _).1]
    rfl
  rw [outline] at inner
  rw [captureNames_anchored tokens unnamed] at distinct folded
  rw [foldlM_leadTokens, List.foldlM_append] at folded
  obtain ⟨ended, folded, finished⟩ := Option.bind_eq_some_iff.mp folded
  obtain ⟨between, folded, ends⟩ := Option.bind_eq_some_iff.mp folded
  obtain ⟨folding, alone⟩ := exists_folding inner closed (folded ▸ Option.some_ne_none _)
  obtain rfl : folding.under anchorFrame = between :=
    Option.some.inj ((Folding.foldlM_under alone).symm.trans folded)
  obtain ⟨outer, frame, captures⟩ := folding
  obtain ⟨rfl, rfl⟩ | ⟨rfl, rfl⟩ := ending
  · cases outer with
    | nil =>
      refine ⟨⟨frame.body, _⟩, parseUnits?_eq_some_iff.mpr ⟨tokens, inner, distinct, rfl, ?_⟩⟩
      rw [alone]
      rfl
    | cons enclosing outer =>
      cases ends
      simp [Folding.finish?, Folding.under, Folding.add] at finished
  · -- the parenthesis of the closing is escaped, so the group of the frame is still open
    cases ends
    simp [Folding.finish?, Folding.under, Folding.add] at finished

end Regex

/-- A constraint whose source closes no parenthesis that it does not open has a program for the source alone, and
accepts the texts that it describes. -/
theorem Constraint.accepts_iff (constraint : Constraint) {program : Regex.Program}
    (spelled : Regex.parse? constraint.source = some program) (value : String) :
    constraint.accepts value = true ↔ program.Describes value := by
  have same : some constraint.program = some program.between :=
    constraint.compiled.symm.trans (Regex.parse?_anchored spelled)
  rw [accepts, Option.some.inj same]
  exact Regex.Program.matchesIn_between

/-- A constraint's source is an expression by itself unless it closes a parenthesis that it does not open. -/
theorem Constraint.exists_program_iff (constraint : Constraint) :
    (∃ program, Regex.parse? constraint.source = some program) ↔ ¬Regex.Overcloses constraint.source := by
  constructor
  · rintro ⟨program, spelled⟩ overcloses
    rw [Regex.parse?_of_overcloses overcloses] at spelled
    cases spelled
  · exact Regex.exists_parse?_of_anchored constraint.compiled

/-- Whether a piece of a pattern's text spells a constraint with the given source, with or without a name. -/
def SpellsConstraint (piece source : String) : Prop :=
  piece = "<" ++ source ++ ">" ∨ ∃ name, '<' ∉ name.toList ∧ piece = ":" ++ name ++ ("<" ++ source ++ ">")

private theorem source_of_readConstraint_spelled {source : String} {constraint : Constraint}
    (made : readConstraint ("<" ++ source ++ ">") = .ok constraint) : constraint.source = source := by
  have inner : String.ofList ((("<" ++ source ++ ">").toList.drop 1).dropLast) = source := by
    simp
  rw [readConstraint] at made
  split_ifs at made
  split at made
  · rename_i found given
    cases made
    rw [Constraint.ofSource?] at given
    split at given
    · cases given
      exact inner
    · cases given
  · cases made

theorem Segment.constrained_of_read {piece source : String} {segment : Segment}
    (spelled : SpellsConstraint piece source) (made : Segment.read piece = .ok segment) :
    ∃ name constraint, segment = .constrained name constraint ∧ constraint.source = source := by
  obtain rfl | ⟨name, plain, rfl⟩ := spelled
  · have written : ("<" ++ source ++ ">").toList = '<' :: (source ++ ">").toList := by simp
    simp only [read, written] at made
    obtain ⟨constraint, read, same⟩ := bind_eq_ok.mp made
    cases pure_eq_ok.mp same
    exact ⟨none, constraint, rfl, source_of_readConstraint_spelled read⟩
  · have written : (":" ++ name ++ ("<" ++ source ++ ">")).toList =
        ':' :: (name.toList ++ ("<" ++ source ++ ">").toList) := by
      simp
    have angle : ("<" ++ source ++ ">").toList = '<' :: (source ++ ">").toList := by simp
    have behind : (name.toList ++ ("<" ++ source ++ ">").toList).dropWhile (· ≠ '<') =
        '<' :: (source ++ ">").toList := by
      rw [List.dropWhile_append_of_pos, angle]
      · simp
      · intro char member
        simpa using ne_of_mem_of_not_mem member plain
    simp only [read, written] at made
    obtain ⟨name, _, made⟩ := bind_eq_ok.mp made
    rw [behind] at made
    obtain ⟨constraint, read, same⟩ := bind_eq_ok.mp made
    cases pure_eq_ok.mp same
    rw [← angle, String.ofList_toList] at read
    exact ⟨name, constraint, rfl, source_of_readConstraint_spelled read⟩

namespace Pattern

private theorem pattern_of_compile_eq_error {text : String} {error : PatternError}
    (failed : compile text = .error error) : error.pattern = text := by
  rw [compile] at failed
  split_ifs at failed
  · cases failed
    rfl
  · split at failed
    · cases failed
      rfl
    · rw [ofSegments] at failed
      split at failed
      · cases failed
        rfl
      · cases failed

/-- Piece by piece, a constraint in a text that is compiled has for its source an expression by itself, unless the
source closes a parenthesis that it does not open, and its segment then matches a raw segment exactly when that
expression describes the decoded segment. A text with a source that is no expression, and closes only what it
opens, is not compiled. -/
theorem compile_anchors (text : String) :
    (∀ pattern, compile text = .ok pattern →
      List.Forall₂ (fun piece segment => ∀ source, SpellsConstraint piece source →
          ((∃ program, Regex.parse? source = some program) ↔ ¬Regex.Overcloses source) ∧
          ∀ program, Regex.parse? source = some program → ∀ ignoreCase raw,
            ((segment.matches? ignoreCase raw).isSome ↔ program.Describes (decodeSegment raw)))
        (pieces '/' text) pattern.segments) ∧
    ∀ piece ∈ pieces '/' text, ∀ source, SpellsConstraint piece source → Regex.parse? source = none →
      ¬Regex.Overcloses source → ∃ cause, compile text = .error ⟨text, cause⟩ := by
  constructor
  · intro pattern compiled
    obtain ⟨_, _, reads⟩ := compile_eq_ok.mp compiled
    refine reads.imp fun piece segment made source spelled => ?_
    obtain ⟨name, constraint, rfl, rfl⟩ := Segment.constrained_of_read spelled made
    refine ⟨constraint.exists_program_iff, fun program spells ignoreCase raw => ?_⟩
    rw [← constraint.accepts_iff spells, Segment.matches?]
    split_ifs with accepted
    · simp [accepted]
    · simp [accepted]
  · intro piece member source spelled unread closed
    cases outcome : compile text with
    | error error =>
      have same := pattern_of_compile_eq_error outcome
      exact ⟨error.cause, by rw [← same]⟩
    | ok pattern =>
      obtain ⟨_, _, reads⟩ := compile_eq_ok.mp outcome
      obtain ⟨segment, _, made⟩ := exists_of_mem_left reads member
      obtain ⟨name, constraint, rfl, rfl⟩ := Segment.constrained_of_read spelled made
      obtain ⟨program, spells⟩ := constraint.exists_program_iff.mpr closed
      rw [unread] at spells
      cases spells

/-- The anchors hold both alternatives of a source, and a source that leaves a parenthesis open is refused. -/
theorem compile_anchors_item : (∃ pattern program, compile "/item/:id<\\d+|x>" = .ok pattern ∧
      Regex.parse? "\\d+|x" = some program ∧ ¬Regex.Overcloses "\\d+|x" ∧
      program.Describes "42" ∧ ¬program.Describes "4x") ∧
    ∃ cause, compile "/item/<(>" = .error ⟨"/item/<(>", cause⟩ := by
  constructor
  · have known : ∃ pattern ∈ (compile "/item/:id<\\d+|x>").toOption, ∃ segment ∈ pattern.segments[1]?,
        (segment.matches? false "%34%32").isSome ∧ (segment.matches? false "4x").isSome = false ∧
        (Regex.parse? "\\d+|x").isSome ∧ decodeSegment "%34%32" = "42" ∧ decodeSegment "4x" = "4x" := by
      decide +kernel
    obtain ⟨pattern, compiled, segment, second, accepted, rejected, spelled, value, value'⟩ := known
    obtain ⟨program, spelled⟩ := Option.isSome_iff_exists.mp spelled
    have compiled := toOption_eq_some.mp compiled
    have place : (pieces '/' "/item/:id<\\d+|x>")[1]? = some ":id<\\d+|x>" := by decide
    obtain ⟨_, found, holds⟩ := exists_getElem?_of_forall₂ ((compile_anchors _).1 pattern compiled) place
    cases second.symm.trans found
    obtain ⟨closed, describes⟩ := holds "\\d+|x" (.inr ⟨"id", by decide, by decide⟩)
    refine ⟨pattern, program, compiled, spelled, closed.mp ⟨program, spelled⟩, ?_, ?_⟩
    · rw [← value]
      exact (describes program spelled false _).mp accepted
    · rw [← value', ← describes program spelled false, rejected]
      exact Bool.false_ne_true
  · have member : "<(>" ∈ pieces '/' "/item/<(>" := by decide
    refine (compile_anchors _).2 _ member "(" (.inl (by decide)) (by decide +kernel) ?_
    have written : units "(" = [0x28] := by decide
    rintro ⟨tokens, rest, reads, more⟩
    rw [written] at reads
    have unclosed : Regex.closings tokens = 0 := by
      cases reads with
      | done => rfl
      | next first later =>
        cases first
        cases later with
        | done => rfl
        | next first => cases first
    omega

/-- A source that closes the group around it is compiled though it is no expression, and does not hold the end of
the text. -/
theorem compile_of_overclosing : ∃ pattern, compile "/<a)|(?:b>" = .ok pattern ∧
    Regex.parse? "a)|(?:b" = none ∧ pattern.captures? false ["axyz"] = some ["axyz"] := by
  have known : ∃ pattern ∈ (compile "/<a)|(?:b>").toOption,
      Regex.parse? "a)|(?:b" = none ∧ pattern.captures? false ["axyz"] = some ["axyz"] := by
    decide +kernel
  obtain ⟨pattern, compiled, facts⟩ := known
  exact ⟨pattern, toOption_eq_some.mp compiled, facts⟩

end Pattern

end HttpRouting

import HttpRouting.Proofs.RegexSkips
import HttpRouting.Regex.Parser

/-! # Reading and scanning in step

Before an expression is read, its text is scanned once for captures. The scan knows little about what is
written: it passes over escaped units, tells whether it is between brackets, and counts parentheses. It
comes to what the tokens say all the same (`Reads.scan`): every token takes only units that the scan passes
over, the parenthesis of a capture apart, which both count.
-/

namespace HttpRouting.Regex

open Text

/-- The outline with what a token adds to it: only a capture counts. -/
def Outline.add (outline : Outline) : Token → Outline
  | .opening (.capture none) => { outline with captureCount := outline.captureCount + 1 }
  | .opening (.capture (some _)) => ⟨outline.captureCount + 1, true⟩
  | _ => outline

/-- Whether reading a token takes something and scanning what it takes adds the token to the outline. -/
structure Token.Scanned (token : Token) (units rest : List CodeUnit) : Prop where
  shorter : rest.length < units.length
  scan (outline : Outline) : outline.scan false units = (outline.add token).scan false rest

section

variable {outline : Outline} {units rest : List CodeUnit} {token : Token}

theorem Token.Scanned.of_skips (counts : ∀ outline : Outline, outline.add token = outline)
    (shorter : rest.length < units.length) (skips : Skips false units rest) : token.Scanned units rest :=
  ⟨shorter, fun outline => by rw [skips.scan, counts]⟩

private theorem scanned_quantified (least : Nat) (most : Option Nat) {first : CodeUnit} (plain : Plain false first)
    (skips : Skips false units rest) :
    (quantified least most rest).1.Scanned (first :: units) (quantified least most rest).2 := by
  have all : Skips false units (quantified least most rest).2 := skips.trans (skips_greed rest)
  exact .of_skips (fun _ => rfl) (Nat.lt_succ_of_le all.length_le) ((Skips.cons plain units).trans all)

private theorem scanned_escapeToken? (read : escapeToken? outline units = some (token, rest)) :
    token.Scanned (backslash :: units) rest := by
  rcases units with _ | ⟨letter, units⟩
  · cases read
  have escaped {left : List CodeUnit} {token : Token} (counts : ∀ outline : Outline, outline.add token = outline)
      (later : Skips false units left) : token.Scanned (backslash :: letter :: units) left := by
    refine .of_skips counts ?_ ((Skips.escape letter units).trans later)
    exact Nat.lt_of_le_of_lt later.length_le (Nat.lt_succ_of_lt (Nat.lt_succ_self _))
  have plain (same : some (Token.test (.exactly (unitEscape letter units).1), (unitEscape letter units).2) =
      some (token, rest)) : token.Scanned (backslash :: letter :: units) rest := by
    cases same
    exact escaped (fun _ => rfl) (skips_unitEscape letter units)
  rw [escapeToken?.eq_def] at read
  dsimp only at read
  split at read
  · cases read
    exact escaped (fun _ => rfl) (.refl _)
  split at read
  · cases read
    exact escaped (fun _ => rfl) (.refl _)
  · cases read
    exact escaped (fun _ => rfl) (.refl _)
  · rename_i control
    have bare : (literal backslash).Scanned (backslash :: letter :: units) (letter :: units) :=
      .of_skips (fun _ => rfl) (Nat.lt_succ_self _) (.bare (plain_of_symbol control (by decide)) _)
    split at read
    · split_ifs at read with word
      · cases read
        exact escaped (fun _ => rfl) (.cons (.of_holds isLetter rfl word) _)
      · cases read
        exact bare
    · cases read
      exact bare
  · split_ifs at read
    · split at read
      · rename_i angle
        obtain ⟨⟨name, left⟩, named, same⟩ := Option.bind_eq_some_iff.mp read
        cases same
        have skips : Skips false units (units.drop 1) := .of_signs ['<'] (by decide) angle
        exact escaped (fun _ => rfl) (skips.trans (skips_captureName? named).1)
      · cases read
    · cases read
      exact escaped (fun _ => rfl) (.refl _)
  · split_ifs at read with digit
    · split at read
      · rename_i index more decimal
        split_ifs at read
        · cases read
          have digit : UnitSet.isDigit letter = true := (Bool.and_eq_true_iff.mp digit).1
          rw [decimal?] at decimal
          split_ifs at decimal
          obtain rfl : (letter :: units).dropWhile UnitSet.isDigit = rest :=
            (Prod.mk.inj (Option.some.inj decimal)).2
          rw [List.dropWhile_cons_of_pos digit]
          exact escaped (fun _ => rfl) (.dropWhile fun unit digit => .of_holds _ rfl digit)
        · exact plain read
      · exact plain read
    · exact plain read

/-- The outline with what a scan makes of a parenthesis and the signs behind it. -/
def Outline.addOpening (outline : Outline) : List Char → Outline
  | ['?', '<', third] => if third = '=' ∨ third = '!' then outline else ⟨outline.captureCount + 1, true⟩
  | '?' :: _ => outline
  | _ => { outline with captureCount := outline.captureCount + 1 }

theorem Outline.scan_parenthesis (outline : Outline) {first : CodeUnit} (parenthesis : symbol first = '(')
    (units : List CodeUnit) :
    outline.scan false (first :: units) =
      (outline.addOpening ((units.take 3).map symbol)).scan false units := by
  rw [Outline.scan.eq_def]
  simp only [parenthesis, Bool.false_eq_true, if_false]
  generalize (units.take 3).map symbol = signs
  split
  · rw [addOpening]
    split_ifs <;> rfl
  · rename_i noName
    rw [addOpening]
    exact noName
  · rename_i noName noMark
    rw [addOpening]
    · exact noName
    · exact noMark

private theorem scanned_openingToken? {first : CodeUnit} (parenthesis : symbol first = '(')
    (read : openingToken? units = some (token, rest)) : token.Scanned (first :: units) rest := by
  -- an opening with these signs behind the parenthesis is no capture
  have opens {opening : Opening} (signs : List Char) (plain : signs ∩ marks = []) {tail : List Char}
      (seen : (units.take 3).map symbol = signs ++ tail)
      (uncounted : ∀ outline : Outline, outline.addOpening (signs ++ tail) = outline)
      (counts : ∀ outline : Outline, outline.add (.opening opening) = outline) :
      (Token.opening opening).Scanned (first :: units) (units.drop signs.length) := by
    have skips : Skips false units (units.drop signs.length) := .of_signs signs plain seen
    refine ⟨Nat.lt_succ_of_le skips.length_le, fun outline => ?_⟩
    rw [outline.scan_parenthesis parenthesis, seen, uncounted, skips.scan, counts]
  rw [openingToken?] at read
  split at read
  · rename_i signs
    cases read
    exact opens ['?', ':'] (by decide) signs (fun _ => rfl) fun _ => rfl
  · rename_i signs
    cases read
    exact opens ['?', '='] (by decide) signs (fun _ => rfl) fun _ => rfl
  · rename_i signs
    cases read
    exact opens ['?', '!'] (by decide) signs (fun _ => rfl) fun _ => rfl
  · rename_i signs
    cases read
    exact opens ['?', '<', '='] (by decide) signs (fun _ => rfl) fun _ => rfl
  · rename_i signs
    cases read
    exact opens ['?', '<', '!'] (by decide) signs (fun _ => rfl) fun _ => rfl
  · rename_i tail noEquals noMark signs
    obtain ⟨⟨name, left⟩, named, same⟩ := Option.bind_eq_some_iff.mp read
    cases same
    have skips : Skips false units (units.drop 2) := .of_signs ['?', '<'] (by decide) signs
    have name : Skips false (units.drop 2) rest ∧ rest.length < (units.drop 2).length := skips_captureName? named
    have all := skips.trans name.1
    refine ⟨Nat.lt_succ_of_le all.length_le, fun outline => ?_⟩
    -- the name is not empty, so the scan sees its first unit too
    have seen : ((units.drop 2).take 1).map symbol = tail := by
      have cut := congrArg (List.drop 2) signs
      rwa [← List.map_drop, List.drop_take] at cut
    rcases behind : units.drop 2 with _ | ⟨third, more⟩
    · rw [behind] at name
      exact (Nat.not_lt_zero _ name.2).elim
    rw [behind] at seen
    obtain rfl : [symbol third] = tail := seen
    have noLook : ¬(symbol third = '=' ∨ symbol third = '!') := by
      rintro (equals | mark)
      · exact noEquals (congrArg (fun sign => [sign]) equals)
      · exact noMark (congrArg (fun sign => [sign]) mark)
    rw [outline.scan_parenthesis parenthesis, signs]
    simp only [Outline.addOpening, noLook, if_false]
    exact all.scan _
  · cases read
  · rename_i noMark
    cases read
    refine ⟨Nat.lt_succ_self _, fun outline => ?_⟩
    rw [outline.scan_parenthesis parenthesis, Outline.addOpening]
    · rfl
    · exact fun third => noMark ['<', third]
    · exact noMark

/-- Whether a class is negated, and where its items begin. -/
def classStart (units : List CodeUnit) : Bool × List CodeUnit :=
  match (units.take 1).map symbol with
  | ['^'] => (true, units.drop 1)
  | _ => (false, units)

private theorem skips_classStart (units : List CodeUnit) : Skips true units (classStart units).2 := by
  rw [classStart]
  split
  · rename_i caret
    exact .of_signs ['^'] (by decide) caret
  · exact .refl _

private theorem scanned_token? (read : token? outline units = some (token, rest)) : token.Scanned units rest := by
  rcases units with _ | ⟨first, units⟩
  · cases read
  have literal (same : some (literal first, units) = some (token, rest)) (plain : Plain false first) :
      token.Scanned (first :: units) rest := by
    cases same
    exact .of_skips (fun _ => rfl) (Nat.lt_succ_self _) (.cons plain _)
  rw [token?] at read
  split at read
  iterate 5
    · rename_i sign
      cases read
      exact .of_skips (fun _ => rfl) (Nat.lt_succ_self _) (.cons (plain_of_symbol sign (by decide)) _)
  · rename_i sign
    exact scanned_openingToken? sign read
  iterate 3
    · rename_i sign
      cases read
      exact scanned_quantified _ _ (plain_of_symbol sign (by decide)) (.refl _)
  · rename_i sign
    have plain : Plain false first := plain_of_symbol sign (by decide)
    split at read
    · rename_i interval
      split_ifs at read
      cases read
      exact scanned_quantified _ _ plain (skips_interval? interval)
    · exact literal read plain
  · rename_i sign
    obtain ⟨⟨items, left⟩, closed, same⟩ := Option.bind_eq_some_iff.mp read
    cases same
    have all : Skips true units (0x5D :: rest) := (skips_classStart units).trans (skips_classItems? closed)
    refine ⟨Nat.lt_succ_of_lt all.length_le, fun outline => ?_⟩
    rw [Outline.scan.eq_def]
    simp only [sign]
    exact all.scan outline
  · rename_i sign
    obtain rfl : first = backslash := eq_backslash_of_symbol sign
    exact scanned_escapeToken? read
  · refine literal read ⟨?_, fun outside => Bool.noConfusion outside, fun _ => ⟨?_, ?_⟩⟩
    · assumption
    · assumption
    · assumption

end

/-- Whether the tokens are read from some units one after another and leave the rest. -/
inductive Reads (outline : Outline) : List CodeUnit → List Token → List CodeUnit → Prop
  | done {units : List CodeUnit} : Reads outline units [] units
  | next {units between rest : List CodeUnit} {token : Token} {tokens : List Token}
    (first : token? outline units = some (token, between)) (later : Reads outline between tokens rest) :
    Reads outline units (token :: tokens) rest

section

variable {outline : Outline} {units rest : List CodeUnit} {tokens : List Token}

/-- Scanning comes to what the tokens add to the outline. -/
theorem Reads.scan (reads : Reads outline units tokens rest) (scanned : Outline) :
    scanned.scan false units = (tokens.foldl Outline.add scanned).scan false rest := by
  induction reads generalizing scanned with
  | done => rfl
  | next first _ ih => rw [(scanned_token? first).scan, ih, List.foldl_cons]

/-- A prefix of the tokens is read before the others. -/
theorem Reads.of_append {front back : List Token} (reads : Reads outline units (front ++ back) rest) :
    ∃ between, Reads outline units front between ∧ Reads outline between back rest := by
  induction front generalizing units with
  | nil => exact ⟨units, .done, reads⟩
  | cons token front ih =>
    cases reads with
    | next first later =>
      obtain ⟨between, reads, others⟩ := ih later
      exact ⟨between, .next first reads, others⟩

theorem Reads.append {between : List CodeUnit} {front back : List Token}
    (reads : Reads outline units front between) (later : Reads outline between back rest) :
    Reads outline units (front ++ back) rest := by
  induction reads with
  | done => exact later
  | next first _ ih => exact .next first (ih later)

/-- What is read of units first is the beginning of all that is read of them. -/
theorem Reads.prefix_of {between : List CodeUnit} {front : List Token} (before : Reads outline units front between)
    (reads : Reads outline units tokens []) : ∃ back, tokens = front ++ back := by
  induction before generalizing tokens with
  | done => exact ⟨tokens, rfl⟩
  | next first _ ih =>
    cases reads with
    | done => cases first
    | next first' later =>
      cases first.symm.trans first'
      obtain ⟨back, same⟩ := ih later
      exact ⟨back, congrArg _ same⟩

private theorem tokens?_nil_eq_some_iff (fuel : Nat) :
    tokens? outline fuel [] = some tokens ↔ Reads outline [] tokens [] := by
  rw [tokens?]
  constructor
  · intro same
    cases same
    exact .done
  · intro reads
    cases reads with
    | done => rfl
    | next first => cases first

/-- With fuel for every unit, all tokens are found when they can be read to the end. -/
theorem tokens?_eq_some_iff {fuel : Nat} (enough : units.length ≤ fuel) :
    tokens? outline fuel units = some tokens ↔ Reads outline units tokens [] := by
  induction fuel generalizing units tokens with
  | zero =>
    obtain rfl := List.eq_nil_of_length_eq_zero (Nat.le_zero.mp enough)
    exact tokens?_nil_eq_some_iff 0
  | succ fuel ih =>
    rcases units with _ | ⟨unit, units⟩
    · exact tokens?_nil_eq_some_iff (fuel + 1)
    have later {token : Token} {between : List CodeUnit} {tokens : List Token}
        (first : token? outline (unit :: units) = some (token, between)) :
        tokens? outline fuel between = some tokens ↔ Reads outline between tokens [] := by
      have shorter := (scanned_token? first).shorter
      exact ih (by omega)
    rw [tokens?.eq_def]
    dsimp only
    constructor
    · intro read
      obtain ⟨⟨token, between⟩, first, read⟩ := Option.bind_eq_some_iff.mp read
      obtain ⟨others, found, same⟩ := Option.bind_eq_some_iff.mp read
      cases same
      exact .next first ((later first).mp found)
    · intro reads
      cases reads with
      | next first others =>
        have found := (later first).mpr others
        simp [first, found]

end

end HttpRouting.Regex

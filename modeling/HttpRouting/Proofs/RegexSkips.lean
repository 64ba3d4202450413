import HttpRouting.Proofs.LetterCase
import HttpRouting.Regex.Token
import Mathlib.Data.List.TakeWhile
import Mathlib.Tactic.SplitIfs

/-! # What a scan passes over

An expression's text is scanned for captures before it is read. The scan stops at four signs only: at a backslash,
behind which it skips a unit, at the brackets of a class, and at an opening parenthesis outside of one. All other
units are plain to it. What follows a backslash in an escape, the digits of an interval, the characters of a name
and the items of a class are read by readers of their own, and each of them takes just such units as the scan
passes over: escaped ones and plain ones.
-/

namespace HttpRouting.Regex

open Text

/-- Whether a scan, between brackets or not, passes over a unit by itself. -/
def Plain (inside : Bool) (unit : CodeUnit) : Prop :=
  symbol unit ≠ '\\' ∧ (inside = true → symbol unit ≠ ']') ∧
    (inside = false → symbol unit ≠ '[' ∧ symbol unit ≠ '(')

/-- The signs that a scan does not always pass over. -/
def marks : List Char := ['\\', '[', ']', '(']

/-- The units of these signs. -/
def markUnits : List CodeUnit := [0x5C, 0x5B, 0x5D, 0x28]

theorem unit_of_symbol {unit mark : CodeUnit} (positive : 0 < (symbol mark).toNat)
    (code : (symbol mark).toNat = mark.toNat) (same : symbol unit = symbol mark) : unit = mark := by
  have equal : unit.toNat = (symbol mark).toNat := code_of_ofNat positive same
  exact UInt16.toNat_inj.mp (equal.trans code)

theorem eq_backslash_of_symbol {unit : CodeUnit} (same : symbol unit = '\\') : unit = backslash :=
  unit_of_symbol (by decide) (by decide) same

theorem eq_bracket_of_symbol {unit : CodeUnit} (same : symbol unit = ']') : unit = 0x5D :=
  unit_of_symbol (by decide) (by decide) same

private theorem mem_markUnits {unit : CodeUnit} (mark : symbol unit ∈ marks) : unit ∈ markUnits := by
  have codes : unit = 0x5C ∨ unit = 0x5B ∨ unit = 0x5D ∨ unit = 0x28 := by
    simp only [marks, List.mem_cons, List.not_mem_nil, or_false] at mark
    rcases mark with backslash | opening | closing | parenthesis
    · exact .inl (eq_backslash_of_symbol backslash)
    · exact .inr (.inl (unit_of_symbol (by decide) (by decide) opening))
    · exact .inr (.inr (.inl (eq_bracket_of_symbol closing)))
    · exact .inr (.inr (.inr (unit_of_symbol (by decide) (by decide) parenthesis)))
  simpa [markUnits] using codes

theorem Plain.of_not_mem {inside : Bool} {unit : CodeUnit} (apart : symbol unit ∉ marks) : Plain inside unit := by
  simp only [marks, List.mem_cons, List.not_mem_nil, or_false, not_or] at apart
  obtain ⟨backslash, opening, closing, parenthesis⟩ := apart
  exact ⟨backslash, fun _ => closing, fun _ => ⟨opening, parenthesis⟩⟩

/-- A unit with a property that none of the four signs has is plain. -/
theorem Plain.of_holds (holds : CodeUnit → Bool) (fails : markUnits.any holds = false) {inside : Bool}
    {unit : CodeUnit} (here : holds unit = true) : Plain inside unit := by
  refine .of_not_mem fun mark => ?_
  have wrong := List.any_eq_false.mp fails unit (mem_markUnits mark)
  exact wrong here

private theorem plain_of_digitValue? {base value : Nat} {inside : Bool} {unit : CodeUnit}
    (digit : digitValue? base unit = some value) : Plain inside unit := by
  refine .of_holds (fun unit => (digitValue? base unit).isSome) rfl ?_
  rw [digit]
  rfl

theorem plain_of_symbol {inside : Bool} {unit : CodeUnit} {char : Char} (same : symbol unit = char)
    (apart : char ∉ marks) : Plain inside unit :=
  .of_not_mem (same ▸ apart)

/-- Whether the scan passes from some units to the rest of them. -/
structure Skips (inside : Bool) (units rest : List CodeUnit) : Prop where
  suffix : rest <:+ units
  scan (outline : Outline) : outline.scan inside units = outline.scan inside rest

namespace Skips

variable {inside : Bool} {unit : CodeUnit} {units rest more : List CodeUnit}

theorem refl (units : List CodeUnit) : Skips inside units units :=
  ⟨List.suffix_rfl, fun _ => rfl⟩

theorem trans (front : Skips inside units rest) (back : Skips inside rest more) : Skips inside units more :=
  ⟨back.suffix.trans front.suffix, fun outline => (front.scan outline).trans (back.scan outline)⟩

theorem cons (plain : Plain inside unit) (rest : List CodeUnit) : Skips inside (unit :: rest) rest := by
  refine ⟨List.suffix_cons .., fun outline => ?_⟩
  obtain ⟨noEscape, within, without⟩ := plain
  rw [Outline.scan.eq_def]
  dsimp only
  split
  · rename_i mark
    exact (noEscape mark).elim
  · rename_i mark
    cases inside with
    | true => rfl
    | false => exact ((without rfl).1 mark).elim
  · rename_i mark
    cases inside with
    | true => exact (within rfl mark).elim
    | false => rfl
  · rename_i mark
    cases inside with
    | true => rfl
    | false => exact ((without rfl).2 mark).elim
  · rfl

theorem escape (unit : CodeUnit) (rest : List CodeUnit) : Skips inside (backslash :: unit :: rest) rest := by
  refine ⟨⟨[backslash, unit], rfl⟩, fun outline => ?_⟩
  rw [Outline.scan.eq_def]
  rfl

/-- A backslash that stands for itself may be left out before a plain unit. -/
theorem bare (plain : Plain inside unit) (rest : List CodeUnit) :
    Skips inside (backslash :: unit :: rest) (unit :: rest) := by
  refine ⟨List.suffix_cons .., fun outline => ?_⟩
  exact ((escape unit rest).scan outline).trans ((cons plain rest).scan outline).symm

private theorem escape_of_symbol {char : Char} (written : (units.take 2).map symbol = ['\\', char]) :
    Skips inside units (units.drop 2) := by
  rcases units with _ | ⟨first, _ | ⟨second, units⟩⟩
  · cases written
  · simp at written
  · obtain rfl : first = backslash := eq_backslash_of_symbol (List.cons.inj written).1
    exact escape second units

theorem append (plain : ∀ unit ∈ units, Plain inside unit) (rest : List CodeUnit) :
    Skips inside (units ++ rest) rest := by
  induction units with
  | nil => exact .refl _
  | cons unit units ih =>
    obtain ⟨here, later⟩ := List.forall_mem_cons.mp plain
    exact (cons here _).trans (ih later)

theorem drop {count : Nat} (plain : ∀ unit ∈ units.take count, Plain inside unit) :
    Skips inside units (units.drop count) := by
  have skips := append plain (units.drop count)
  rwa [List.take_append_drop] at skips

theorem dropWhile {holds : CodeUnit → Bool} (plain : ∀ unit, holds unit = true → Plain inside unit) :
    Skips inside units (units.dropWhile holds) := by
  have taken : ∀ unit ∈ units.takeWhile holds, Plain inside unit := fun unit member =>
    plain unit (List.mem_takeWhile_imp member)
  have skips := append taken (units.dropWhile holds)
  rwa [List.takeWhile_append_dropWhile] at skips

/-- Signs that are seen ahead, none of them one of the four, are passed over. -/
theorem of_signs (signs : List Char) (plain : signs ∩ marks = []) {count : Nat} {tail : List Char}
    (seen : (units.take count).map symbol = signs ++ tail) :
    Skips inside units (units.drop signs.length) := by
  have enough : signs.length ≤ count := by
    have lengths := congrArg List.length seen
    rw [List.length_map, List.length_take, List.length_append] at lengths
    omega
  have first : (units.take signs.length).map symbol = signs := by
    have cut := congrArg (List.take signs.length) seen
    rwa [List.take_left, ← List.map_take, List.take_take, Nat.min_eq_left enough] at cut
  refine drop fun unit member => ?_
  have here : symbol unit ∈ signs := first ▸ List.mem_map_of_mem member
  refine .of_not_mem fun mark => ?_
  have both : symbol unit ∈ signs ∩ marks := List.mem_inter_iff.mpr ⟨here, mark⟩
  simp [plain] at both

theorem length_le (skips : Skips inside units rest) : rest.length ≤ units.length :=
  skips.suffix.length_le

end Skips

section

variable {inside : Bool} {units rest : List CodeUnit}

/-- What is read of every item of a list is there for each. -/
theorem forall_of_mapM_eq_some {α β : Type} {read : α → Option β} {items : List α} {results : List β}
    (all : items.mapM read = some results) : ∀ item ∈ items, (read item).isSome := by
  induction items generalizing results with
  | nil => simp
  | cons first items ih =>
    rw [List.mapM_cons] at all
    obtain ⟨_, here, all⟩ := Option.bind_eq_some_iff.mp all
    obtain ⟨_, later, _⟩ := Option.bind_eq_some_iff.mp all
    exact List.forall_mem_cons.mpr ⟨here ▸ rfl, ih later⟩

theorem drop_length_takeWhile {holds : CodeUnit → Bool} (units : List CodeUnit) :
    units.drop (units.takeWhile holds).length = units.dropWhile holds := by
  have whole := @List.drop_left _ (units.takeWhile holds) (units.dropWhile holds)
  rwa [List.takeWhile_append_dropWhile] at whole

private theorem skips_hexDigits? {count value : Nat} (read : hexDigits? count units = some (value, rest)) :
    Skips inside units rest := by
  rw [hexDigits?] at read
  split_ifs at read
  obtain ⟨values, all, same⟩ := Option.bind_eq_some_iff.mp read
  cases same
  refine .drop fun unit member => ?_
  obtain ⟨value, digit⟩ := Option.isSome_iff_exists.mp (forall_of_mapM_eq_some all unit member)
  exact plain_of_digitValue? digit

private theorem skips_decimal? {value : Nat} (read : decimal? units = some (value, rest)) :
    Skips inside units rest := by
  rw [decimal?] at read
  split_ifs at read
  cases read
  exact .dropWhile fun unit digit => .of_holds _ rfl digit

private theorem skips_octal (first : Nat) (units : List CodeUnit) : Skips inside units (octal first units).2 := by
  rcases units with _ | ⟨second, rest⟩
  · exact .refl _
  rw [octal]
  cases digit : digitValue? 8 second with
  | none => exact .refl _
  | some value =>
    have here : Skips inside (second :: rest) rest := .cons (plain_of_digitValue? digit) _
    rcases rest with _ | ⟨third, more⟩
    · exact here
    dsimp only
    cases digit' : digitValue? 8 third with
    | none => exact here
    | some last =>
      dsimp only
      split_ifs
      · exact here.trans (.cons (plain_of_digitValue? digit') _)
      · exact here

theorem skips_unitEscape (letter : CodeUnit) (rest : List CodeUnit) :
    Skips inside rest (unitEscape letter rest).2 := by
  rw [unitEscape]
  split
  · cases read : hexDigits? 2 rest with
    | none => exact .refl _
    | some found => exact skips_hexDigits? read
  · cases read : hexDigits? 4 rest with
    | none => exact .refl _
    | some found => exact skips_hexDigits? read
  · cases namedControl? (symbol letter) with
    | some unit => exact .refl _
    | none =>
      dsimp only
      cases digitValue? 8 letter with
      | none => exact .refl _
      | some first => exact skips_octal first rest

private theorem skips_codePoint? {code : Nat} (fits : beginsName code = true ∨ continuesName code = true)
    (read : codePoint? units = some (code, rest)) : Skips inside units rest := by
  have single {unit : CodeUnit} (same : unit.toNat = code) : Plain inside unit := by
    refine .of_holds (fun unit => beginsName unit.toNat || continuesName unit.toNat) (by decide) ?_
    rw [same, Bool.or_eq_true]
    exact fits
  rcases units with _ | ⟨high, _ | ⟨low, more⟩⟩
  · cases read
  · cases read
    exact .cons (single rfl) _
  · rw [codePoint?] at read
    split_ifs at read with pair
    · obtain rfl : more = rest := (Prod.mk.inj (Option.some.inj read)).2
      obtain ⟨first, _, second, _⟩ := pair
      have first : Plain inside high :=
        .of_holds (fun unit => decide (0xD800 ≤ unit)) rfl (decide_eq_true first)
      have second : Plain inside low :=
        .of_holds (fun unit => decide (0xDC00 ≤ unit)) rfl (decide_eq_true second)
      exact (Skips.cons first _).trans (.cons second _)
    · cases read
      exact .cons (single rfl) _

private theorem skips_nameEscape? {code : Nat} (read : nameEscape? units = some (code, rest)) :
    Skips inside units rest := by
  rw [nameEscape?] at read
  split at read
  · rename_i brace
    have first : Skips inside units (units.drop 1) := .of_signs ['{'] (by decide) brace
    have digits : Skips inside (units.drop 1)
        ((units.drop 1).dropWhile fun unit => (digitValue? 16 unit).isSome) :=
      .dropWhile fun unit digit => .of_holds (fun unit => (digitValue? 16 unit).isSome) rfl digit
    simp only [← List.drop_drop, drop_length_takeWhile] at read
    refine first.trans (digits.trans ?_)
    split at read
    · rename_i brace _
      split_ifs at read
      cases read
      exact .of_signs ['}'] (by decide) brace
    · cases read
  · obtain ⟨⟨high, between⟩, digits, read⟩ := Option.bind_eq_some_iff.mp read
    refine (skips_hexDigits? digits).trans ?_
    dsimp only at read
    split_ifs at read
    · split at read
      · rename_i escape
        split at read
        · rename_i low more digits'
          split_ifs at read
          · obtain rfl : more = rest := (Prod.mk.inj (Option.some.inj read)).2
            exact (Skips.escape_of_symbol escape).trans (skips_hexDigits? digits')
          · cases read
            exact .refl _
        · cases read
          exact .refl _
      · cases read
        exact .refl _
    · cases read
      exact .refl _

/-- The code point of a name's next character, which may be written as an escape. -/
def nameCode? (units : List CodeUnit) : Option (Nat × List CodeUnit) :=
  if (units.take 2).map symbol = ['\\', 'u'] then nameEscape? (units.drop 2) else codePoint? units

/-- Whether a code point may come next in a name that has been read so far. -/
def fitsName (name : List Char) (code : Nat) : Bool :=
  if name = [] then beginsName code else continuesName code

theorem captureName?_end (fuel : Nat) (name : List Char) {first : CodeUnit} (ends : symbol first = '>')
    (units : List CodeUnit) :
    captureName? (fuel + 1) name (first :: units) =
      if name = [] then none else some (String.ofList name.reverse, units) := by
  rw [captureName?]
  simp only [List.take_succ_cons, List.map_cons, ends, List.drop_succ_cons, List.drop_zero]

theorem captureName?_more (fuel : Nat) (name : List Char) {first : CodeUnit} (goesOn : symbol first ≠ '>')
    (units : List CodeUnit) :
    captureName? (fuel + 1) name (first :: units) =
      (nameCode? (first :: units)).bind fun (code, rest) =>
        if fitsName name code then captureName? fuel (Char.ofNat code :: name) rest else none := by
  rw [captureName?, nameCode?]
  simp only [List.take_succ_cons, List.map_cons]
  split
  · rename_i nothing
    cases nothing
  · rename_i ends
    exact (goesOn (List.cons.inj ends).1).elim
  · simp only [fitsName]
    split_ifs <;> rfl

private theorem skips_nameCode? {name : List Char} {code : Nat} (read : nameCode? units = some (code, rest))
    (fits : fitsName name code = true) : Skips inside units rest := by
  rw [nameCode?] at read
  split_ifs at read with escape
  · exact (Skips.escape_of_symbol escape).trans (skips_nameEscape? read)
  · refine skips_codePoint? ?_ read
    rw [fitsName] at fits
    split_ifs at fits
    · exact .inl fits
    · exact .inr fits

theorem length_of_nameCode? {first : CodeUnit} {code : Nat}
    (read : nameCode? (first :: units) = some (code, rest)) : rest.length ≤ units.length := by
  rw [nameCode?] at read
  split_ifs at read
  · have escape : Skips false ((first :: units).drop 2) rest := skips_nameEscape? read
    have shorter := escape.length_le
    rw [List.drop_succ_cons, List.length_drop] at shorter
    omega
  · rcases units with _ | ⟨low, more⟩
    · cases read
      exact Nat.le_refl _
    · rw [codePoint?] at read
      split_ifs at read
      · obtain rfl : more = rest := (Prod.mk.inj (Option.some.inj read)).2
        exact Nat.le_succ _
      · cases read
        exact Nat.le_refl _

theorem skips_captureName? {fuel : Nat} {name : List Char} {found : String}
    (read : captureName? fuel name units = some (found, rest)) :
    Skips inside units rest ∧ rest.length < units.length := by
  induction fuel generalizing name units with
  | zero => cases read
  | succ fuel ih =>
    rcases units with _ | ⟨first, units⟩
    · cases read
    by_cases ends : symbol first = '>'
    · rw [captureName?_end fuel name ends] at read
      split_ifs at read
      cases read
      exact ⟨.cons (plain_of_symbol ends (by decide)) _, Nat.lt_succ_self _⟩
    · rw [captureName?_more fuel name ends] at read
      obtain ⟨⟨code, between⟩, here, read⟩ := Option.bind_eq_some_iff.mp read
      dsimp only at read
      split_ifs at read with fits
      obtain ⟨later, shorter⟩ := ih read
      have first : Skips inside _ between := skips_nameCode? here fits
      exact ⟨first.trans later, Nat.lt_of_lt_of_le shorter first.length_le⟩

theorem skips_interval? {least : Nat} {most : Option Nat} (read : interval? units = some (least, most, rest)) :
    Skips inside units rest := by
  obtain ⟨⟨least, between⟩, digits, read⟩ := Option.bind_eq_some_iff.mp read
  refine (skips_decimal? digits).trans ?_
  dsimp only at read
  split at read
  · rename_i brace
    cases read
    exact .of_signs ['}'] (by decide) brace
  · rename_i signs
    cases read
    exact .of_signs [',', '}'] (by decide) signs
  · rename_i comma
    have skips : Skips inside between (between.drop 1) := .of_signs [','] (by decide) comma
    obtain ⟨⟨most, left⟩, digits, read⟩ := Option.bind_eq_some_iff.mp read
    refine skips.trans ((skips_decimal? digits).trans ?_)
    dsimp only at read
    split at read
    · rename_i brace
      cases read
      exact .of_signs ['}'] (by decide) brace
    · cases read
  · cases read

theorem skips_greed (units : List CodeUnit) : Skips inside units (greed units).2 := by
  rw [greed]
  split
  · rename_i mark
    exact .of_signs ['?'] (by decide) mark
  · exact .refl _

/-- An atom of a class, where the class has not ended. -/
theorem skips_classAtom? {outline : Outline} {atom : CodeUnit ⊕ UnitSet × Bool}
    (goesOn : (units.take 1).map symbol ≠ [']']) (read : classAtom? outline units = some (atom, rest)) :
    Skips true units rest ∧ rest.length < units.length := by
  rcases units with _ | ⟨first, units⟩
  · cases read
  rw [classAtom?.eq_def] at read
  dsimp only at read
  by_cases plain : first ≠ backslash
  · rw [if_pos plain] at read
    cases read
    have noEscape : symbol first ≠ '\\' := fun same => plain (eq_backslash_of_symbol same)
    have noBracket : symbol first ≠ ']' := fun same => goesOn (congrArg (fun sign => [sign]) same)
    have passed : Plain true first := ⟨noEscape, fun _ => noBracket, fun outside => Bool.noConfusion outside⟩
    exact ⟨.cons passed _, Nat.lt_succ_self _⟩
  · rw [if_neg plain] at read
    obtain rfl : first = backslash := not_not.mp plain
    rcases units with _ | ⟨letter, units⟩
    · cases read
    have escaped : Skips true (backslash :: letter :: units) units := .escape _ _
    have shorter : units.length < (backslash :: letter :: units).length := Nat.lt_succ_of_lt (Nat.lt_succ_self _)
    dsimp only at read
    split at read
    · cases read
      exact ⟨escaped, shorter⟩
    · split at read
      · cases read
        exact ⟨escaped, shorter⟩
      · rename_i control
        have bare : Skips true (backslash :: letter :: units) (letter :: units) :=
          .bare (plain_of_symbol control (by decide)) _
        split at read
        · split_ifs at read with word
          · cases read
            exact ⟨escaped.trans (.cons (.of_holds _ rfl word) _), Nat.lt_of_succ_lt shorter⟩
          · cases read
            exact ⟨bare, Nat.lt_succ_self _⟩
        · cases read
          exact ⟨bare, Nat.lt_succ_self _⟩
      · split_ifs at read
        cases read
        exact ⟨escaped, shorter⟩
      · cases read
        have later : Skips true units (unitEscape letter units).2 := skips_unitEscape letter units
        exact ⟨escaped.trans later, Nat.lt_of_le_of_lt later.length_le shorter⟩

/-- The items that an atom of a class begins: the atom itself, or, if a hyphen and a second atom follow, the range
between the two or all three of them. -/
def classRange? (outline : Outline) (first : CodeUnit ⊕ UnitSet × Bool) (units : List CodeUnit) :
    Option (List ClassItem × List CodeUnit) :=
  if (units.take 1).map symbol = ['-'] then
    (classAtom? outline (units.drop 1)).bind fun (second, rest) =>
      match first, second with
      | .inl low, .inl high => if high < low then none else some ([.range low high], rest)
      | _, _ => some ([atomItem first, .range 0x2D 0x2D, atomItem second], rest)
  else some ([atomItem first], units)

/-- The items of a class from an atom on that has been read. -/
def classItemsFrom? (outline : Outline) (fuel : Nat) (first : CodeUnit ⊕ UnitSet × Bool)
    (units : List CodeUnit) : Option (List ClassItem × List CodeUnit) :=
  if (units.take 2).map symbol = ['-', ']'] then some ([atomItem first, .range 0x2D 0x2D], units.drop 2)
  else (classRange? outline first units).bind fun (items, rest) =>
    (classItems? outline fuel rest).bind fun (later, rest) => some (items ++ later, rest)

theorem classItems?_end {outline : Outline} (fuel : Nat) {last : CodeUnit} (ends : symbol last = ']')
    (units : List CodeUnit) : classItems? outline (fuel + 1) (last :: units) = some ([], units) := by
  rw [classItems?]
  simp only [List.take_succ_cons, List.take_zero, List.map_cons, List.map_nil, ends, List.drop_succ_cons,
    List.drop_zero]

theorem classItems?_more {outline : Outline} (fuel : Nat) (goesOn : (units.take 1).map symbol ≠ [']']) :
    classItems? outline (fuel + 1) units = (classAtom? outline units).bind fun (first, between) =>
      classItemsFrom? outline fuel first between := by
  rw [classItems?]
  split
  · rename_i nothing
    rcases units with _ | ⟨unit, units⟩
    · rfl
    · cases nothing
  · rename_i ends
    exact (goesOn ends).elim
  · rcases classAtom? outline units with _ | ⟨first, between⟩
    · rfl
    simp only [Option.bind_eq_bind, Option.bind_some, classItemsFrom?, classRange?]
    split
    · rename_i ends
      rw [if_pos ends]
      rfl
    · rename_i tail noEnd hyphen
      have behind : (between.take 1).map symbol = ['-'] := by
        have cut := congrArg (List.take 1) hyphen
        rwa [← List.map_take, List.take_take] at cut
      rw [if_neg (hyphen ▸ fun same => noEnd (List.cons.inj same).2), if_pos behind]
      rcases classAtom? outline (between.drop 1) with _ | ⟨second, rest⟩
      · rfl
      simp only [Option.bind_some]
      rcases first with low | set
      · rcases second with high | set
        · dsimp only
          split_ifs <;> rfl
        · rfl
      · rfl
    · rename_i noEnd noHyphen
      have apart : (between.take 1).map symbol ≠ ['-'] := by
        intro same
        rcases between with _ | ⟨dash, between⟩
        · cases same
        · exact noHyphen _ (by rw [List.take_succ_cons, List.map_cons, List.singleton_inj.mp same])
      rw [if_neg noEnd, if_neg apart]
      rfl

/-- What an atom begins is read within the class, where the class does not end behind the next hyphen. -/
theorem skips_classRange? {outline : Outline} {first : CodeUnit ⊕ UnitSet × Bool} {items : List ClassItem}
    (goesOn : (units.take 2).map symbol ≠ ['-', ']'])
    (read : classRange? outline first units = some (items, rest)) : Skips true units rest := by
  rw [classRange?] at read
  split_ifs at read with hyphen
  · obtain ⟨⟨second, left⟩, there, read⟩ := Option.bind_eq_some_iff.mp read
    obtain rfl : left = rest := by
      dsimp only at read
      split at read
      · split_ifs at read
        cases read
        rfl
      · cases read
        rfl
    have skips : Skips true units (units.drop 1) := .of_signs ['-'] (by decide) hyphen
    refine skips.trans (skips_classAtom? (fun ends => goesOn ?_) there).1
    rcases units with _ | ⟨dash, units⟩
    · cases hyphen
    · exact (List.singleton_inj.mp hyphen) ▸ congrArg (List.cons (symbol dash)) ends
  · cases read
    exact .refl _

/-- From an atom on a class is read up to its closing bracket, if it is so from the next one on. -/
theorem skips_classItemsFrom? {outline : Outline} {fuel : Nat} {first : CodeUnit ⊕ UnitSet × Bool}
    {items : List ClassItem}
    (later : ∀ {units items}, classItems? outline fuel units = some (items, rest) →
      Skips true units (0x5D :: rest))
    (read : classItemsFrom? outline fuel first units = some (items, rest)) : Skips true units (0x5D :: rest) := by
  rw [classItemsFrom?] at read
  split_ifs at read with signs
  · cases read
    rcases units with _ | ⟨dash, _ | ⟨last, units⟩⟩
    · cases signs
    · simp at signs
    obtain ⟨dash, last⟩ : symbol dash = '-' ∧ symbol last = ']' := by simpa using signs
    obtain rfl := eq_bracket_of_symbol last
    exact .cons (plain_of_symbol dash (by decide)) _
  · obtain ⟨⟨items, left⟩, range, read⟩ := Option.bind_eq_some_iff.mp read
    obtain ⟨⟨items, _⟩, others, same⟩ := Option.bind_eq_some_iff.mp read
    cases same
    exact (skips_classRange? signs range).trans (later others)

/-- The items of a class are read up to its closing bracket. -/
theorem skips_classItems? {outline : Outline} {fuel : Nat} {items : List ClassItem}
    (read : classItems? outline fuel units = some (items, rest)) : Skips true units (0x5D :: rest) := by
  induction fuel generalizing units items with
  | zero => cases read
  | succ fuel ih =>
    rcases units with _ | ⟨start, units⟩
    · cases read
    by_cases ends : symbol start = ']'
    · rw [classItems?_end fuel ends] at read
      cases read
      obtain rfl := eq_bracket_of_symbol ends
      exact .refl _
    · have goesOn : ((start :: units).take 1).map symbol ≠ [']'] := fun same => ends (List.singleton_inj.mp same)
      rw [classItems?_more fuel goesOn] at read
      obtain ⟨⟨first, between⟩, here, read⟩ := Option.bind_eq_some_iff.mp read
      exact (skips_classAtom? goesOn here).1.trans (skips_classItemsFrom? ih read)

end

end HttpRouting.Regex

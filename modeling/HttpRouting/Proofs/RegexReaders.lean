import HttpRouting.Proofs.RegexOutline

/-! # Readers that stay within a source

The source of a constraint is read with the end of a group and the end of the text behind it. A parenthesis is no
digit, no character of a name and no sign that a reader looks for, so every reader reads of a source with this
closing behind it what it reads of the source alone, and fails on both or on none. There is one exception: a
backslash at the end of a source escapes nothing by itself, and behind it the parenthesis of the closing is an
ordinary character. `Reads.enclosed` and `Reads.of_enclosed` say the same of all tokens.

A reader that is a function of units and gives what is left of them is said to keep the closing by `Keeps`.
-/

namespace HttpRouting.Regex

open Text

/-- What is written behind the source of a constraint: the end of its group and the end of the text. -/
def closing : List CodeUnit := [0x29, 0x24]

/-- What was read, with the closing behind what is left. -/
def enclosed {α : Type} (found : α × List CodeUnit) : α × List CodeUnit :=
  (found.1, found.2 ++ closing)

/-- Whether a reader reads the same with the closing behind the units, and leaves it there. -/
def Keeps {α : Type} (reader : List CodeUnit → Option (α × List CodeUnit)) (units : List CodeUnit) : Prop :=
  reader (units ++ closing) = (reader units).map enclosed

private theorem takeWhile_closing (holds : CodeUnit → Bool) (stops : holds 0x29 = false) (units : List CodeUnit) :
    (units ++ closing).takeWhile holds = units.takeWhile holds := by
  induction units with
  | nil => simp [closing, stops]
  | cons unit units ih =>
    rw [List.cons_append, List.takeWhile_cons, List.takeWhile_cons, ih]

private theorem dropWhile_closing (holds : CodeUnit → Bool) (stops : holds 0x29 = false) (units : List CodeUnit) :
    (units ++ closing).dropWhile holds = units.dropWhile holds ++ closing := by
  induction units with
  | nil => simp [closing, stops]
  | cons unit units ih =>
    rw [List.cons_append, List.dropWhile_cons, List.dropWhile_cons, ih]
    split_ifs <;> rfl

theorem symbol_parenthesis : symbol 0x29 = ')' := rfl

private theorem digitValue?_closing (base : Nat) : digitValue? base 0x29 = none := rfl

/-- Whoever looks further than the units go sees the parenthesis of the closing. -/
theorem parenthesis_mem_take {count : Nat} {units : List CodeUnit} (short : units.length < count) :
    0x29 ∈ (units ++ closing).take count := by
  obtain ⟨more, equal⟩ := Nat.exists_eq_add_of_lt short
  have behind : count - units.length = more + 1 := by omega
  rw [List.take_append, behind]
  exact List.mem_append_right _ (List.mem_cons_self ..)

/-- Signs that are looked for are seen with the closing behind the units when they are seen without it. -/
theorem signs_closing (count : Nat) {signs : List Char} (apart : ')' ∉ signs) (all : signs.length = count)
    (units : List CodeUnit) :
    ((units ++ closing).take count).map symbol = signs ↔ (units.take count).map symbol = signs := by
  by_cases enough : count ≤ units.length
  · rw [List.take_append_of_le_length enough]
  · constructor
    · intro seen
      have ahead := List.mem_map_of_mem (f := symbol) (parenthesis_mem_take (Nat.lt_of_not_le enough))
      rw [seen] at ahead
      exact (apart ahead).elim
    · intro seen
      have lengths := congrArg List.length seen
      rw [List.length_map, List.length_take] at lengths
      omega

private theorem mapM_eq_none {α β : Type} {read : α → Option β} {items : List α} {item : α} (member : item ∈ items)
    (unread : read item = none) : items.mapM read = none := by
  induction items with
  | nil => cases member
  | cons first rest ih =>
    rw [List.mapM_cons]
    rcases List.mem_cons.mp member with rfl | later
    · simp [unread]
    · simp [ih later]

private theorem keeps_hexDigits? (count : Nat) (units : List CodeUnit) : Keeps (hexDigits? count) units := by
  rw [Keeps, hexDigits?, hexDigits?]
  by_cases enough : count ≤ units.length
  · rw [List.take_append_of_le_length enough, List.drop_append_of_le_length enough]
    split_ifs
    · rfl
    · cases (units.take count).mapM (digitValue? 16) <;> rfl
  · have short : units.length < count := Nat.lt_of_not_le enough
    have unread := mapM_eq_none (parenthesis_mem_take short) (digitValue?_closing 16)
    have few : (units.take count).length < count := by
      rw [List.length_take]
      omega
    simp only [unread, few, if_true]
    split_ifs <;> rfl

private theorem keeps_decimal? (units : List CodeUnit) : Keeps decimal? units := by
  rw [Keeps, decimal?, decimal?, takeWhile_closing _ rfl, dropWhile_closing _ rfl]
  split_ifs <;> rfl

private theorem octal_closing (first : Nat) (units : List CodeUnit) :
    octal first (units ++ closing) = enclosed (octal first units) := by
  rcases units with _ | ⟨second, _ | ⟨third, more⟩⟩
  · rfl
  · simp only [List.cons_append, List.nil_append, octal]
    cases digitValue? 8 second <;> rfl
  · simp only [List.cons_append, octal]
    cases digitValue? 8 second with
    | none => rfl
    | some digit =>
      cases digitValue? 8 third with
      | none => rfl
      | some last => dsimp only; split_ifs <;> rfl

private theorem unitEscape_closing (letter : CodeUnit) (rest : List CodeUnit) :
    unitEscape letter (rest ++ closing) = enclosed (unitEscape letter rest) := by
  rw [unitEscape, unitEscape]
  split
  · rw [keeps_hexDigits? 2 rest]
    cases hexDigits? 2 rest <;> rfl
  · rw [keeps_hexDigits? 4 rest]
    cases hexDigits? 4 rest <;> rfl
  · cases namedControl? (symbol letter) with
    | some unit => rfl
    | none =>
      dsimp only
      cases digitValue? 8 letter with
      | none => rfl
      | some first => simp only [octal_closing]; rfl

private theorem keeps_codePoint? (high : CodeUnit) (rest : List CodeUnit) : Keeps codePoint? (high :: rest) := by
  rcases rest with _ | ⟨low, more⟩
  · rw [Keeps]
    simp [closing, codePoint?, enclosed]
  · simp only [Keeps, List.cons_append, codePoint?]
    split_ifs <;> rfl

private theorem keeps_nameEscape? (units : List CodeUnit) : Keeps nameEscape? units := by
  rcases units with _ | ⟨first, units⟩
  · rw [Keeps, nameEscape?, nameEscape?]
    rfl
  rw [Keeps, nameEscape?, nameEscape?]
  simp only [List.cons_append, List.take_succ_cons, List.take_zero, List.map_cons, List.map_nil,
    List.drop_succ_cons, List.drop_zero, Nat.add_comm 1]
  split
  · have behind : (units ++ closing).drop (units.takeWhile fun unit => (digitValue? 16 unit).isSome).length =
        units.dropWhile (fun unit => (digitValue? 16 unit).isSome) ++ closing := by
      rw [← takeWhile_closing (fun unit => (digitValue? 16 unit).isSome) rfl units, drop_length_takeWhile,
        dropWhile_closing (fun unit => (digitValue? 16 unit).isSome) rfl]
    simp only [takeWhile_closing (fun unit => (digitValue? 16 unit).isSome) rfl, behind,
      drop_length_takeWhile]
    generalize units.takeWhile _ = digits
    rcases units.dropWhile _ with _ | ⟨last, rest⟩
    · rfl
    · simp only [List.cons_append, List.take_succ_cons, List.take_zero, List.map_cons, List.map_nil,
        List.drop_succ_cons, List.drop_zero]
      split
      · split_ifs <;> rfl
      · rfl
  · rw [← List.cons_append, keeps_hexDigits? 4 (first :: units)]
    rcases hexDigits? 4 (first :: units) with _ | ⟨high, rest⟩
    · rfl
    simp only [Option.map_some, enclosed, Option.bind_eq_bind, Option.bind_some]
    split_ifs
    · rcases rest with _ | ⟨escape, _ | ⟨letter, rest⟩⟩
      · rfl
      · simp only [closing, List.cons_append, List.nil_append, List.take_succ_cons, List.take_zero, List.take_nil,
          List.map_cons, List.map_nil, symbol_parenthesis]
        split
        · rename_i same
          simp at same
        · split
          · rename_i same
            simp at same
          · rfl
      · simp only [List.cons_append, List.take_succ_cons, List.take_zero, List.map_cons, List.map_nil,
          List.drop_succ_cons, List.drop_zero]
        split
        · rw [keeps_hexDigits? 4 rest]
          rcases hexDigits? 4 rest with _ | ⟨low, more⟩
          · rfl
          · simp only [Option.map_some, enclosed]
            split_ifs <;> rfl
        · rfl
    · rfl

private theorem greed_closing (units : List CodeUnit) : greed (units ++ closing) = enclosed (greed units) := by
  rcases units with _ | ⟨first, units⟩
  · rfl
  · simp only [greed, List.cons_append, List.take_succ_cons, List.take_zero, List.map_cons, List.map_nil]
    split <;> rfl

private theorem interval?_closing (units : List CodeUnit) :
    interval? (units ++ closing) =
      (interval? units).map fun (least, most, rest) => (least, most, rest ++ closing) := by
  rw [interval?, interval?, keeps_decimal? units]
  rcases decimal? units with _ | ⟨least, _ | ⟨first, _ | ⟨second, rest⟩⟩⟩
  · rfl
  · rfl
  · simp only [Option.map_some, enclosed, List.cons_append, List.nil_append, closing, Option.bind_eq_bind,
      Option.bind_some, List.take_succ_cons, List.take_zero, List.take_nil, List.map_cons, List.map_nil,
      symbol_parenthesis]
    by_cases brace : symbol first = '}'
    · simp [brace]
    by_cases comma : symbol first = ','
    · simp [comma]
      rfl
    · simp [brace, comma]
  · simp only [Option.map_some, enclosed, List.cons_append, Option.bind_eq_bind, Option.bind_some,
      List.take_succ_cons, List.take_zero, List.map_cons, List.map_nil, List.drop_succ_cons, List.drop_zero]
    split
    · rfl
    · rfl
    · rw [← List.cons_append, keeps_decimal? (second :: rest)]
      rcases decimal? (second :: rest) with _ | ⟨most, _ | ⟨last, rest⟩⟩
      · rfl
      · rfl
      · simp only [Option.map_some, enclosed, List.cons_append, Option.bind_some, List.take_succ_cons,
          List.take_zero, List.map_cons, List.map_nil, List.drop_succ_cons, List.drop_zero]
        split <;> rfl
    · rfl

private theorem keeps_nameCode? (first : CodeUnit) (units : List CodeUnit) : Keeps nameCode? (first :: units) := by
  rw [Keeps, nameCode?, nameCode?]
  simp only [signs_closing 2 (by decide : ')' ∉ ['\\', 'u']) rfl]
  split_ifs with escape
  · rcases units with _ | ⟨second, units⟩
    · simp at escape
    · exact keeps_nameEscape? units
  · exact keeps_codePoint? first units

private theorem captureName?_closing_nil (fuel : Nat) (name : List Char) : captureName? fuel name closing = none := by
  rcases fuel with _ | fuel
  · rfl
  have code : nameCode? closing = some (0x29, [0x24]) := rfl
  have begins : beginsName 0x29 = false := by decide
  have continues : continuesName 0x29 = false := by decide
  rw [closing] at code ⊢
  rw [captureName?_more fuel name (by decide), code]
  simp [fitsName, begins, continues]

/-- A name is read the same with the closing behind it, with whatever fuel there is for its units. -/
theorem captureName?_closing {fuel fuel' : Nat} {name : List Char} {units : List CodeUnit}
    (enough : units.length < fuel) (enough' : units.length < fuel') :
    captureName? fuel' name (units ++ closing) = (captureName? fuel name units).map enclosed := by
  induction fuel generalizing fuel' name units with
  | zero => omega
  | succ fuel ih =>
    rcases units with _ | ⟨first, units⟩
    · rw [List.nil_append, captureName?_closing_nil]
      rfl
    rcases fuel' with _ | fuel'
    · omega
    by_cases ends : symbol first = '>'
    · rw [List.cons_append, captureName?_end fuel name ends, captureName?_end fuel' name ends]
      split_ifs <;> rfl
    · have code : nameCode? (first :: (units ++ closing)) = (nameCode? (first :: units)).map enclosed :=
        keeps_nameCode? first units
      rw [List.cons_append, captureName?_more fuel name ends, captureName?_more fuel' name ends, code]
      rcases read : nameCode? (first :: units) with _ | ⟨code, rest⟩
      · rfl
      simp only [Option.map_some, enclosed, Option.bind_some]
      split_ifs
      · have shorter := length_of_nameCode? read
        rw [List.length_cons] at enough enough'
        exact ih (by omega) (by omega)
      · rfl

/-- An atom of a class is read the same with the closing behind it, unless nothing or a single backslash is
left. -/
theorem keeps_classAtom? (outline : Outline) {units : List CodeUnit} (filled : units ≠ [])
    (more : units ≠ [backslash]) : Keeps (classAtom? outline) units := by
  rcases units with _ | ⟨first, units⟩
  · exact (filled rfl).elim
  rw [Keeps, classAtom?.eq_def, classAtom?.eq_def]
  simp only [List.cons_append]
  by_cases plain : first ≠ backslash
  · rw [if_pos plain, if_pos plain]
    rfl
  · rw [if_neg plain, if_neg plain]
    rcases units with _ | ⟨letter, units⟩
    · obtain rfl : first = backslash := not_not.mp plain
      exact (more rfl).elim
    simp only [List.cons_append]
    cases namedSet? (symbol letter) with
    | some set => rfl
    | none =>
      dsimp only
      split
      · rfl
      · rcases units with _ | ⟨control, units⟩
        · rfl
        · simp only [List.cons_append]
          split_ifs <;> rfl
      · split_ifs <;> rfl
      · rw [unitEscape_closing]
        rfl

/-- Without a closing bracket a class has no end. -/
theorem classItems?_eq_none {outline : Outline} {fuel : Nat} {units : List CodeUnit} (absent : 0x5D ∉ units) :
    classItems? outline fuel units = none := by
  rcases read : classItems? outline fuel units with _ | ⟨items, rest⟩
  · rfl
  · have skips : Skips true units (0x5D :: rest) := skips_classItems? read
    exact (absent (skips.suffix.subset (List.mem_cons_self ..))).elim

private theorem classItemsFrom?_eq_none {outline : Outline} {fuel : Nat} {first : CodeUnit ⊕ UnitSet × Bool}
    {units : List CodeUnit} (absent : 0x5D ∉ units) : classItemsFrom? outline fuel first units = none := by
  rcases read : classItemsFrom? outline fuel first units with _ | ⟨items, rest⟩
  · rfl
  · have skips : Skips true units (0x5D :: rest) := skips_classItemsFrom? skips_classItems? read
    exact (absent (skips.suffix.subset (List.mem_cons_self ..))).elim

/-- What an atom of a class begins is read the same with the closing behind it, if the class ends before. -/
theorem keeps_classRange? (outline : Outline) (first : CodeUnit ⊕ UnitSet × Bool) {units : List CodeUnit}
    (present : 0x5D ∈ units) : Keeps (classRange? outline first) units := by
  rcases units with _ | ⟨dash, units⟩
  · cases present
  rw [Keeps, classRange?, classRange?]
  simp only [List.cons_append, List.take_succ_cons, List.take_zero, List.map_cons, List.map_nil,
    List.drop_succ_cons, List.drop_zero]
  split_ifs with hyphen
  · have later : 0x5D ∈ units := by
      refine (List.mem_cons.mp present).resolve_left ?_
      rintro rfl
      cases hyphen
    have atom : Keeps (classAtom? outline) units :=
      keeps_classAtom? outline (List.ne_nil_of_mem later) fun same => absurd (same ▸ later) (by decide)
    rw [atom]
    rcases classAtom? outline units with _ | ⟨second, rest⟩
    · rfl
    simp only [Option.map_some, enclosed, Option.bind_some]
    split
    · split_ifs <;> rfl
    · rfl
  · rfl

/-- From an atom on, a class is read the same with the closing behind it, if it is so from the next one on. -/
theorem classItemsFrom?_closing {outline : Outline} {fuel fuel' : Nat} {units : List CodeUnit}
    (later : ∀ {left}, left.length ≤ units.length →
      classItems? outline fuel' (left ++ closing) = (classItems? outline fuel left).map enclosed)
    (first : CodeUnit ⊕ UnitSet × Bool) :
    classItemsFrom? outline fuel' first (units ++ closing) =
      (classItemsFrom? outline fuel first units).map enclosed := by
  by_cases present : 0x5D ∈ units
  · rw [classItemsFrom?, classItemsFrom?, keeps_classRange? outline first present]
    simp only [signs_closing 2 (by decide : ')' ∉ ['-', ']']) rfl]
    split_ifs with ends
    · have enough : 2 ≤ units.length := by
        have lengths := congrArg List.length ends
        rw [List.length_map, List.length_take, List.length_cons, List.length_singleton] at lengths
        omega
      rw [List.drop_append_of_le_length enough]
      rfl
    · rcases read : classRange? outline first units with _ | ⟨items, left⟩
      · rfl
      have skips : Skips true units left := skips_classRange? ends read
      simp only [Option.map_some, enclosed, Option.bind_some, later skips.length_le]
      rcases classItems? outline fuel left <;> rfl
  · have absent : 0x5D ∉ units ++ closing := by
      rw [List.mem_append, not_or]
      exact ⟨present, by decide⟩
    rw [classItemsFrom?_eq_none present, classItemsFrom?_eq_none absent]
    rfl

/-- The items of a class are read the same with the closing behind them, with whatever fuel there is for their
units. -/
theorem classItems?_closing {outline : Outline} {fuel fuel' : Nat} {units : List CodeUnit}
    (enough : units.length < fuel) (enough' : units.length < fuel') :
    classItems? outline fuel' (units ++ closing) = (classItems? outline fuel units).map enclosed := by
  induction fuel generalizing fuel' units with
  | zero => omega
  | succ fuel ih =>
    rcases fuel' with _ | fuel'
    · omega
    rcases units with _ | ⟨start, units⟩
    · have ended : classItems? outline (fuel' + 1) closing = none := classItems?_eq_none (by decide)
      exact ended
    by_cases ends : symbol start = ']'
    · rw [List.cons_append, classItems?_end fuel ends, classItems?_end fuel' ends]
      rfl
    have goesOn : ((start :: units).take 1).map symbol ≠ [']'] := fun same => ends (List.singleton_inj.mp same)
    have goesOn' : ((start :: units ++ closing).take 1).map symbol ≠ [']'] := goesOn
    rw [classItems?_more fuel goesOn, classItems?_more fuel' goesOn']
    by_cases bare : start :: units = [backslash]
    · -- the backslash escapes the parenthesis, and no bracket is left to end the class
      obtain ⟨rfl, rfl⟩ := List.cons.inj bare
      have ended : classItemsFrom? outline fuel' (.inl 0x29) [0x24] = none :=
        classItemsFrom?_eq_none (by decide)
      exact ended
    have atom : Keeps (classAtom? outline) (start :: units) :=
      keeps_classAtom? outline (List.cons_ne_nil _ _) bare
    rw [atom]
    rcases read : classAtom? outline (start :: units) with _ | ⟨first, between⟩
    · rfl
    have shorter := (skips_classAtom? goesOn read).2
    rw [List.length_cons] at enough enough' shorter
    have later {left : List CodeUnit} (fits : left.length ≤ between.length) :
        classItems? outline fuel' (left ++ closing) = (classItems? outline fuel left).map enclosed :=
      ih (by omega) (by omega)
    exact classItemsFrom?_closing later first

private theorem quantified_closing (least : Nat) (most : Option Nat) (rest : List CodeUnit) :
    quantified least most (rest ++ closing) = enclosed (quantified least most rest) := by
  rw [quantified, quantified, greed_closing]
  rfl

/-- An escape is read the same with the closing behind it, if anything follows its backslash. -/
theorem keeps_escapeToken? (outline : Outline) (letter : CodeUnit) (rest : List CodeUnit) :
    Keeps (escapeToken? outline) (letter :: rest) := by
  rw [Keeps, escapeToken?.eq_def, escapeToken?.eq_def]
  simp only [List.cons_append]
  split
  · rfl
  split
  · rfl
  · rfl
  · rcases rest with _ | ⟨control, more⟩
    · rfl
    · simp only [List.cons_append]
      split_ifs <;> rfl
  · split_ifs
    · rcases rest with _ | ⟨first, rest⟩
      · rfl
      · simp only [List.cons_append, List.take_succ_cons, List.take_zero, List.map_cons, List.map_nil,
          List.drop_succ_cons, List.drop_zero, List.length_cons]
        split
        · have name : captureName? ((rest ++ closing).length + 1 + 1) [] (rest ++ closing) =
              (captureName? (rest.length + 1 + 1) [] rest).map enclosed :=
            captureName?_closing (by omega) (by rw [List.length_append]; omega)
          rw [name]
          rcases captureName? (rest.length + 1 + 1) [] rest <;> rfl
        · rfl
    · rfl
  · have decimal : decimal? (letter :: (rest ++ closing)) = (decimal? (letter :: rest)).map enclosed :=
      keeps_decimal? (letter :: rest)
    rw [unitEscape_closing, decimal]
    split_ifs
    · rcases decimal? (letter :: rest) with _ | ⟨index, more⟩
      · rfl
      · simp only [Option.map_some, enclosed]
        split_ifs <;> rfl
    · rfl

private theorem keeps_openingToken? (units : List CodeUnit) : Keeps openingToken? units := by
  rw [Keeps, openingToken?, openingToken?]
  rcases units with _ | ⟨mark, _ | ⟨kind, _ | ⟨third, units⟩⟩⟩
  · rfl
  · by_cases question : symbol mark = '?'
    · simp [closing, question, symbol_parenthesis]
    · simp [closing, question, enclosed]
  · by_cases question : symbol mark = '?'
    · have sign : (closing.take 1).map symbol = [')'] := rfl
      have unnamed (fuel : Nat) : captureName? fuel [] closing = none := captureName?_closing_nil fuel []
      have unnamed' : captureName? 3 [] [] = none := rfl
      simp only [List.cons_append, List.nil_append, List.take_succ_cons, List.take_nil, List.map_cons,
        List.map_nil, List.drop_succ_cons, List.drop_zero, sign, question, unnamed, List.length_cons,
        List.length_nil, unnamed']
      by_cases colon : symbol kind = ':'
      · simp [colon, enclosed]
      by_cases equals : symbol kind = '='
      · simp [equals, enclosed]
      by_cases mark : symbol kind = '!'
      · simp [mark, enclosed]
      by_cases angle : symbol kind = '<'
      · simp [angle]
      · simp [colon, equals, mark, angle]
    · simp [closing, question, enclosed]
  · simp only [List.cons_append, List.take_succ_cons, List.take_zero, List.map_cons, List.map_nil,
      List.drop_succ_cons, List.drop_zero]
    split
    iterate 5
      · rfl
    · have name : captureName? ((mark :: kind :: third :: (units ++ closing)).length + 1) []
            (third :: (units ++ closing)) =
          (captureName? ((mark :: kind :: third :: units).length + 1) [] (third :: units)).map enclosed :=
        @captureName?_closing _ _ [] (third :: units) (by simp only [List.length_cons]; omega)
          (by simp only [List.length_cons, List.length_append]; omega)
      rw [name]
      rcases captureName? _ [] (third :: units) <;> rfl
    · rfl
    · rfl

/-- A token is read the same with the closing behind it, unless nothing or a single backslash is left. -/
theorem keeps_token? (outline : Outline) {units : List CodeUnit} (filled : units ≠ [])
    (more : units ≠ [backslash]) : Keeps (token? outline) units := by
  rcases units with _ | ⟨first, units⟩
  · exact (filled rfl).elim
  rw [Keeps, List.cons_append, token?, token?]
  split
  iterate 5
    · rfl
  · exact keeps_openingToken? units
  iterate 3
    · rw [quantified_closing]
      rfl
  · rw [interval?_closing]
    rcases interval? units with _ | ⟨least, most, rest⟩
    · rfl
    · simp only [Option.map_some, quantified_closing]
      split_ifs <;> rfl
  · have items (units : List CodeUnit) : classItems? outline ((units ++ closing).length + 1) (units ++ closing) =
        (classItems? outline (units.length + 1) units).map enclosed :=
      classItems?_closing (Nat.lt_succ_self _) (by rw [List.length_append]; omega)
    rcases units with _ | ⟨caret, units⟩
    · have ended : classItems? outline (closing.length + 1) closing = none := classItems?_eq_none (by decide)
      exact congrArg (Option.bind · fun found => some (Token.test (.items found.1 false), found.2)) ended
    · simp only [List.cons_append, List.take_succ_cons, List.take_zero, List.map_cons, List.map_nil,
        List.drop_succ_cons, List.drop_zero]
      split
      · simp only [items units]
        rcases classItems? outline (units.length + 1) units <;> rfl
      · have items := items (caret :: units)
        rw [List.cons_append] at items
        simp only [items]
        rcases classItems? outline ((caret :: units).length + 1) (caret :: units) <;> rfl
  · rename_i sign
    obtain rfl : first = backslash := eq_backslash_of_symbol sign
    rcases units with _ | ⟨letter, rest⟩
    · exact (more rfl).elim
    · exact keeps_escapeToken? outline letter rest
  · rfl

section

variable {outline : Outline} {units rest : List CodeUnit} {tokens : List Token}

/-- What is read of a source is read of it with the closing behind it. -/
theorem Reads.enclosed (reads : Reads outline units tokens rest) :
    Reads outline (units ++ closing) tokens (rest ++ closing) := by
  induction reads with
  | done => exact .done
  | @next units between _ token _ first _ ih =>
    have filled : units ≠ [] := by
      rintro rfl
      cases first
    have more : units ≠ [backslash] := by
      rintro rfl
      cases first
    have here := keeps_token? outline filled more
    rw [Keeps, first] at here
    exact .next here ih

private theorem reads_textEnd (reads : Reads outline [0x24] tokens []) : tokens = [.textEnd] := by
  cases reads with
  | next first later =>
    cases first
    cases later with
    | done => rfl
    | next first => cases first

/-- When a source with the closing behind it is read to the end, the source itself is read up to its end, or up to
a single backslash, which then escapes the parenthesis of the closing. -/
theorem Reads.of_enclosed (reads : Reads outline (units ++ closing) tokens []) :
    ∃ inner left last, Reads outline units inner left ∧ tokens = inner ++ [last, .textEnd] ∧
      (left = [] ∧ last = .closing ∨ left = [backslash] ∧ last = literal 0x29) := by
  generalize whole : units ++ closing = written at reads
  generalize ended : ([] : List CodeUnit) = rest at reads
  induction reads generalizing units with
  | done =>
    subst ended
    simp [closing] at whole
  | @next written between _ token tokens first later ih =>
    subst ended whole
    by_cases empty : units = []
    · subst empty
      cases first
      exact ⟨[], _, _, .done, by rw [reads_textEnd later]; rfl, .inl ⟨rfl, rfl⟩⟩
    by_cases bare : units = [backslash]
    · subst bare
      cases first
      exact ⟨[], _, _, .done, by rw [reads_textEnd later]; rfl, .inr ⟨rfl, rfl⟩⟩
    · have here := keeps_token? outline empty bare
      rw [Keeps, first] at here
      obtain ⟨⟨_, left⟩, read, same⟩ := Option.map_eq_some_iff.mp here.symm
      cases same
      obtain ⟨inner, left, last, reads, same, ending⟩ := ih rfl rfl
      exact ⟨_, left, last, .next read reads, congrArg _ same, ending⟩

end

end HttpRouting.Regex

import HttpRouting.Text.Case
import HttpRouting.Text.Split
import Mathlib.Data.List.Basic

/-! # What letter case can bring in

Which characters can stand in a text after its letter case was changed, though they did not stand there
before. Lower case brings in no sign that comes before the small letters in ASCII, such as a slash, a
question mark or a bracket, and takes none away, so that a text begins and ends with a sign just when it
does so in lower case; upper case brings in no small ASCII letter. And what lower case gives it keeps
wherever that stands. All of it follows from the tables, whose runs land elsewhere.
-/

namespace HttpRouting.Text

variable {stop : Char}

/-- Only the code of a character stands for it. -/
theorem code_of_ofNat {code : Nat} (positive : 0 < stop.toNat) (same : Char.ofNat code = stop) :
    code = stop.toNat := by
  subst same
  by_cases valid : code.isValidChar
  · rw [Char.ofNat, dif_pos valid]
    rfl
  · rw [Char.ofNat, dif_neg valid] at positive
    cases positive

/-- What is so for every ASCII code is so for every ASCII character. -/
theorem forall_ascii {motive : Char → Prop} (codes : ∀ code < 0x80, motive (Char.ofNat code)) {char : Char}
    (ascii : char.toNat < 0x80) : motive char := by
  have here := codes char.toNat ascii
  rwa [Char.ofNat_toNat] at here

namespace CaseData.Run

/-- The images of the first and the last character of a run. -/
def low (run : Run) : Nat :=
  ((run.first : Int) + run.shift).toNat

def high (run : Run) : Nat :=
  ((run.last : Int) + run.shift).toNat

private theorem image?_eq_some_iff {run : Run} {code image : Nat} :
    run.image? code = some image ↔
      (run.first ≤ code ∧ code ≤ run.last ∧ (code - run.first) % run.stride = 0) ∧
        ((code : Int) + run.shift).toNat = image := by
  rw [Run.image?, Option.ite_none_right_eq_some, Option.some_inj, Int.ofNat_eq_natCast]

/-- Whether no image under a run is in the domain of another one. -/
def misses (run other : Run) : Bool :=
  run.high < other.first || other.last < run.low ||
    other.stride = 2 && (run.stride = 2 || run.first = run.last) && (run.low + other.first) % 2 = 1

theorem bounds_of_image? {run : Run} (above : 0 < run.low) {code image : Nat}
    (moved : run.image? code = some image) : run.low ≤ image ∧ image ≤ run.high := by
  obtain ⟨inside, landed⟩ := image?_eq_some_iff.mp moved
  rw [low] at above ⊢
  rw [high]
  omega

private theorem image?_eq_none_of_misses {run other : Run} (misses : run.misses other = true) (above : 0 < run.low)
    {code image : Nat} (moved : run.image? code = some image) : other.image? image = none := by
  obtain ⟨least, most⟩ := bounds_of_image? above moved
  rw [image?, if_neg]
  rintro ⟨first', last', step'⟩
  simp only [Run.misses, Bool.or_eq_true, Bool.and_eq_true, decide_eq_true_eq] at misses
  obtain (below | beyond) | ⟨⟨stride', evenly⟩, odd⟩ := misses
  · omega
  · omega
  · -- the images have one parity and the domain has the other
    obtain ⟨⟨first, last, step⟩, landed⟩ := image?_eq_some_iff.mp moved
    have even : (code - run.first) % 2 = 0 := by
      obtain stride | single := evenly
      · rwa [stride] at step
      · omega
    rw [low] at above odd
    rw [stride'] at step'
    omega

end CaseData.Run

/-- What a table of case mappings gives: a special image, the image under a run, or a character that is in
none of them. -/
theorem mem_caseImage {runs : List CaseData.Run} {special : List (Nat × List Nat)} {char image : Char}
    (member : image ∈ caseImage runs special char) :
    (∃ entry ∈ special, ∃ code ∈ entry.2, Char.ofNat code = image) ∨
      (∃ run ∈ runs, ∃ code, run.image? char.toNat = some code ∧ Char.ofNat code = image) ∨
      image = char ∧ special.lookup char.toNat = none ∧ runs.findSome? (·.image? char.toNat) = none := by
  rw [caseImage] at member
  split at member
  · rename_i images found
    obtain ⟨code, codeMem, same⟩ := List.mem_map.mp member
    obtain ⟨before, after, split, _⟩ := List.lookup_eq_some_iff.mp found
    exact .inl ⟨(char.toNat, images), by simp [split], code, codeMem, same⟩
  · rename_i missing
    have same := List.mem_singleton.mp member
    cases found : runs.findSome? (·.image? char.toNat) with
    | none =>
      rw [found, Option.getD_none, Char.ofNat_toNat] at same
      exact .inr (.inr ⟨same, missing, rfl⟩)
    | some code =>
      rw [found, Option.getD_some] at same
      obtain ⟨run, runMem, moved⟩ := List.exists_of_findSome?_eq_some found
      exact .inr (.inl ⟨run, runMem, code, moved, same.symm⟩)

/-- A table of case mappings brings in no character that is outside the images of its runs and not among
its special images. -/
theorem not_mem_caseImage {runs : List CaseData.Run} {special : List (Nat × List Nat)}
    (positive : 0 < stop.toNat)
    (outside : ∀ run ∈ runs, 0 < run.low ∧ (stop.toNat < run.low ∨ run.high < stop.toNat))
    (others : ∀ entry ∈ special, stop.toNat ∉ entry.2) {char : Char} (differs : char ≠ stop) :
    stop ∉ caseImage runs special char := by
  intro member
  obtain ⟨entry, entryMem, code, codeMem, same⟩ | ⟨run, runMem, code, moved, same⟩ | ⟨same, _⟩ :=
    mem_caseImage member
  · exact others entry entryMem (code_of_ofNat positive same ▸ codeMem)
  · obtain ⟨above, bound⟩ := outside run runMem
    have inside := CaseData.Run.bounds_of_image? above moved
    have code := code_of_ofNat positive same
    omega
  · exact differs same.symm

/-- Whether a character is one of the signs that come before the small letters in ASCII. -/
def IsSign (char : Char) : Prop :=
  0 < char.toNat ∧ char.toNat < 0x61 ∧ ¬(0x41 ≤ char.toNat ∧ char.toNat ≤ 0x5A)

instance (char : Char) : Decidable (IsSign char) :=
  inferInstanceAs (Decidable (_ ∧ _))

/-- The images of capital letters are small letters or come behind them. -/
theorem le_low_of_mem_lowerRuns : ∀ run ∈ CaseData.lowerRuns, 0x61 ≤ run.low := by
  decide +kernel

theorem lowerChar_of_sign (sign : IsSign stop) (earlier later : List Char) :
    lowerChar earlier stop later = [stop] := by
  have ascii : stop.toNat < 0x80 := Nat.lt_trans sign.2.1 (by decide)
  have same : IsSign stop → stop.toLower = stop :=
    forall_ascii (motive := fun char => IsSign char → char.toLower = char) (by decide) ascii
  rw [lowerChar, if_pos ascii, same sign]

private theorem not_mem_lowerChar (sign : IsSign stop) {earlier later : List Char} {char : Char}
    (differs : char ≠ stop) : stop ∉ lowerChar earlier char later := by
  have ⟨positive, small, _⟩ := sign
  rw [lowerChar]
  split_ifs with ascii
  · have same : IsSign char.toLower → char.toLower = char :=
      forall_ascii (motive := fun char => IsSign char.toLower → char.toLower = char) (by decide) ascii
    rw [List.mem_singleton]
    rintro rfl
    exact differs (same sign).symm
  · rw [List.mem_singleton]
    rintro rfl
    exact absurd small (by decide)
  · rw [List.mem_singleton]
    rintro rfl
    exact absurd small (by decide)
  · have specials : ∀ entry ∈ CaseData.lowerSpecial, ∀ code ∈ entry.2, 0x61 ≤ code := by decide +kernel
    refine not_mem_caseImage positive (fun run member => ?_) (fun entry member inside => ?_) differs
    · have bound := le_low_of_mem_lowerRuns run member
      omega
    · have bound := specials entry member stop.toNat inside
      omega

/-- A sign stays what it is, and nothing else becomes one. -/
theorem mem_lowerChar_iff (sign : IsSign stop) {earlier later : List Char} {char : Char} :
    stop ∈ lowerChar earlier char later ↔ char = stop := by
  refine ⟨fun member => ?_, ?_⟩
  · by_contra differs
    exact not_mem_lowerChar sign differs member
  · rintro rfl
    rw [lowerChar_of_sign sign]
    exact List.mem_singleton_self _

private theorem mem_lowerChars_iff (sign : IsSign stop) {earlier chars : List Char} :
    stop ∈ lowerChars earlier chars ↔ stop ∈ chars := by
  -- a character's lower case may depend on those before it, so the induction is for all of these
  induction chars generalizing earlier with
  | nil => simp [lowerChars]
  | cons char later ih => rw [lowerChars, List.mem_append, List.mem_cons, ih, mem_lowerChar_iff sign, eq_comm]

/-- Lower case brings in no sign and takes none away. -/
theorem mem_lower_iff (sign : IsSign stop) {text : String} :
    stop ∈ (lower text).toList ↔ stop ∈ text.toList := by
  rw [lower, String.toList_ofList, mem_lowerChars_iff sign]

private theorem lowerChar_ne_nil (earlier : List Char) (char : Char) (later : List Char) :
    lowerChar earlier char later ≠ [] := by
  rw [lowerChar]
  split_ifs
  · simp
  · simp
  · simp
  · rw [caseImage]
    split
    · rename_i image found
      obtain ⟨before, after, split, _⟩ := List.lookup_eq_some_iff.mp found
      have images : ∀ entry ∈ CaseData.lowerSpecial, entry.2 ≠ [] := by decide
      simpa using images (char.toNat, image) (by simp [split])
    · simp

private theorem length_le_lowerChars (earlier chars : List Char) :
    chars.length ≤ (lowerChars earlier chars).length := by
  induction chars generalizing earlier with
  | nil => simp
  | cons char later ih =>
    have head := List.length_pos_of_ne_nil (lowerChar_ne_nil earlier char later)
    have tail := ih (char :: earlier)
    rw [lowerChars, List.length_append, List.length_cons]
    omega

/-- A text that is a sign in lower case is that sign. -/
theorem lower_eq_singleton_iff (sign : IsSign stop) {text : String} :
    lower text = String.singleton stop ↔ text = String.singleton stop := by
  constructor
  · intro same
    have member : stop ∈ text.toList := (mem_lower_iff sign).mp (by simp [same])
    have short : text.toList.length ≤ 1 := by
      have length := length_le_lowerChars [] text.toList
      rw [← String.toList_ofList (l := lowerChars [] text.toList)] at length
      change _ ≤ (lower text).toList.length at length
      simpa [same] using length
    have present := List.length_pos_of_mem member
    obtain ⟨char, alone⟩ : ∃ char, text.toList = [char] := List.length_eq_one_iff.mp (by omega)
    rw [alone, List.mem_singleton] at member
    rw [← String.toList_inj, alone, member, String.toList_singleton]
  · rintro rfl
    rw [lower, String.toList_singleton, lowerChars, lowerChars, lowerChar_of_sign sign]
    rfl

/-- A text begins with a sign just when it does so in lower case. -/
theorem head?_lower_iff (sign : IsSign stop) {text : String} :
    (lower text).toList.head? = some stop ↔ text.toList.head? = some stop := by
  rw [lower, String.toList_ofList]
  cases text.toList with
  | nil => rfl
  | cons char later =>
    obtain ⟨first, others, image⟩ := List.exists_cons_of_ne_nil (lowerChar_ne_nil [] char later)
    have begins : first = stop ↔ char = stop := by
      constructor
      · rintro rfl
        rw [← mem_lowerChar_iff sign, image]
        exact List.mem_cons_self ..
      · rintro rfl
        rw [lowerChar_of_sign sign] at image
        exact (List.cons.inj image).1.symm
    simpa [lowerChars, image] using begins

/-- Whether the first `stop` of a text is the last character of it. -/
def StopsAt (stop : Char) (chars : List Char) : Prop :=
  ∃ front, stop ∉ front ∧ chars = front ++ [stop]

theorem StopsAt.mem {chars : List Char} (stops : StopsAt stop chars) : stop ∈ chars := by
  obtain ⟨front, _, rfl⟩ := stops
  simp

theorem before_append_of_stopsAt {text : String} (stops : StopsAt stop text.toList) :
    before stop text ++ String.singleton stop = text := by
  obtain ⟨front, plain, split⟩ := stops
  have differ : ∀ char ∈ front, char ≠ stop := fun char member same => plain (same ▸ member)
  rw [← String.toList_inj, String.toList_append, toList_before, split,
    List.takeWhile_append_of_pos (by simpa using differ)]
  simp

theorem stopsAt_append {left right : List Char} (some : right ≠ []) :
    StopsAt stop (left ++ right) ↔ stop ∉ left ∧ StopsAt stop right := by
  constructor
  · rintro ⟨front, plain, split⟩
    rw [← List.dropLast_append_getLast some, ← List.append_assoc] at split
    obtain ⟨rfl, last⟩ := List.append_inj' split rfl
    rw [List.mem_append, not_or] at plain
    exact ⟨plain.1, right.dropLast, plain.2, by rw [← last, List.dropLast_append_getLast some]⟩
  · rintro ⟨plain, front, plain', rfl⟩
    exact ⟨left ++ front, by simp [plain, plain'], by simp⟩

theorem stopsAt_cons_iff {char : Char} (differs : char ≠ stop) {chars : List Char} :
    StopsAt stop (char :: chars) ↔ StopsAt stop chars := by
  by_cases last : chars = []
  · subst last
    exact iff_of_false (fun stops => differs (List.mem_singleton.mp stops.mem).symm)
      fun stops => by simpa using stops.mem
  · rw [← List.singleton_append, stopsAt_append last]
    simp [differs.symm]

/-- A text ends with its first sign of a kind just when it does so in lower case. -/
theorem stopsAt_lowerChars_iff (sign : IsSign stop) {earlier chars : List Char} :
    StopsAt stop (lowerChars earlier chars) ↔ StopsAt stop chars := by
  induction chars generalizing earlier with
  | nil => rfl
  | cons char later ih =>
    by_cases last : later = []
    · subst last
      rw [lowerChars, lowerChars, List.append_nil]
      by_cases same : char = stop
      · rw [same, lowerChar_of_sign sign]
      · refine iff_of_false (fun stops => same ((mem_lowerChar_iff sign).mp stops.mem)) fun stops => same ?_
        exact (List.mem_singleton.mp stops.mem).symm
    · have filled : lowerChars (char :: earlier) later ≠ [] := by
        have length := length_le_lowerChars (char :: earlier) later
        rintro empty
        rw [empty, List.length_nil] at length
        exact last (List.eq_nil_of_length_eq_zero (by omega))
      rw [lowerChars, stopsAt_append filled, ih, mem_lowerChar_iff sign, ← List.singleton_append,
        stopsAt_append last, List.mem_singleton, eq_comm]

theorem stopsAt_lower_iff (sign : IsSign stop) {text : String} :
    StopsAt stop (lower text).toList ↔ StopsAt stop text.toList := by
  rw [lower, String.toList_ofList, stopsAt_lowerChars_iff sign]

/-! ## What lower case keeps -/

/-- Whether lower case keeps a character wherever it stands. -/
def Settled (char : Char) : Prop :=
  ∀ earlier later, lowerChar earlier char later = [char]

private theorem settled_of_ascii {char : Char} (ascii : char.toNat < 0x80) (small : char.toLower = char) :
    Settled char := by
  intro earlier later
  rw [lowerChar, if_pos ascii, small]

/-- Lower case keeps what is in none of its tables. -/
theorem settled_of_missing {char : Char} (runs : CaseData.lowerRuns.findSome? (·.image? char.toNat) = none)
    (special : CaseData.lowerSpecial.lookup char.toNat = none) : Settled char := by
  by_cases ascii : char.toNat < 0x80
  · have capitals : ⟨0x41, 0x5A, 1, 32⟩ ∈ CaseData.lowerRuns := List.mem_cons_self ..
    have missing := List.findSome?_eq_none_iff.mp runs _ capitals
    have outside : ¬(0x41 ≤ char.toNat ∧ char.toNat ≤ 0x5A) := by
      simpa [CaseData.Run.image?, Nat.mod_one] using missing
    refine settled_of_ascii ascii ?_
    exact forall_ascii (motive := fun char => ¬(0x41 ≤ char.toNat ∧ char.toNat ≤ 0x5A) → char.toLower = char)
      (by decide) ascii outside
  · intro earlier later
    rw [lowerChar, if_neg ascii, caseImage, special, runs, Option.getD_none, Char.ofNat_toNat]
    refine if_neg ?_
    rintro rfl
    exact absurd runs (by decide +kernel)

/-- The image of a capital letter is none itself. -/
theorem settled_of_image? {run : CaseData.Run} (runMem : run ∈ CaseData.lowerRuns) {code : Nat} {image : Char}
    (moved : run.image? code = some image.toNat) : Settled image := by
  have misses : (CaseData.lowerRuns.all fun run => CaseData.lowerRuns.all run.misses) = true := by decide +kernel
  have apart : ∀ run ∈ CaseData.lowerRuns, ∀ entry ∈ CaseData.lowerSpecial,
      run.high < entry.1 ∨ entry.1 < run.low := by decide +kernel
  have above := le_low_of_mem_lowerRuns run runMem
  refine settled_of_missing ?_ ?_
  · rw [List.findSome?_eq_none_iff]
    intro other otherMem
    have missed := List.all_eq_true.mp (List.all_eq_true.mp misses run runMem) other otherMem
    exact CaseData.Run.image?_eq_none_of_misses missed (by omega) moved
  · rw [List.lookup_eq_none_iff]
    intro entry entryMem
    have bound := apart run runMem entry entryMem
    have inside := CaseData.Run.bounds_of_image? (by omega) moved
    rw [bne_iff_ne]
    omega

/-- What lower case gives, it keeps. -/
theorem settled_of_mem_lowerChar {earlier later : List Char} {char image : Char}
    (member : image ∈ lowerChar earlier char later) : Settled image := by
  rw [lowerChar] at member
  split_ifs at member with ascii
  · have small : char.toLower.toNat < 0x80 ∧ char.toLower.toLower = char.toLower :=
      forall_ascii (motive := fun char => char.toLower.toNat < 0x80 ∧ char.toLower.toLower = char.toLower)
        (by decide) ascii
    rw [List.mem_singleton.mp member]
    exact settled_of_ascii small.1 small.2
  · rw [List.mem_singleton.mp member]
    exact settled_of_missing (by decide +kernel) (by decide +kernel)
  · rw [List.mem_singleton.mp member]
    exact settled_of_missing (by decide +kernel) (by decide +kernel)
  · obtain ⟨entry, entryMem, code, codeMem, rfl⟩ | ⟨run, runMem, code, moved, same⟩ | ⟨rfl, special, runs⟩ :=
      mem_caseImage member
    · have specials : ∀ entry ∈ CaseData.lowerSpecial, ∀ code ∈ entry.2,
          CaseData.lowerRuns.findSome? (·.image? (Char.ofNat code).toNat) = none ∧
            CaseData.lowerSpecial.lookup (Char.ofNat code).toNat = none := by decide +kernel
      have missing := specials entry entryMem code codeMem
      exact settled_of_missing missing.1 missing.2
    · by_cases positive : 0 < image.toNat
      · exact settled_of_image? runMem (code_of_ofNat positive same ▸ moved)
      · have zero : image = Char.ofNat 0 := by
          rw [← Char.ofNat_toNat image, Nat.eq_zero_of_not_pos positive]
        rw [zero]
        exact settled_of_ascii (by decide) (by decide)
    · exact settled_of_missing runs special

theorem settled_of_mem_lower {text : String} {char : Char} (member : char ∈ (lower text).toList) :
    Settled char := by
  rw [lower, String.toList_ofList] at member
  generalize text.toList = chars at member
  generalize ([] : List Char) = earlier at member
  induction chars generalizing earlier with
  | nil => simp [lowerChars] at member
  | cons first later ih =>
    rw [lowerChars, List.mem_append] at member
    obtain here | behind := member
    · exact settled_of_mem_lowerChar here
    · exact ih _ behind

/-- Lower case keeps a text whose characters it keeps. -/
theorem lower_of_settled {text : String} (settled : ∀ char ∈ text.toList, Settled char) : lower text = text := by
  suffices same : ∀ earlier chars, (∀ char ∈ chars, Settled char) → lowerChars earlier chars = chars by
    rw [lower, same _ _ settled, String.ofList_toList]
  intro earlier chars kept
  induction chars generalizing earlier with
  | nil => rfl
  | cons char later ih =>
    obtain ⟨here, behind⟩ := List.forall_mem_cons.mp kept
    rw [lowerChars, here, ih _ behind, List.singleton_append]

def IsSmall (char : Char) : Prop :=
  0x61 ≤ char.toNat ∧ char.toNat ≤ 0x7A

instance (char : Char) : Decidable (IsSmall char) :=
  inferInstanceAs (Decidable (_ ∧ _))

/-- Upper case leaves no small ASCII letter and brings in none. -/
theorem not_mem_upper {text : String} (small : IsSmall stop) : stop ∉ (upper text).toList := by
  rw [upper, String.toList_ofList, List.mem_flatMap]
  rintro ⟨char, _, member⟩
  rw [upperChar] at member
  split_ifs at member with ascii
  · have raised : ¬IsSmall char.toUpper :=
      forall_ascii (motive := fun char => ¬IsSmall char.toUpper) (by decide) ascii
    rw [List.mem_singleton] at member
    exact raised (member ▸ small)
  · obtain ⟨first, last⟩ := small
    have runs : ∀ run ∈ CaseData.upperRuns, 0 < run.low ∧ (0x7A < run.low ∨ run.high < 0x61) := by
      decide +kernel
    have specials : ∀ entry ∈ CaseData.upperSpecial, ∀ code ∈ entry.2, 0x7A < code ∨ code < 0x61 := by
      decide +kernel
    refine not_mem_caseImage (by omega) (fun run runMem => ?_) (fun entry entryMem inside => ?_) ?_ member
    · have bound := runs run runMem
      omega
    · have bound := specials entry entryMem stop.toNat inside
      omega
    · rintro rfl
      omega

end HttpRouting.Text

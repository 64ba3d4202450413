import HttpRouting.Route.Resolution
import Mathlib.Data.List.TakeWhile

/-! # The rest of a path

What is left of a path behind some of its segments is a path again: `pathBelow` writes the rest of the
segments down, with the trailing slash that the path had, and cutting that text gives the rest back. A
handler that sees the path without the segments of a prefix sees just this text, and whatever else is
hidden from it is hidden in the rest.
-/

namespace HttpRouting

open Text

namespace Text

variable {separator stop : Char}

/-- Cutting at a separator cuts both sides. -/
theorem cut_append (separator : Char) (left right : String) :
    cut separator (left ++ String.singleton separator ++ right) = cut separator left ++ cut separator right := by
  simp [cut, List.append_assoc, List.splitOn_append_cons_self]

theorem cut_plain {text : String} (plain : separator ∉ text.toList) : cut separator text = [text] := by
  simp [cut, List.splitOn_eq_singleton plain]

theorem cut_ne_nil (separator : Char) (text : String) : cut separator text ≠ [] := by
  simp [cut]

theorem pieces_append (separator : Char) (left right : String) :
    pieces separator (left ++ String.singleton separator ++ right) =
      pieces separator left ++ pieces separator right := by
  rw [pieces, cut_append, List.filter_append, pieces, pieces]

@[simp] theorem pieces_empty (separator : Char) : pieces separator "" = [] := by
  simp [pieces, cut]

/-- A separator at either end cuts off nothing. -/
theorem pieces_separator_append (separator : Char) (text : String) :
    pieces separator (String.singleton separator ++ text) = pieces separator text := by
  have both := pieces_append separator "" text
  rwa [String.empty_append, pieces_empty, List.nil_append] at both

theorem pieces_append_separator (separator : Char) (text : String) :
    pieces separator (text ++ String.singleton separator) = pieces separator text := by
  have both := pieces_append separator text ""
  rwa [String.append_empty, pieces_empty, List.append_nil] at both

theorem pieces_solid {text : String} (some : text ≠ "") (plain : separator ∉ text.toList) :
    pieces separator text = [text] := by
  rw [pieces, cut_plain plain]
  simp [some]

theorem join_cons {glue text : String} {texts : List String} (some : texts ≠ []) :
    join glue (text :: texts) = text ++ glue ++ join glue texts :=
  String.intercalate_cons_of_ne_nil some

/-- Cutting what was joined cuts each text. -/
theorem pieces_join_eq_flatMap (texts : List String) :
    pieces separator (join (String.singleton separator) texts) = texts.flatMap (pieces separator) := by
  induction texts with
  | nil => exact pieces_empty separator
  | cons text texts ih =>
    by_cases last : texts = []
    · subst last
      simp [join]
    · rw [join_cons last, pieces_append, ih, List.flatMap_cons]

/-- Cutting what was joined gives the texts back. -/
theorem pieces_join {texts : List String} (solid : Solid separator texts) :
    pieces separator (join (String.singleton separator) texts) = texts := by
  rw [pieces_join_eq_flatMap]
  induction texts with
  | nil => rfl
  | cons text texts ih =>
    obtain ⟨⟨some, plain⟩, later⟩ := List.forall_mem_cons.mp solid
    rw [List.flatMap_cons, pieces_solid some plain, ih later, List.singleton_append]

/-- Joining all pieces of a text gives it back. -/
theorem join_cut (text : String) : join (String.singleton separator) (cut separator text) = text := by
  rw [← String.toList_inj, join, cut, String.toList_intercalate, List.map_map]
  simp [Function.comp_def, List.intercalate_splitOn]

/-- Cutting what was joined gives the texts back, empty ones included. -/
theorem cut_join {texts : List String} (some : texts ≠ [])
    (plain : ∀ text ∈ texts, separator ∉ text.toList) :
    cut separator (join (String.singleton separator) texts) = texts := by
  rw [cut, join, String.toList_intercalate, String.toList_singleton, List.splitOn_intercalate]
  · simp
  · simpa using plain
  · simpa using some

/-- A joined text does not end with the separator. -/
theorem getLast?_join {texts : List String} (present : texts ≠ []) (solid : Solid separator texts) :
    ∃ last, last ≠ separator ∧
      (join (String.singleton separator) texts).toList.getLast? = some last := by
  induction texts with
  | nil => contradiction
  | cons text texts ih =>
    obtain ⟨⟨filled, plain⟩, later⟩ := List.forall_mem_cons.mp solid
    by_cases alone : texts = []
    · subst alone
      have chars : text.toList ≠ [] := by simpa using filled
      refine ⟨text.toList.getLast chars, ?_, by simp [join, List.getLast?_eq_some_getLast chars]⟩
      exact fun same => plain (same ▸ List.getLast_mem chars)
    · obtain ⟨last, differs, ends⟩ := ih alone later
      exact ⟨last, differs, by simp [join_cons alone, List.getLast?_cons, ends]⟩

theorem mem_join_iff {texts : List String} (differs : stop ≠ separator) :
    stop ∈ (join (String.singleton separator) texts).toList ↔ ∃ text ∈ texts, stop ∈ text.toList := by
  induction texts with
  | nil => simp [join]
  | cons text texts ih =>
    by_cases alone : texts = []
    · subst alone
      simp [join]
    · simp [join_cons alone, differs, ih]

theorem not_mem_join {texts : List String} (differs : stop ≠ separator)
    (plain : ∀ text ∈ texts, stop ∉ text.toList) :
    stop ∉ (join (String.singleton separator) texts).toList := by
  rw [mem_join_iff differs]
  rintro ⟨text, member, inside⟩
  exact plain text member inside

/-- A joined text begins as the first of its texts does. -/
theorem head?_join_cons_iff {text : String} {texts : List String} (differs : stop ≠ separator) :
    (join (String.singleton separator) (text :: texts)).toList.head? = some stop ↔
      text.toList.head? = some stop := by
  by_cases alone : texts = []
  · subst alone
    simp [join]
  · rw [join_cons alone]
    cases split : text.toList with
    | nil => simp [split, differs.symm]
    | cons => simp [split]

theorem before_of_not_mem {text : String} (plain : stop ∉ text.toList) : before stop text = text := by
  rw [before, List.takeWhile_eq_self_iff.mpr, String.ofList_toList]
  intro char member
  simpa using fun same : char = stop => plain (same ▸ member)

theorem startsWith_iff_exists {head text : String} :
    startsWith head text = true ↔ ∃ rest, text = head ++ rest := by
  rw [startsWith_iff]
  constructor
  · rintro ⟨chars, split⟩
    exact ⟨String.ofList chars, by rw [← String.toList_inj]; simp [split]⟩
  · rintro ⟨rest, rfl⟩
    simp

theorem endsWith_singleton {char : Char} {text : String} :
    endsWith (String.singleton char) text = true ↔ text.toList.getLast? = some char := by
  simp [endsWith, List.singleton_suffix_iff_getLast?_eq_some]

end Text

/-- The raw segments of a path are not empty and hold neither a slash nor a question mark. -/
theorem solid_splitPath (path : String) :
    Solid '/' (splitPath path) ∧ ∀ segment ∈ splitPath path, '?' ∉ segment.toList := by
  refine ⟨solid_pieces _ _, fun segment member inside => ?_⟩
  obtain ⟨chars, charsMem, rfl⟩ := List.mem_map.mp (List.mem_filter.mp member).1
  have inPath := (mem_of_mem_splitOn charsMem '?' (by simpa using inside)).1
  rw [toList_before] at inPath
  simpa using List.mem_takeWhile_imp inPath

/-- The path of the raw segments behind the first ones. It keeps a trailing slash when segments are
left. -/
def pathBelow (path : String) (count : Nat) : String :=
  let rest := (splitPath path).drop count
  let trailing := if !rest.isEmpty && endsWith "/" (before '?' path) then "/" else ""
  "/" ++ join "/" rest ++ trailing

theorem before_pathBelow (path : String) (count : Nat) :
    before '?' (pathBelow path count) = pathBelow path count := by
  apply before_of_not_mem
  have segments : ∀ segment ∈ (splitPath path).drop count, '?' ∉ segment.toList :=
    fun segment member => (solid_splitPath path).2 segment (List.mem_of_mem_drop member)
  have slash : '?' ≠ '/' := by decide
  have joined := not_mem_join slash segments
  rw [pathBelow]
  simp only [String.toList_append, List.mem_append, not_or]
  refine ⟨⟨by decide, joined⟩, ?_⟩
  split_ifs <;> decide

/-- The raw segments of what is left are those that are left. -/
theorem splitPath_pathBelow (path : String) (count : Nat) :
    splitPath (pathBelow path count) = (splitPath path).drop count := by
  have solid : Solid '/' ((splitPath path).drop count) :=
    fun segment member => (solid_splitPath path).1 segment (List.mem_of_mem_drop member)
  have front : pieces '/' ("/" ++ join "/" ((splitPath path).drop count)) = (splitPath path).drop count :=
    (pieces_separator_append '/' _).trans (pieces_join solid)
  rw [splitPath, before_pathBelow, pathBelow]
  split_ifs
  · exact (pieces_append_separator '/' _).trans front
  · rw [String.append_empty, front]

/-- When segments are left, what is left ends with a slash exactly when the path did. -/
theorem endsWith_pathBelow {path : String} {count : Nat} (left : (splitPath path).drop count ≠ []) :
    endsWith "/" (pathBelow path count) = endsWith "/" (before '?' path) := by
  have solid : Solid '/' ((splitPath path).drop count) :=
    fun segment member => (solid_splitPath path).1 segment (List.mem_of_mem_drop member)
  obtain ⟨last, differs, ends⟩ := getLast?_join left solid
  have opened : ("/" ++ join "/" ((splitPath path).drop count)).toList.getLast? = some last := by
    change (join "/" _).toList.getLast? = some last at ends
    simp [List.getLast?_cons, ends]
  rw [pathBelow]
  cases endsWith "/" (before '?' path) with
  | true => simp [left, endsWith]
  | false =>
    rw [Bool.and_false, if_neg Bool.false_ne_true, String.append_empty, ← Bool.not_eq_true]
    change ¬endsWith (String.singleton '/') _ = true
    rw [endsWith_singleton, opened]
    simpa using differs

/-- The segments that stay visible when those at some positions are hidden. -/
def visible (raw : List String) (hidden : List Nat) : List String :=
  (raw.zipIdx.filter fun pair => !hidden.contains pair.2).map (·.1)

@[simp] theorem visible_nil (raw : List String) : visible raw [] = raw := by
  rw [visible, List.filter_eq_self.mpr (by simp), List.zipIdx_map_fst]

theorem handlerPath_eq (path : String) (raw : List String) (hidden : List Nat) :
    handlerPath path raw hidden =
      if hidden.isEmpty then before '?' path
      else "/" ++ join "/" (visible raw hidden) ++
        if !(visible raw hidden).isEmpty && endsWith "/" (before '?' path) then "/" else "" :=
  rfl

/-- Hiding all of a beginning, and more behind it, is hiding the latter in what comes behind it. -/
theorem visible_append (front rest : List String) (own : List Nat) :
    visible (front ++ rest) (List.range front.length ++ own.map (· + front.length)) =
      visible rest own := by
  have hidden : front.zipIdx.filter (fun pair =>
      !(List.range front.length ++ own.map (· + front.length)).contains pair.2) = [] := by
    rw [List.filter_eq_nil_iff]
    rintro ⟨segment, place⟩ member
    have within := (List.mem_zipIdx' member).1
    simp [within]
  have moved : (fun pair : String × Nat =>
      !(List.range front.length ++ own.map (· + front.length)).contains (front.length + pair.2)) =
      fun pair => !own.contains pair.2 := by
    funext pair
    simp [Nat.add_comm]
  rw [visible, List.zipIdx_append, List.filter_append, hidden, List.nil_append, Nat.zero_add,
    List.zipIdx_eq_map_add, List.filter_map, List.map_map]
  simp only [Function.comp_def, moved]
  rfl

/-- A handler of the rest of the path sees what it sees of the path itself without the first segments. -/
theorem handlerPath_pathBelow {path : String} {count : Nat} (proper : count ≠ 0)
    (within : count ≤ (splitPath path).length) (own : List Nat) :
    handlerPath path (splitPath path) (List.range count ++ own.map (· + count)) =
      handlerPath (pathBelow path count) ((splitPath path).drop count) own := by
  have seen : visible (splitPath path) (List.range count ++ own.map (· + count)) =
      visible ((splitPath path).drop count) own := by
    have split := visible_append ((splitPath path).take count) ((splitPath path).drop count) own
    rwa [List.take_append_drop, List.length_take, Nat.min_eq_left within] at split
  have hides : (List.range count ++ own.map (· + count)).isEmpty = false := by
    simp [proper]
  rw [handlerPath_eq, hides, seen, handlerPath_eq, before_pathBelow, if_neg Bool.false_ne_true]
  by_cases bare : own = []
  · rw [bare, visible_nil, pathBelow]
    rfl
  · have hides' : own.isEmpty = false := by simpa using bare
    rw [hides', if_neg Bool.false_ne_true]
    by_cases left : (splitPath path).drop count = []
    · rw [left]
      rfl
    · rw [endsWith_pathBelow left]

end HttpRouting

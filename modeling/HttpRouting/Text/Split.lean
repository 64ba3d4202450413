/-! # Texts cut at a separator

Paths, host names, method lists and settings keys are all read by cutting a text at one character.
`cut` keeps the empty pieces, so that gluing the pieces together again gives the text back; `pieces`
drops them, which is how a path forgets doubled and trailing slashes.
-/

namespace HttpRouting.Text

/-- The pieces of `text` between occurrences of `separator`, empty ones included. -/
def cut (separator : Char) (text : String) : List String :=
  (text.toList.splitOn separator).map String.ofList

/-- The non-empty pieces of `text` between occurrences of `separator`. -/
def pieces (separator : Char) (text : String) : List String :=
  (cut separator text).filter (· ≠ "")

/-- The part of `text` before the first `stop`, or all of it. -/
def before (stop : Char) (text : String) : String :=
  String.ofList (text.toList.takeWhile (· ≠ stop))

def skip (count : Nat) (text : String) : String :=
  String.ofList (text.toList.drop count)

def startsWith (head text : String) : Bool :=
  head.toList.isPrefixOf text.toList

def endsWith (tail text : String) : Bool :=
  tail.toList.isSuffixOf text.toList

/-- `text` without any `last` at its end. -/
def dropTrailing (last : Char) (text : String) : String :=
  String.ofList (text.toList.reverse.dropWhile (· = last)).reverse

def dropOneTrailing (last : Char) (text : String) : String :=
  if text.toList.getLast? = some last then String.ofList text.toList.dropLast else text

/-- `text` without the characters of `blank` at either end. -/
def trim (blank : Char → Bool) (text : String) : String :=
  String.ofList ((text.toList.dropWhile blank).reverse.dropWhile blank).reverse

/-- `texts` written one after the other with `glue` between neighbours. -/
def join (glue : String) (texts : List String) : String :=
  glue.intercalate texts

theorem toList_before (stop : Char) (text : String) :
    (before stop text).toList = text.toList.takeWhile (· ≠ stop) := by
  simp [before]

theorem startsWith_iff {head text : String} :
    startsWith head text = true ↔ head.toList <+: text.toList := by
  simp [startsWith]

theorem mem_pieces_ne_empty {separator : Char} {text piece : String}
    (member : piece ∈ pieces separator text) : piece ≠ "" := by
  simpa using (List.mem_filter.mp member).2

/-- A piece between separators has no separator, and nothing that the text does not have. -/
theorem mem_of_mem_splitOn {separator : Char} {chars piece : List Char} (member : piece ∈ chars.splitOn separator) :
    ∀ char ∈ piece, char ∈ chars ∧ char ≠ separator := by
  induction chars generalizing piece with
  | nil => simp_all
  | cons first rest ih =>
    rw [List.splitOn_cons_eq_if_modifyHead] at member
    by_cases same : first = separator
    · rw [if_pos (by simpa using same)] at member
      rcases List.mem_cons.mp member with rfl | later
      · simp
      · exact fun char charMem => ⟨List.mem_cons_of_mem _ (ih later char charMem).1, (ih later char charMem).2⟩
    · obtain ⟨head, others, split⟩ := List.exists_cons_of_ne_nil (List.splitOn_ne_nil separator rest)
      rw [if_neg (by simpa using same), split] at member
      rw [split] at ih
      rcases List.mem_cons.mp member with rfl | later
      · intro char charMem
        rcases List.mem_cons.mp charMem with rfl | inside
        · exact ⟨List.mem_cons_self .., same⟩
        · obtain ⟨old, differs⟩ := ih (List.mem_cons_self ..) char inside
          exact ⟨List.mem_cons_of_mem _ old, differs⟩
      · intro char charMem
        obtain ⟨old, differs⟩ := ih (List.mem_cons_of_mem _ later) char charMem
        exact ⟨List.mem_cons_of_mem _ old, differs⟩

/-- Texts that stand between separators: not empty, and without the separator. -/
def Solid (separator : Char) (texts : List String) : Prop :=
  ∀ text ∈ texts, text ≠ "" ∧ separator ∉ text.toList

theorem solid_pieces (separator : Char) (text : String) : Solid separator (pieces separator text) := by
  intro piece member
  refine ⟨mem_pieces_ne_empty member, fun inside => ?_⟩
  obtain ⟨chars, charsMem, rfl⟩ := List.mem_map.mp (List.mem_filter.mp member).1
  exact (mem_of_mem_splitOn charsMem _ (by simpa using inside)).2 rfl

end HttpRouting.Text

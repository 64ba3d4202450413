import HttpRouting.Proofs.PatternSegments
import HttpRouting.Proofs.Lists
import Mathlib.Data.List.DropRight

/-! # Patterns written one after the other

The text of two joined patterns is read as the segments of both, and joining three patterns gives the same
pattern, and succeeds for the same ones, whichever two are joined first. What a list of segments must be to be
a pattern is said without its beginning: only the last one may be a wildcard, and names differ.
-/

namespace HttpRouting

open Text

namespace Text

variable {last : Char}

theorem toList_dropTrailing (last : Char) (text : String) :
    (dropTrailing last text).toList = text.toList.rdropWhile (· = last) := by
  simp [dropTrailing, List.rdropWhile]

@[simp] theorem dropTrailing_empty : dropTrailing last "" = "" := rfl

private theorem dropTrailing_concat (text : String) (char : Char) :
    dropTrailing last (text ++ String.singleton char) =
      if char = last then dropTrailing last text else text ++ String.singleton char := by
  rw [← String.toList_inj, toList_dropTrailing, String.toList_append, String.toList_singleton,
    List.rdropWhile_concat]
  by_cases same : char = last
  · simp [same, toList_dropTrailing]
  · simp [same]

/-- What holds of the empty text and of every text with one more character at its end holds of all. -/
theorem reverseInduction {motive : String → Prop} (text : String) (empty : motive "")
    (concat : ∀ text char, motive text → motive (text ++ String.singleton char)) : motive text := by
  obtain ⟨chars, rfl⟩ : ∃ chars, text = String.ofList chars := ⟨_, (String.ofList_toList).symm⟩
  induction chars using List.reverseRecOn with
  | nil => exact empty
  | append_singleton chars char ih =>
    rw [String.ofList_append]
    exact concat _ char ih

private theorem dropTrailing_idem (text : String) :
    dropTrailing last (dropTrailing last text) = dropTrailing last text := by
  rw [← String.toList_inj, toList_dropTrailing, toList_dropTrailing, List.rdropWhile_idempotent]

/-- What follows a text that does not end with `last` is shortened alone. -/
theorem dropTrailing_append (left right : String) :
    dropTrailing last (dropTrailing last left ++ right) = dropTrailing last left ++ dropTrailing last right := by
  induction right using reverseInduction with
  | empty => simp [dropTrailing_idem]
  | concat right char ih =>
    rw [← String.append_assoc, dropTrailing_concat, dropTrailing_concat, ih]
    split_ifs
    · rfl
    · rw [String.append_assoc]

private theorem pieces_dropTrailing (text : String) : pieces last (dropTrailing last text) = pieces last text := by
  induction text using reverseInduction with
  | empty => rfl
  | concat text char ih =>
    rw [dropTrailing_concat]
    split_ifs with same
    · rw [ih, same, pieces_append_separator]
    · rfl

end Text

/-- A list of segments is sound when only its last one is a wildcard and its names differ from each other and
from those used before. -/
theorem segmentFault?_eq_none_iff {used : List String} {segments : List Segment} :
    segmentFault? used segments = none ↔
      (∀ segment ∈ segments.dropLast, segment.isWildcard = false) ∧
        (segments.filterMap Segment.name?).Nodup ∧ ∀ name ∈ segments.filterMap Segment.name?, name ∉ used := by
  induction segments generalizing used with
  | nil => simp [segmentFault?]
  | cons segment rest ih =>
    have front : (∀ other ∈ (segment :: rest).dropLast, other.isWildcard = false) ↔
        ¬(segment.isWildcard = true ∧ rest ≠ []) ∧ ∀ other ∈ rest.dropLast, other.isWildcard = false := by
      cases rest <;> simp
    rw [segmentFault?, front, List.filterMap_cons]
    split_ifs with misplaced
    · exact iff_of_false (by simp) fun sound => sound.1.1 misplaced
    · rw [and_iff_right misplaced]
      cases segment.name? with
      | none => exact ih
      | some name =>
        rw [nodup_cons_apart_iff]
        by_cases taken : name ∈ used
        · simp [taken]
        · simp [taken, ih]

/-- The beginning and the end of a sound list of segments are sound. -/
theorem segmentFault?_append {front rest : List Segment} (sound : segmentFault? [] (front ++ rest) = none) :
    segmentFault? [] front = none ∧ segmentFault? [] rest = none := by
  obtain ⟨last, unique, _⟩ := segmentFault?_eq_none_iff.mp sound
  rw [List.filterMap_append] at unique
  refine ⟨segmentFault?_eq_none_iff.mpr ⟨fun segment member => last segment ?_, unique.of_append_left, by simp⟩,
    segmentFault?_eq_none_iff.mpr ⟨fun segment member => last segment ?_, unique.of_append_right, by simp⟩⟩
  · rw [List.dropLast_append]
    split_ifs with empty
    · exact member
    · exact List.mem_append_left _ ((List.dropLast_sublist _).subset member)
  · rw [List.dropLast_append_of_ne_nil (List.ne_nil_of_mem ((List.dropLast_sublist _).subset member))]
    exact List.mem_append_right _ member

def Rooted (source : String) : Prop :=
  source.toList.head? = some '/'

private theorem rooted_iff {source : String} : Rooted source ↔ startsWith "/" source = true := by
  rw [startsWith_iff, Rooted]
  simp [List.singleton_prefix_iff_head?_eq_some]

theorem withLeadingSlash_of_rooted {source : String} (rooted : Rooted source) : withLeadingSlash source = source :=
  if_pos (rooted_iff.mp rooted)

theorem rooted_withLeadingSlash (text : String) : Rooted (withLeadingSlash text) := by
  rw [withLeadingSlash]
  split_ifs with rooted
  · exact rooted_iff.mpr rooted
  · simp [Rooted]

theorem pieces_withLeadingSlash (text : String) : pieces '/' (withLeadingSlash text) = pieces '/' text := by
  rw [withLeadingSlash]
  split_ifs
  · rfl
  · exact pieces_separator_append '/' text

namespace Pattern

/-- What stands of a source behind another one: nothing for the root. -/
def bare (source : String) : String :=
  if source = "/" then "" else source

/-- The source that a text is: the root for nothing. -/
def written (text : String) : String :=
  if text = "" then "/" else text

theorem joinSources_eq (head tail : String) :
    joinSources head tail = written (dropTrailing '/' head ++ bare tail) := by
  have front : (if head = "/" then "" else dropTrailing '/' head) = dropTrailing '/' head := by
    split_ifs with root
    · subst root
      rfl
    · rfl
  rw [joinSources, front]
  rfl

private theorem pieces_written (text : String) : pieces '/' (written text) = pieces '/' text := by
  rw [written]
  split_ifs with empty
  · subst empty
    rfl
  · rfl

private theorem dropTrailing_written (text : String) : dropTrailing '/' (written text) = dropTrailing '/' text := by
  rw [written]
  split_ifs with empty
  · subst empty
    rfl
  · rfl

private theorem dropTrailing_bare (source : String) : dropTrailing '/' (bare source) = dropTrailing '/' source := by
  rw [bare]
  split_ifs with root
  · subst root
    rfl
  · rfl

/-- Behind a text that does not end with a slash there is never just one. -/
theorem bare_written (left right : String) :
    bare (written (dropTrailing '/' left ++ bare right)) = dropTrailing '/' left ++ bare right := by
  have single : dropTrailing '/' left ++ bare right ≠ "/" := by
    intro same
    have none : dropTrailing '/' left = "" := by
      have shortened := congrArg (dropTrailing '/') same
      rw [dropTrailing_append] at shortened
      exact (String.append_eq_empty_iff.mp shortened).1
    rw [none, String.empty_append, bare] at same
    split_ifs at same with root
    · exact absurd same (by decide)
    · exact root same
  rw [written]
  split_ifs with empty
  · rw [empty]
    rfl
  · exact if_neg single

/-- Three sources written one after the other are the same text whichever two are joined first. -/
theorem joinSources_assoc (first second third : String) :
    joinSources (joinSources first second) third = joinSources first (joinSources second third) := by
  simp only [joinSources_eq]
  rw [bare_written, dropTrailing_written, dropTrailing_append, dropTrailing_bare, String.append_assoc]

private theorem rooted_joinSources {head tail : String} (front : Rooted head) (back : Rooted tail) :
    Rooted (joinSources head tail) := by
  rw [joinSources_eq, written]
  split_ifs with empty
  · simp [Rooted]
  · by_cases none : dropTrailing '/' head = ""
    · rw [none, String.empty_append, bare] at empty ⊢
      split_ifs at empty ⊢ with root
      · exact absurd rfl empty
      · exact back
    · have beginning : (dropTrailing '/' head).toList <+: head.toList := by
        rw [toList_dropTrailing]
        exact List.rdropWhile_prefix _ _
      obtain ⟨rest, split⟩ := beginning
      have some : (dropTrailing '/' head).toList ≠ [] := by simpa using none
      rw [Rooted, ← split, List.head?_append_of_ne_nil _ some] at front
      rw [Rooted, String.toList_append, List.head?_append_of_ne_nil _ some, front]

/-- The text of two joined patterns is cut into the pieces of both. -/
theorem pieces_joinSources (head : String) {tail : String} (rooted : Rooted tail) :
    pieces '/' (joinSources head tail) = pieces '/' head ++ pieces '/' tail := by
  obtain ⟨rest, rfl⟩ : ∃ rest, tail = String.singleton '/' ++ rest := by
    obtain ⟨chars, spelled⟩ := List.head?_eq_some_iff.mp rooted
    exact ⟨String.ofList chars, by rw [← String.toList_inj, spelled]; simp⟩
  rw [joinSources_eq, pieces_written, bare]
  split_ifs with root
  · have none : pieces '/' "/" = [] := by decide +kernel
    rw [root, String.append_empty, pieces_dropTrailing, none, List.append_nil]
  · rw [← String.append_assoc, pieces_append, pieces_dropTrailing,
      pieces_separator_append]

theorem ofSegments_eq_ok {source : String} {segments : List Segment}
    {unbroken : ∀ segment ∈ segments, segment.Unbroken} {pattern : Pattern} :
    ofSegments source segments unbroken = .ok pattern ↔
      pattern.source = withLeadingSlash source ∧ pattern.segments = segments := by
  constructor
  · intro made
    rw [ofSegments] at made
    split at made
    · cases made
    · cases made
      exact ⟨rfl, rfl⟩
  · obtain ⟨_, _, sound, _⟩ := pattern
    rintro ⟨rfl, rfl⟩
    rw [ofSegments]
    split
    · rename_i cause fault
      rw [sound] at fault
      cases fault
    · rfl

theorem exists_ofSegments_iff {source : String} {segments : List Segment}
    {unbroken : ∀ segment ∈ segments, segment.Unbroken} :
    (∃ pattern, ofSegments source segments unbroken = .ok pattern) ↔ segmentFault? [] segments = none := by
  constructor
  · rintro ⟨pattern, made⟩
    obtain ⟨_, rfl⟩ := ofSegments_eq_ok.mp made
    exact pattern.sound
  · intro sound
    exact ⟨⟨_, _, sound, unbroken⟩, ofSegments_eq_ok.mpr ⟨rfl, rfl⟩⟩

variable {head middle tail pattern : Pattern}

/-- Patterns with a slash in front are joined to the pattern of their joined texts and of all their segments. -/
theorem join_eq_ok (front : Rooted head.source) (back : Rooted tail.source) :
    head.join tail = .ok pattern ↔ pattern.source = joinSources head.source tail.source ∧
      pattern.segments = head.segments ++ tail.segments := by
  rw [join, ofSegments_eq_ok, withLeadingSlash_of_rooted (rooted_joinSources front back)]

theorem rooted_of_join (joined : head.join tail = .ok pattern) : Rooted pattern.source := by
  obtain ⟨same, _⟩ := ofSegments_eq_ok.mp joined
  rw [same]
  exact rooted_withLeadingSlash _

/-- Three patterns joined are the same pattern whichever two are joined first, if they can be joined. -/
theorem join_assoc (first : Rooted head.source) (second : Rooted middle.source) (third : Rooted tail.source) :
    (∃ inner, middle.join tail = .ok inner ∧ head.join inner = .ok pattern) ↔
      ∃ outer, head.join middle = .ok outer ∧ outer.join tail = .ok pattern := by
  constructor
  · rintro ⟨inner, behind, whole⟩
    obtain ⟨source, segments⟩ := (join_eq_ok second third).mp behind
    obtain ⟨source', segments'⟩ := (join_eq_ok first (rooted_of_join behind)).mp whole
    rw [segments, ← List.append_assoc] at segments'
    rw [source, ← joinSources_assoc] at source'
    obtain ⟨outer, ahead⟩ := exists_ofSegments_iff.mpr (segmentFault?_append (segments' ▸ pattern.sound)).1
    obtain ⟨outerSource, outerSegments⟩ := (join_eq_ok first second).mp ahead
    refine ⟨outer, ahead, (join_eq_ok (rooted_of_join ahead) third).mpr ?_⟩
    rw [outerSource, outerSegments]
    exact ⟨source', segments'⟩
  · rintro ⟨outer, ahead, whole⟩
    obtain ⟨source, segments⟩ := (join_eq_ok first second).mp ahead
    obtain ⟨source', segments'⟩ := (join_eq_ok (rooted_of_join ahead) third).mp whole
    rw [segments, List.append_assoc] at segments'
    rw [source, joinSources_assoc] at source'
    obtain ⟨inner, behind⟩ := exists_ofSegments_iff.mpr (segmentFault?_append (segments' ▸ pattern.sound)).2
    obtain ⟨innerSource, innerSegments⟩ := (join_eq_ok second third).mp behind
    refine ⟨inner, behind, (join_eq_ok first (rooted_of_join behind)).mpr ?_⟩
    rw [innerSource, innerSegments]
    exact ⟨source', segments'⟩

theorem compile_eq_ok {text : String} :
    compile text = .ok pattern ↔ text ≠ "" ∧ pattern.source = withLeadingSlash text ∧
      List.Forall₂ (fun piece segment => Segment.read piece = .ok segment) (pieces '/' text) pattern.segments := by
  rw [compile, ← mapM_eq_ok]
  by_cases empty : text = ""
  · simp [empty]
  · rw [if_neg empty, and_iff_right empty]
    split
    · rename_i cause read
      simp [read]
    · rename_i segments read
      simp only [read, ofSegments_eq_ok, Except.ok.injEq, eq_comm (a := segments)]

/-- What is read from the pieces of a text are the segments of its pattern, if they make one. -/
theorem compile_of_read {text : String} {segments : List Segment} (filled : text ≠ "")
    (read : (pieces '/' text).mapM Segment.read = .ok segments)
    (unbroken : ∀ segment ∈ segments, segment.Unbroken) : compile text = ofSegments text segments unbroken := by
  rw [compile, if_neg filled]
  split
  · rename_i failed
    cases failed.symm.trans read
  · rename_i found
    cases found.symm.trans read
    rfl

theorem rooted_of_compile {text : String} (compiled : compile text = .ok pattern) : Rooted pattern.source := by
  rw [(compile_eq_ok.mp compiled).2.1]
  exact rooted_withLeadingSlash text

private theorem joinSources_ne_empty (head tail : String) : joinSources head tail ≠ "" := by
  rw [joinSources_eq, written]
  split_ifs with empty
  · decide
  · exact empty

/-- The pieces of the joined text are read as the segments of both patterns. -/
theorem read_joinSources {front back : String} (ahead : compile front = .ok head)
    (behind : compile back = .ok tail) :
    (pieces '/' (joinSources head.source tail.source)).mapM Segment.read =
      .ok (head.segments ++ tail.segments) := by
  obtain ⟨_, source, reads⟩ := compile_eq_ok.mp ahead
  obtain ⟨_, source', reads'⟩ := compile_eq_ok.mp behind
  have cut : pieces '/' (joinSources head.source tail.source) = pieces '/' front ++ pieces '/' back := by
    rw [pieces_joinSources _ (rooted_of_compile behind), source, source', pieces_withLeadingSlash,
      pieces_withLeadingSlash]
  rw [cut, mapM_eq_ok]
  exact List.rel_append reads reads'

/-- Joining patterns is compiling their joined text, whatever comes of it. -/
theorem join_eq_compile {front back : String} (ahead : compile front = .ok head)
    (behind : compile back = .ok tail) : head.join tail = compile (joinSources head.source tail.source) := by
  rw [compile_of_read (joinSources_ne_empty _ _) (read_joinSources ahead behind)
    (List.forall_mem_append.mpr ⟨head.unbroken, tail.unbroken⟩)]
  rfl

/-- The text of joined patterns spells the joined pattern. -/
theorem compile_source_of_join {front back : String} (ahead : compile front = .ok head)
    (behind : compile back = .ok tail) (joined : head.join tail = .ok pattern) :
    compile pattern.source = .ok pattern := by
  obtain ⟨spelled, _⟩ := (join_eq_ok (rooted_of_compile ahead) (rooted_of_compile behind)).mp joined
  rw [spelled, ← join_eq_compile ahead behind, joined]

theorem hasWildcard_eq_false_iff :
    pattern.hasWildcard = false ↔ ∀ segment ∈ pattern.segments, segment.isWildcard = false := by
  refine ⟨isWildcard_eq_false, fun plain => ?_⟩
  rw [hasWildcard]
  cases last : pattern.segments.getLast? with
  | none => rfl
  | some segment => exact plain segment (List.mem_of_getLast? last)

/-- A joined pattern has no wildcard when none of its parts has one. -/
theorem hasWildcard_of_join (joined : head.join tail = .ok pattern) :
    pattern.hasWildcard = false ↔ head.hasWildcard = false ∧ tail.hasWildcard = false := by
  obtain ⟨_, segments⟩ := ofSegments_eq_ok.mp joined
  rw [hasWildcard_eq_false_iff, hasWildcard_eq_false_iff, hasWildcard_eq_false_iff, segments, List.forall_mem_append]

theorem under_eq_ok : head.under tail = .ok pattern ↔ head.join tail = .ok pattern := by
  rw [under]
  cases head.join tail <;> simp

/-- What a pattern hides in front of what another one hides is what both joined hide. -/
theorem hidden_hidden (joined : head.join tail = .ok pattern) (own : List Nat) :
    head.hidden true (tail.hidden true own) = pattern.hidden true own := by
  obtain ⟨_, segments⟩ := ofSegments_eq_ok.mp joined
  have moved : (fun place => place + head.segments.length) ∘ (fun place => place + tail.segments.length) =
      fun place => place + pattern.segments.length := by
    funext place
    simp [segments]
    omega
  have positions : pattern.positions = head.positions ++ tail.positions.map (· + head.segments.length) := by
    simp [Pattern.positions, segments, List.range_add, Nat.add_comm]
  rw [hidden, hidden, hidden, if_pos rfl, if_pos rfl, if_pos rfl, List.map_append, List.map_map, moved, positions,
    List.append_assoc]

end Pattern

end HttpRouting

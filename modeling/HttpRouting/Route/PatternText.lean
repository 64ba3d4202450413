import HttpRouting.Route.Pattern

/-! # Reading patterns

The text of a pattern is cut at its slashes, empty pieces are dropped, and the first character of a
piece says which segment it is. All pieces are read before the list of segments is judged, so a
malformed piece is reported before a misplaced wildcard or a repeated name.
-/

namespace HttpRouting

open Text

def beginsCaptureName (char : Char) : Bool :=
  char.isAlpha || char = '_'

/-- Whether a text is a capture's name: an ASCII letter or underscore, then letters, digits and
underscores. -/
def isCaptureName (text : String) : Bool :=
  match text.toList with
  | [] => false
  | first :: rest => beginsCaptureName first && rest.all fun char => char.isAlphanum || char = '_'

/-- The name written after a `:` or `*`; no text at all is no name. -/
def readName (text : String) : Except PatternCause (Option String) :=
  if text = "" then .ok none
  else if isCaptureName text then .ok (some text)
  else .error (.badName text)

def readConstraint (text : String) : Except PatternCause Constraint :=
  let source := String.ofList (text.toList.drop 1).dropLast
  if !endsWith ">" text || text.toList.length < 2 then .error (.unterminatedRegex text)
  else if source = "" then .error .emptyRegex
  else
    match Constraint.ofSource? source with
    | some constraint => .ok constraint
    | none => .error (.invalidRegex source)

def Segment.read (piece : String) : Except PatternCause Segment :=
  match piece.toList with
  | '*' :: name => return .wildcard (← readName (String.ofList name))
  | ':' :: rest => do
    let name ← readName (String.ofList (rest.takeWhile (· ≠ '<')))
    match rest.dropWhile (· ≠ '<') with
    | [] => return .capture name
    | constraint => return .constrained name (← readConstraint (String.ofList constraint))
  | '<' :: _ => return .constrained none (← readConstraint piece)
  | _ => return .literal piece

/-- A constraint's source is a part of the text that it is read from. -/
theorem source_of_readConstraint {text : String} {constraint : Constraint}
    (made : readConstraint text = .ok constraint) :
    ∀ char ∈ constraint.source.toList, char ∈ text.toList := by
  rw [readConstraint] at made
  split at made
  · cases made
  split at made
  · cases made
  split at made
  · rename_i found given
    cases made
    rw [Constraint.ofSource?] at given
    split at given
    · cases given
      intro char member
      rw [String.toList_ofList] at member
      exact List.mem_of_mem_drop ((List.dropLast_sublist _).subset member)
    · cases given
  · cases made

theorem Segment.unbroken_of_read {piece : String} {segment : Segment} (filled : piece ≠ "")
    (plain : '/' ∉ piece.toList) (made : Segment.read piece = .ok segment) : segment.Unbroken := by
  rw [Segment.read] at made
  split at made
  · rename_i name _
    cases named : readName (String.ofList name) <;> rw [named] at made <;> cases made
    trivial
  · rename_i rest spelled
    cases named : readName (String.ofList (rest.takeWhile (· ≠ '<'))) <;> rw [named] at made
    · cases made
    dsimp only [Bind.bind, Except.bind] at made
    split at made
    · cases made
      trivial
    · cases read : readConstraint (String.ofList (rest.dropWhile (· ≠ '<'))) <;> rw [read] at made <;> cases made
      intro member
      have inside := source_of_readConstraint read _ member
      rw [String.toList_ofList] at inside
      have inRest := (List.dropWhile_sublist _).subset inside
      exact plain (spelled ▸ List.mem_cons_of_mem _ inRest)
  · cases read : readConstraint piece <;> rw [read] at made <;> cases made
    exact fun member => plain (source_of_readConstraint read _ member)
  · cases made
    exact ⟨filled, plain⟩

/-- What is read from the pieces between slashes fits between slashes. -/
theorem Segment.unbroken_of_mapM_read {texts : List String} {segments : List Segment} (solid : Solid '/' texts)
    (made : texts.mapM Segment.read = .ok segments) : ∀ segment ∈ segments, segment.Unbroken := by
  induction texts generalizing segments with
  | nil =>
    cases made
    simp
  | cons piece texts ih =>
    rw [List.mapM_cons] at made
    cases first : Segment.read piece <;> rw [first] at made
    · cases made
    cases later : texts.mapM Segment.read <;> simp only [later, Bind.bind, Except.bind] at made <;> cases made
    obtain ⟨⟨filled, plain⟩, solid⟩ := List.forall_mem_cons.mp solid
    exact List.forall_mem_cons.mpr ⟨unbroken_of_read filled plain first, ih solid later⟩

/-- The pattern that a text spells. -/
def Pattern.compile (text : String) : Except PatternError Pattern :=
  if text = "" then .error ⟨text, .empty⟩
  else
    match made : (pieces '/' text).mapM Segment.read with
    | .error cause => .error ⟨text, cause⟩
    | .ok segments => Pattern.ofSegments text segments (Segment.unbroken_of_mapM_read (solid_pieces '/' text) made)

end HttpRouting

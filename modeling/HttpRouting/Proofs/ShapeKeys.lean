import HttpRouting.Proofs.PatternSegments
import HttpRouting.Proofs.LetterCase
import HttpRouting.Route.Shape

/-! # Written shapes

The written form of a shape tells shapes of patterns apart: its parts are joined by slashes, none of them
holds one, and the first character of a part says what it is. Letter case can bring in neither a slash nor a
question mark, and it takes none away.
-/

namespace HttpRouting

open Text

namespace Edge

/-- The first character says what a part is, and what follows it says which one. -/
theorem text_inj {left right : Edge} (same : left.text = right.text) : left = right := by
  have chars := congrArg String.toList same
  cases left <;> cases right <;> simp [text, String.toList_append] at chars ⊢ <;>
    exact String.toList_injective chars

private theorem text_ne_empty (edge : Edge) : edge.text ≠ "" := by
  intro empty
  have chars := congrArg String.toList empty
  cases edge <;> simp [text, String.toList_append] at chars

end Edge

/-- What literals are compared by holds the same signs as they do. -/
theorem mem_literalKey_iff {stop : Char} (sign : IsSign stop) {ignoreCase : Bool}
    {value : String} : stop ∈ (literalKey ignoreCase value).toList ↔ stop ∈ value.toList := by
  rw [literalKey]
  split_ifs
  · exact mem_lower_iff sign
  · exact Iff.rfl

/-- A part that a segment of a path contributes holds no slash. -/
theorem Segment.Unbroken.slash_not_mem {segment : Segment} (unbroken : segment.Unbroken) (ignoreCase : Bool) :
    '/' ∉ (segment.edge ignoreCase).text.toList := by
  cases segment with
  | literal value =>
    have key : '/' ∉ (literalKey ignoreCase value).toList := mt (mem_literalKey_iff (by decide)).mp unbroken.2
    simpa [edge, Edge.text, String.toList_append] using key
  | capture => simp [edge, Edge.text]
  | constrained name constraint =>
    have source : '/' ∉ constraint.source.toList := unbroken
    simpa [edge, Edge.text, String.toList_append] using source
  | wildcard => simp [edge, Edge.text]

namespace Pattern

private theorem pieces_shapeKey (pattern : Pattern) (ignoreCase : Bool) :
    pieces '/' (pattern.shapeKey ignoreCase) = (pattern.shape ignoreCase).map Edge.text := by
  have solid : Solid '/' ((pattern.shape ignoreCase).map Edge.text) := by
    intro text member
    obtain ⟨edge, edgeMem, rfl⟩ := List.mem_map.mp member
    obtain ⟨segment, segmentMem, rfl⟩ := List.mem_map.mp edgeMem
    exact ⟨Edge.text_ne_empty _, (pattern.unbroken segment segmentMem).slash_not_mem ignoreCase⟩
  exact (pieces_separator_append '/' _).trans (pieces_join solid)

/-- The written shapes of two patterns are equal exactly when their shapes are. -/
theorem shapeKey_eq_iff {left right : Pattern} {ignoreCase : Bool} :
    left.shapeKey ignoreCase = right.shapeKey ignoreCase ↔ left.shape ignoreCase = right.shape ignoreCase := by
  constructor
  · intro same
    have parts := congrArg (pieces '/') same
    rw [pieces_shapeKey, pieces_shapeKey] at parts
    exact List.map_injective_iff.mpr (fun _ _ => Edge.text_inj) parts
  · exact congrArg shapeText

end Pattern

end HttpRouting

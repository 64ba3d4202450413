import HttpRouting.Proofs.Lists
import HttpRouting.Proofs.Outcomes
import HttpRouting.Proofs.PathText
import HttpRouting.Route.Admission
import HttpRouting.Route.PatternText

/-! # The segments of a pattern

A pattern has a wildcard at its end only, and a route that is copied under a pattern has the segments of both.
-/

namespace HttpRouting

open Text

/-- A sound list of segments has a wildcard only at its end, and is sound behind its first segment. -/
theorem segmentFault?_cons {used : List String} {segment : Segment} {segments : List Segment}
    (sound : segmentFault? used (segment :: segments) = none) :
    (segment.isWildcard = true → segments = []) ∧
      ∃ used', segmentFault? used' segments = none := by
  rw [segmentFault?] at sound
  split_ifs at sound with misplaced
  have last : segment.isWildcard = true → segments = [] := by
    simpa using misplaced
  refine ⟨last, ?_⟩
  split at sound
  · exact ⟨_, sound⟩
  · split_ifs at sound
    exact ⟨_, sound⟩

namespace Pattern

/-- A wildcard can only be the last segment, so a pattern that does not end with one has none. -/
theorem isWildcard_eq_false {pattern : Pattern} (plain : pattern.hasWildcard = false) :
    ∀ segment ∈ pattern.segments, segment.isWildcard = false := by
  obtain ⟨source, segments, sound, unbroken⟩ := pattern
  rw [hasWildcard] at plain
  dsimp only at plain ⊢
  clear unbroken
  generalize ([] : List String) = used at sound
  induction segments generalizing used with
  | nil => simp
  | cons segment rest ih =>
    obtain ⟨ends, _, sound⟩ := segmentFault?_cons sound
    by_cases last : rest = []
    · subst last
      simpa using plain
    · rw [List.getLast?_cons_of_ne_nil last] at plain
      exact List.forall_mem_cons.mpr ⟨Bool.eq_false_iff.mpr (mt ends last), ih plain _ sound⟩

private theorem segments_of_ofSegments {source : String} {segments : List Segment}
    {unbroken : ∀ segment ∈ segments, segment.Unbroken} {pattern : Pattern}
    (made : ofSegments source segments unbroken = .ok pattern) : pattern.segments = segments := by
  rw [ofSegments] at made
  split at made
  · cases made
  · cases made
    rfl

theorem segments_of_under {head tail pattern : Pattern} (joined : head.under tail = .ok pattern) :
    pattern.segments = head.segments ++ tail.segments := by
  rw [under] at joined
  split at joined
  · rename_i made
    cases joined
    exact segments_of_ofSegments made
  · cases joined

end Pattern

end HttpRouting

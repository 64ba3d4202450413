import HttpRouting.Proofs.NamedPaths
import HttpRouting.Proofs.ShapeIdentity

/-! # Patterns that match some path

A pattern without constraints is satisfied by a path that is put together from a sample of each segment: a
literal itself, any text at all for a capture, and nothing for a wildcard. The one thing that can go wrong is a
question mark in a literal, since a path ends there and no raw segment holds one. Such a pattern is read like
any other and matches nothing.
-/

namespace HttpRouting

open Text

variable {ignoreCase : Bool} {segment : Segment} {segments : List Segment}

/-- A raw segment that the segment matches, for single segments without a constraint. -/
def Segment.sample? : Segment → Option String
  | .literal value => some value
  | .capture _ | .constrained _ _ => some "a"
  | .wildcard _ => none

/-- A single segment without a constraint takes its sample. -/
theorem Segment.exists_sample (ignoreCase : Bool) (single : segment.isWildcard = false)
    (free : segment.Unconstrained) :
    ∃ sample, segment.sample? = some sample ∧ segment.Takes ignoreCase sample := by
  cases segment with
  | literal value => exact ⟨value, rfl, by simp [Takes, matches?]⟩
  | capture name => exact ⟨"a", rfl, rfl⟩
  | constrained name constraint => exact free.elim
  | wildcard name => cases single

/-- Segments without constraints match their samples. -/
theorem Plain.accepts_samples (plain : Plain segments) :
    Accepts ignoreCase segments (segments.filterMap Segment.sample?) := by
  induction segments with
  | nil => rfl
  | cons segment later ih =>
    cases wild : segment.isWildcard with
    | true =>
      obtain ⟨name, alone⟩ := plain.alone wild
      rw [alone]
      exact accepts_wildcard name []
    | false =>
      obtain ⟨sample, here, taken⟩ :=
        Segment.exists_sample ignoreCase wild (plain.free segment (List.mem_cons_self ..))
      rw [List.filterMap_cons_some here]
      exact (accepts_cons_iff wild).mpr ⟨taken, ih plain.later⟩

/-- A sample is one piece of a path, and a question mark in it is one of a literal. -/
theorem Segment.solid_of_sample? (unbroken : segment.Unbroken) {sample : String}
    (sampled : segment.sample? = some sample) :
    (sample ≠ "" ∧ '/' ∉ sample.toList) ∧ ('?' ∈ sample.toList → segment = .literal sample) := by
  cases segment with
  | literal value =>
    cases sampled
    exact ⟨unbroken, fun _ => rfl⟩
  | capture name | constrained name constraint =>
    cases sampled
    have plain : '?' ∉ "a".toList := by decide
    exact ⟨by decide, fun inside => (plain inside).elim⟩
  | wildcard name => cases sampled

namespace Pattern

variable {text : String} {pattern : Pattern}

def samplePath (pattern : Pattern) : String :=
  "/" ++ Text.join "/" (pattern.segments.filterMap Segment.sample?)

private theorem splitPath_samplePath
    (plain : ∀ value, .literal value ∈ pattern.segments → '?' ∉ value.toList) :
    splitPath pattern.samplePath = pattern.segments.filterMap Segment.sample? := by
  have solid : ∀ sample ∈ pattern.segments.filterMap Segment.sample?,
      (sample ≠ "" ∧ '/' ∉ sample.toList) ∧ '?' ∉ sample.toList := by
    intro sample member
    obtain ⟨segment, segmentMem, sampled⟩ := List.mem_filterMap.mp member
    obtain ⟨solid, question⟩ := Segment.solid_of_sample? (pattern.unbroken segment segmentMem) sampled
    exact ⟨solid, fun inside => plain sample (question inside ▸ segmentMem) inside⟩
  have all : (pattern.segments.filterMap Segment.sample?).filter (· ≠ "") =
      pattern.segments.filterMap Segment.sample? := by
    rw [List.filter_eq_self]
    intro sample member
    simpa using (solid sample member).1.1
  have cuts := splitPath_join fun sample member => (solid sample member).2
  rw [all] at cuts
  rw [samplePath, cuts, ← pieces_join_eq_flatMap]
  exact pieces_join fun sample member => (solid sample member).1

/-- A pattern without constraints matches some path exactly when no literal holds a question mark. -/
theorem exists_match_iff (free : pattern.Unconstrained) (ignoreCase : Bool) :
    (∃ path, (pattern.match? ignoreCase path).isSome) ↔
      ∀ value, .literal value ∈ pattern.segments → '?' ∉ value.toList := by
  constructor
  · rintro ⟨path, matched⟩
    rw [match?, Option.isSome_map] at matched
    obtain ⟨values, found⟩ := Option.isSome_iff_exists.mp matched
    exact Segment.question_not_mem_of_matchSegments? (solid_splitPath path).2 found
  · intro plain
    refine ⟨pattern.samplePath, ?_⟩
    rw [match?, Option.isSome_map, captures?, splitPath_samplePath plain]
    exact free.plain.accepts_samples

/-- A literal, a capture and a wildcard are matched by the literal with any text behind it. -/
theorem exists_match_users : ∃ pattern, compile "users//:id/*rest" = .ok pattern ∧ pattern.Unconstrained ∧
    ∃ path, (pattern.match? false path).isSome := by
  have known : ∃ pattern, compile "users//:id/*rest" = .ok pattern ∧
      pattern.segments = [.literal "users", .capture (some "id"), .wildcard (some "rest")] := ⟨_, rfl, rfl⟩
  obtain ⟨pattern, compiled, segments⟩ := known
  have free : pattern.Unconstrained := by
    rw [Unconstrained, segments]
    simp [Segment.Unconstrained]
  refine ⟨pattern, compiled, free, (exists_match_iff free false).mpr ?_⟩
  rw [segments]
  simp

/-- A pattern with a question mark in a literal is read, and matches no path. -/
theorem not_exists_match_of_question : ∃ pattern, compile "/a?b" = .ok pattern ∧ pattern.Unconstrained ∧
    ∀ path, pattern.match? false path = none := by
  have known : ∃ pattern, compile "/a?b" = .ok pattern ∧ pattern.segments = [.literal "a?b"] := ⟨_, rfl, rfl⟩
  obtain ⟨pattern, compiled, segments⟩ := known
  refine ⟨pattern, compiled, ?_, fun path => ?_⟩
  · rw [Unconstrained, segments]
    simp [Segment.Unconstrained]
  · cases matched : pattern.match? false path with
    | none => rfl
    | some found =>
      obtain ⟨values, found, _⟩ := Option.map_eq_some_iff.mp matched
      have member : .literal "a?b" ∈ pattern.segments := by
        rw [segments]
        exact List.mem_singleton_self _
      have plain := Segment.question_not_mem_of_matchSegments? (solid_splitPath path).2 found "a?b" member
      exact absurd (show '?' ∈ "a?b".toList by decide) plain

end Pattern

end HttpRouting

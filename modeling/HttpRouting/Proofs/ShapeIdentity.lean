import HttpRouting.Proofs.JoinedTexts
import HttpRouting.Proofs.Lookup
import HttpRouting.Proofs.ShapeKeys

/-! # A shape says which paths match

Patterns of one shape match the same paths and capture the same values from them, because what a segment makes
of a raw segment is decided by its edge alone. Without constraints the converse holds too: two such patterns
that match the same paths have one shape. It is proved from the front, edge by edge. Whatever follows a segment
is matched by some path, so two patterns that match the same paths begin with segments that match the same raw
segments; and a literal is told apart from a capture, and from a literal with another key, by one raw segment.
-/

namespace HttpRouting

open Text

variable {ignoreCase : Bool} {segment other : Segment} {segments others : List Segment}
  {raw captured : List String}

/-- What a segment makes of a raw segment is decided by its edge. -/
theorem Segment.matches?_of_edge (same : segment.edge ignoreCase = other.edge ignoreCase) (piece : String) :
    segment.matches? ignoreCase piece = other.matches? ignoreCase piece := by
  cases segment with
  | literal value =>
    obtain ⟨value', rfl, key⟩ := edge_literal.mp same.symm
    rw [matches?, matches?, key]
  | capture name =>
    obtain ⟨name', rfl⟩ := edge_capture.mp same.symm
    rfl
  | constrained name constraint =>
    obtain ⟨name', rfl⟩ := edge_constrained.mp same.symm
    rfl
  | wildcard name =>
    obtain ⟨name', rfl⟩ := edge_wildcard.mp same.symm
    rfl

/-- Where one list of segments matches, every list with the same edges matches with the same values. -/
theorem matchSegments?_eq_some_of_edges
    (same : segments.map (Segment.edge ignoreCase) = others.map (Segment.edge ignoreCase))
    (matched : matchSegments? ignoreCase segments raw = some captured) :
    matchSegments? ignoreCase others raw = some captured := by
  induction segments generalizing others raw captured with
  | nil =>
    rw [List.map_eq_nil_iff.mp same.symm]
    exact matched
  | cons segment later ih =>
    rcases matchSegments?_cases matched with
      ⟨absurd, _, _⟩ | ⟨name, alone, rfl⟩ | ⟨_, _, first, rest, found, gained, split, rfl, first?, later?, rfl⟩
    · cases absurd
    · rw [alone] at same
      exact Trie.matchSegments?_of_wildcard same.symm raw
    · cases split
      obtain ⟨other, later', rfl, edge, tail⟩ := List.map_eq_cons_iff.mp same.symm
      rw [Segment.matches?_of_edge edge.symm] at first?
      rw [matchSegments?_cons first?, ih tail.symm later?, Option.map_some]

private theorem matchSegments?_of_edges
    (same : segments.map (Segment.edge ignoreCase) = others.map (Segment.edge ignoreCase)) (raw : List String) :
    matchSegments? ignoreCase segments raw = matchSegments? ignoreCase others raw := by
  apply Option.ext
  intro captured
  exact ⟨matchSegments?_eq_some_of_edges same, matchSegments?_eq_some_of_edges same.symm⟩

/-- Whether raw segments match, whatever is captured from them. -/
def Accepts (ignoreCase : Bool) (segments : List Segment) (raw : List String) : Prop :=
  (matchSegments? ignoreCase segments raw).isSome

def Segment.Takes (ignoreCase : Bool) (segment : Segment) (piece : String) : Prop :=
  (segment.matches? ignoreCase piece).isSome

/-- Pieces of a path as cutting it leaves them. -/
def Filled (raw : List String) : Prop :=
  ∀ piece ∈ raw, piece ≠ ""

theorem accepts_wildcard (name : Option String) (raw : List String) :
    Accepts ignoreCase [.wildcard name] raw := by
  rw [Accepts, matchSegments?_wildcard]
  rfl

/-- Nothing is left to match for the empty list and for a lone wildcard. -/
theorem accepts_nil_iff : Accepts ignoreCase segments [] ↔ segments = [] ∨ ∃ name, segments = [.wildcard name] := by
  constructor
  · intro accepted
    obtain ⟨captured, matched⟩ := Option.isSome_iff_exists.mp accepted
    rcases matchSegments?_cases matched with ⟨none, _, _⟩ | ⟨name, alone, _⟩ | ⟨_, _, _, _, _, _, _, absurd, _⟩
    · exact .inl none
    · exact .inr ⟨name, alone⟩
    · cases absurd
  · rintro (rfl | ⟨name, rfl⟩)
    · rfl
    · exact accepts_wildcard name []

theorem accepts_cons_iff (single : segment.isWildcard = false) {piece : String} :
    Accepts ignoreCase (segment :: segments) (piece :: raw) ↔
      segment.Takes ignoreCase piece ∧ Accepts ignoreCase segments raw := by
  rw [Accepts, Segment.Takes, Accepts]
  cases found : segment.matches? ignoreCase piece with
  | none => simp [matchSegments?_cons_none found single]
  | some result => simp [matchSegments?_cons found]

theorem Segment.isWildcard_iff : segment.isWildcard = true ↔ ∃ name, segment = .wildcard name := by
  cases segment <;> simp [isWildcard]

/-- Whether the segment is anything but a constrained capture. -/
def Segment.Unconstrained : Segment → Prop
  | .constrained _ _ => False
  | .literal _ | .capture _ | .wildcard _ => True

/-- Every single segment without a constraint is matched by some raw segment: a literal by itself. -/
theorem Segment.exists_takes (single : segment.isWildcard = false) (free : segment.Unconstrained)
    (unbroken : segment.Unbroken) : ∃ piece, piece ≠ "" ∧ segment.Takes ignoreCase piece := by
  cases segment with
  | literal value => exact ⟨value, unbroken.1, by simp [Takes, matches?]⟩
  | capture name => exact ⟨"a", by decide, rfl⟩
  | constrained name constraint => exact free.elim
  | wildcard name => cases single

/-- Segments as a pattern without constraints has them. -/
structure Plain (segments : List Segment) : Prop where
  sound : ∃ used, segmentFault? used segments = none
  free : ∀ segment ∈ segments, segment.Unconstrained
  unbroken : ∀ segment ∈ segments, segment.Unbroken

theorem Plain.later (plain : Plain (segment :: segments)) : Plain segments := by
  obtain ⟨_, sound⟩ := plain.sound
  exact ⟨(segmentFault?_cons sound).2, (List.forall_mem_cons.mp plain.free).2,
    (List.forall_mem_cons.mp plain.unbroken).2⟩

/-- A wildcard has nothing behind it. -/
theorem Plain.alone (plain : Plain (segment :: segments)) (wild : segment.isWildcard = true) :
    ∃ name, segment :: segments = [.wildcard name] := by
  obtain ⟨_, sound⟩ := plain.sound
  obtain ⟨name, rfl⟩ := Segment.isWildcard_iff.mp wild
  exact ⟨name, by rw [(segmentFault?_cons sound).1 wild]⟩

theorem Plain.exists_takes (plain : Plain (segment :: segments)) (single : segment.isWildcard = false)
    (ignoreCase : Bool) : ∃ piece, piece ≠ "" ∧ segment.Takes ignoreCase piece :=
  Segment.exists_takes single (plain.free segment (List.mem_cons_self ..))
    (plain.unbroken segment (List.mem_cons_self ..))

/-- Segments without constraints match some path. -/
theorem Plain.exists_accepts (plain : Plain segments) (ignoreCase : Bool) :
    ∃ raw, Filled raw ∧ Accepts ignoreCase segments raw := by
  induction segments with
  | nil => exact ⟨[], by simp [Filled], rfl⟩
  | cons segment later ih =>
    cases wild : segment.isWildcard with
    | true =>
      obtain ⟨name, alone⟩ := plain.alone wild
      rw [alone]
      exact ⟨[], by simp [Filled], accepts_wildcard name []⟩
    | false =>
      obtain ⟨piece, filled, taken⟩ := plain.exists_takes wild ignoreCase
      obtain ⟨rest, filledRest, accepted⟩ := ih plain.later
      exact ⟨piece :: rest, List.forall_mem_cons.mpr ⟨filled, filledRest⟩,
        (accepts_cons_iff wild).mpr ⟨taken, accepted⟩⟩

/-- What does not match the empty path begins with a single segment. -/
theorem Plain.exists_single (plain : Plain segments) (refused : ¬Accepts ignoreCase segments []) :
    ∃ segment later, segments = segment :: later ∧ segment.isWildcard = false := by
  rw [accepts_nil_iff, not_or] at refused
  cases segments with
  | nil => exact (refused.1 rfl).elim
  | cons segment later =>
    exact ⟨segment, later, rfl, Bool.eq_false_iff.mpr fun wild => refused.2 (plain.alone wild)⟩

def SamePaths (ignoreCase : Bool) (segments others : List Segment) : Prop :=
  ∀ raw, Filled raw → (Accepts ignoreCase segments raw ↔ Accepts ignoreCase others raw)

/-- No literal matches every raw segment. -/
theorem not_literal_takes_all (value : String) :
    ¬∀ piece, piece ≠ "" → (Segment.literal value).Takes ignoreCase piece := by
  intro all
  have key {piece : String} (filled : piece ≠ "") : literalKey ignoreCase value = literalKey ignoreCase piece := by
    simpa [Segment.Takes, Segment.matches?] using all piece filled
  have same : literalKey ignoreCase "a" = literalKey ignoreCase "b" :=
    (key (by decide)).symm.trans (key (by decide))
  revert same
  cases ignoreCase <;> decide +kernel

/-- Single segments without constraints that match the same raw segments have one edge. -/
theorem Segment.edge_eq_of_takes_iff (single : segment.isWildcard = false) (single' : other.isWildcard = false)
    (free : segment.Unconstrained) (free' : other.Unconstrained) (unbroken : segment.Unbroken)
    (alike : ∀ piece, piece ≠ "" → (segment.Takes ignoreCase piece ↔ other.Takes ignoreCase piece)) :
    segment.edge ignoreCase = other.edge ignoreCase := by
  cases segment with
  | literal value =>
    cases other with
    | literal value' =>
      have taken : (literal value').Takes ignoreCase value := (alike value unbroken.1).mp (by simp [Takes, matches?])
      have key : literalKey ignoreCase value' = literalKey ignoreCase value := by
        simpa [Takes, matches?] using taken
      rw [edge, edge, key]
    | capture name =>
      exact (not_literal_takes_all value fun piece filled => (alike piece filled).mpr rfl).elim
    | constrained name constraint => exact free'.elim
    | wildcard name => cases single'
  | capture name =>
    cases other with
    | literal value =>
      exact (not_literal_takes_all value fun piece filled => (alike piece filled).mp rfl).elim
    | capture name' => rfl
    | constrained name constraint => exact free'.elim
    | wildcard name => cases single'
  | constrained name constraint => exact free.elim
  | wildcard name => cases single

section Step

variable (plain : Plain (segment :: segments)) (plain' : Plain (other :: others))
  (single : segment.isWildcard = false) (single' : other.isWildcard = false)
  (same : SamePaths ignoreCase (segment :: segments) (other :: others))

include single single' same in
theorem SamePaths.cons_iff {piece : String} (filled : piece ≠ "") (filledRaw : Filled raw) :
    segment.Takes ignoreCase piece ∧ Accepts ignoreCase segments raw ↔
      other.Takes ignoreCase piece ∧ Accepts ignoreCase others raw := by
  rw [← accepts_cons_iff single, ← accepts_cons_iff single']
  exact same _ (List.forall_mem_cons.mpr ⟨filled, filledRaw⟩)

include plain plain' single single' same in
/-- Lists that match the same paths begin with segments that match the same raw segments. -/
theorem SamePaths.takes_iff (piece : String) (filled : piece ≠ "") :
    segment.Takes ignoreCase piece ↔ other.Takes ignoreCase piece := by
  constructor
  · intro taken
    obtain ⟨rest, filledRest, accepted⟩ := plain.later.exists_accepts ignoreCase
    exact ((same.cons_iff single single' filled filledRest).mp ⟨taken, accepted⟩).1
  · intro taken
    obtain ⟨rest, filledRest, accepted⟩ := plain'.later.exists_accepts ignoreCase
    exact ((same.cons_iff single single' filled filledRest).mpr ⟨taken, accepted⟩).1

include plain plain' single single' same in
/-- Behind their first segments they match the same paths again. -/
theorem SamePaths.later : SamePaths ignoreCase segments others := by
  intro raw filledRaw
  obtain ⟨piece, filled, taken⟩ := plain.exists_takes single ignoreCase
  have taken' := (same.takes_iff plain plain' single single' piece filled).mp taken
  have both := same.cons_iff single single' filled filledRaw
  rwa [and_iff_right taken, and_iff_right taken'] at both

end Step

/-- Of lists that match the same paths, among them the empty one, both are empty or both a lone wildcard. -/
theorem SamePaths.edges_eq_of_nil (same : SamePaths ignoreCase segments others)
    (accepted : Accepts ignoreCase segments []) :
    segments.map (Segment.edge ignoreCase) = others.map (Segment.edge ignoreCase) := by
  have accepted' : Accepts ignoreCase others [] := (same [] (by simp [Filled])).mp accepted
  -- one more piece tells a wildcard from nothing
  have further : Accepts ignoreCase segments ["a"] ↔ Accepts ignoreCase others ["a"] := same ["a"] (by simp [Filled])
  have ended : ¬Accepts ignoreCase [] ["a"] := by simp [Accepts, matchSegments?]
  rcases accepts_nil_iff.mp accepted with rfl | ⟨name, rfl⟩ <;>
    rcases accepts_nil_iff.mp accepted' with rfl | ⟨name', rfl⟩
  · rfl
  · exact (ended (further.mpr (accepts_wildcard name' _))).elim
  · exact (ended (further.mp (accepts_wildcard name _))).elim
  · rfl

/-- Segments without constraints that match the same paths have the same edges. -/
theorem SamePaths.edges_eq (plain : Plain segments) (plain' : Plain others)
    (same : SamePaths ignoreCase segments others) :
    segments.map (Segment.edge ignoreCase) = others.map (Segment.edge ignoreCase) := by
  -- both lists lose their first segments together; where one has ended or is a wildcard, so has or is the other
  induction segments generalizing others with
  | nil => exact same.edges_eq_of_nil rfl
  | cons segment segments ih =>
    by_cases accepted : Accepts ignoreCase (segment :: segments) []
    · exact same.edges_eq_of_nil accepted
    · have refused : ¬Accepts ignoreCase others [] := mt (same [] (by simp [Filled])).mpr accepted
      obtain ⟨_, _, split, single⟩ := plain.exists_single accepted
      cases split
      obtain ⟨other, others, rfl, single'⟩ := plain'.exists_single refused
      have first : segment.edge ignoreCase = other.edge ignoreCase :=
        Segment.edge_eq_of_takes_iff single single' (plain.free segment (List.mem_cons_self ..))
          (plain'.free other (List.mem_cons_self ..)) (plain.unbroken segment (List.mem_cons_self ..))
          (same.takes_iff plain plain' single single')
      have later : segments.map (Segment.edge ignoreCase) = others.map (Segment.edge ignoreCase) :=
        ih plain.later plain'.later (same.later plain plain' single single')
      rw [List.map_cons, List.map_cons, first, later]

namespace Pattern

/-- Whether the pattern has no constrained capture. -/
def Unconstrained (pattern : Pattern) : Prop :=
  ∀ segment ∈ pattern.segments, segment.Unconstrained

theorem Unconstrained.plain {pattern : Pattern} (free : pattern.Unconstrained) : Plain pattern.segments :=
  ⟨⟨[], pattern.sound⟩, free, pattern.unbroken⟩

/-- Written shapes identify patterns: those with equal ones match the same paths with the same values, and without
constraints those that match the same paths have equal ones. -/
theorem shapeKey_identifies (left right : Pattern) (ignoreCase : Bool) :
    (left.shapeKey ignoreCase = right.shapeKey ignoreCase →
      ∀ raw, left.captures? ignoreCase raw = right.captures? ignoreCase raw) ∧
    (left.Unconstrained → right.Unconstrained →
      (∀ raw : List String, (∀ piece ∈ raw, piece ≠ "") →
        ((left.captures? ignoreCase raw).isSome ↔ (right.captures? ignoreCase raw).isSome)) →
      left.shapeKey ignoreCase = right.shapeKey ignoreCase) := by
  rw [shapeKey_eq_iff]
  constructor
  · intro same raw
    exact matchSegments?_of_edges same raw
  · intro free free' alike
    have same : SamePaths ignoreCase left.segments right.segments := alike
    exact same.edges_eq free.plain free'.plain

/-- A joined pattern and one that differs from it in letter case and in the names of its captures have one
written shape where case does not count. -/
theorem shapeKey_identifies_users : ∃ joined direct : Pattern, joined.Made ∧ direct.Made ∧
    joined.source = "/Users/:id/*rest" ∧ direct.source = "/users/:name/*" ∧
    joined.Unconstrained ∧ direct.Unconstrained ∧
    joined.captures? true ["USERS", "%37", "x"] = some ["7", "x"] ∧
    (∀ raw, joined.captures? true raw = direct.captures? true raw) ∧
    joined.shapeKey true = direct.shapeKey true := by
  have known : ∃ users rest joined direct, compile "/Users" = .ok users ∧ compile "/:id/*rest" = .ok rest ∧
      users.join rest = .ok joined ∧ compile "users/:name/*" = .ok direct ∧
      joined.source = "/Users/:id/*rest" ∧ direct.source = "/users/:name/*" ∧
      joined.segments = [.literal "Users", .capture (some "id"), .wildcard (some "rest")] ∧
      direct.segments = [.literal "users", .capture (some "name"), .wildcard none] :=
    ⟨_, _, _, _, rfl, rfl, rfl, rfl, rfl, rfl, rfl, rfl⟩
  obtain ⟨users, rest, joined, direct, head, tail, both, alone, source, source', segments, segments'⟩ := known
  have front : joined.Made := .joined (.read head) (.read tail) both
  have back : direct.Made := .read alone
  have free : joined.Unconstrained := by
    rw [Unconstrained, segments]
    simp [Segment.Unconstrained]
  have free' : direct.Unconstrained := by
    rw [Unconstrained, segments']
    simp [Segment.Unconstrained]
  have keys : joined.shapeKey true = direct.shapeKey true := by
    rw [shapeKey, shapeKey, shape, shape, segments, segments']
    decide +kernel
  have found : joined.captures? true ["USERS", "%37", "x"] = some ["7", "x"] := by
    rw [captures?, segments]
    decide +kernel
  obtain ⟨matches_of_keys, keys_of_matches⟩ := shapeKey_identifies joined direct true
  have alike := matches_of_keys keys
  refine ⟨joined, direct, front, back, source, source', free, free', found, alike, keys_of_matches free free' ?_⟩
  intro raw filled
  rw [alike raw]

end Pattern

end HttpRouting

import HttpRouting.Proofs.Lookup

/-! # The parameters of a match

A pattern captures one value for each capturing segment, and a sound pattern uses no capture name
twice. So the parameters of a match are its named captures as they stand: none is dropped, none takes the
place of another, and those of a pattern written after another one follow those of the first.
-/

namespace HttpRouting

namespace Entries

variable {α : Type}

theorem put_of_not_mem {name : String} {entries : Entries α} (fresh : name ∉ entries.map (·.1))
    (value : α) : put name value entries = entries ++ [(name, value)] := by
  induction entries with
  | nil => rfl
  | cons entry rest ih =>
    obtain ⟨other, old⟩ := entry
    simp only [List.map_cons, List.mem_cons, not_or] at fresh
    rw [put, if_neg (Ne.symm fresh.1), ih fresh.2, List.cons_append]

/-- Of entries with distinct names each is found under its name. -/
theorem get?_eq_some_iff {entries : Entries α} (unique : (entries.map (·.1)).Nodup) {name : String}
    {value : α} : entries.get? name = some value ↔ (name, value) ∈ entries := by
  rw [get?]
  induction entries with
  | nil => simp
  | cons entry rest ih =>
    obtain ⟨other, old⟩ := entry
    obtain ⟨absent, unique⟩ := List.nodup_cons.mp unique
    rw [List.lookup_cons, List.mem_cons, Prod.mk.injEq]
    by_cases same : name = other
    · subst same
      have fresh : (name, value) ∉ rest := fun member => absent (List.mem_map.mpr ⟨_, member, rfl⟩)
      simp [fresh, eq_comm]
    · rw [beq_eq_false_iff_ne.mpr same]
      simpa [same] using ih unique

/-- Entries with distinct names are put down as they are. -/
theorem ofPairs_eq_self {pairs : List (String × α)} (unique : (pairs.map (·.1)).Nodup) :
    ofPairs pairs = pairs := by
  induction pairs using List.reverseRecOn with
  | nil => rfl
  | append_singleton pairs pair ih =>
    rw [List.map_append, List.map_singleton] at unique
    obtain ⟨left, _, apart⟩ := List.nodup_append.mp unique
    have fresh : pair.1 ∉ pairs.map (·.1) :=
      fun member => apart pair.1 member pair.1 (List.mem_singleton_self _) rfl
    rw [ofPairs] at ih
    rw [ofPairs, List.foldl_append, ih left, List.foldl_cons, List.foldl_nil, put_of_not_mem fresh]

end Entries

/-- The named ones of captures that stand beside their values. -/
def namedCaptures (names : List (Option String)) (values : List String) : List (String × String) :=
  (names.zip values).filterMap fun capture => capture.1.map fun name => (name, capture.2)

theorem namedCaptures_append {names : List (Option String)} {values : List String}
    (same : names.length = values.length) (moreNames : List (Option String)) (more : List String) :
    namedCaptures (names ++ moreNames) (values ++ more) =
      namedCaptures names values ++ namedCaptures moreNames more := by
  rw [namedCaptures, List.zip_append same, List.filterMap_append]
  rfl

private theorem map_fst_namedCaptures {names : List (Option String)} {values : List String}
    (same : names.length = values.length) :
    (namedCaptures names values).map (·.1) = names.filterMap id := by
  induction names generalizing values with
  | nil => rfl
  | cons name names ih =>
    cases values with
    | nil => cases same
    | cons value values =>
      have rest := ih (Nat.succ.inj same)
      rw [namedCaptures] at rest ⊢
      cases name with
      | none => simpa using rest
      | some text => simpa using rest

theorem Params.named_eq {names : List (Option String)} {values : List String}
    (same : names.length = values.length) : named names values = namedCaptures names values := by
  induction names generalizing values with
  | nil => rfl
  | cons name names ih =>
    cases values with
    | nil => cases same
    | cons value values =>
      have rest := ih (Nat.succ.inj same)
      rw [namedCaptures] at rest ⊢
      cases name with
      | none => simpa [named] using rest
      | some text => simpa [named] using rest

/-- Matching gives one value for each capturing segment. -/
theorem length_of_matchSegments? {ignoreCase : Bool} {segments : List Segment}
    {raw captured : List String} (matched : matchSegments? ignoreCase segments raw = some captured) :
    (segments.filterMap Segment.captureName?).length = captured.length := by
  induction segments generalizing raw captured with
  | nil =>
    rcases matchSegments?_cases matched with ⟨_, _, rfl⟩ | ⟨_, wrong, _⟩ | ⟨_, _, _, _, _, _, wrong, _⟩
    · rfl
    · cases wrong
    · cases wrong
  | cons segment segments ih =>
    rcases matchSegments?_cases matched with
      ⟨wrong, _, _⟩ | ⟨name, same, rfl⟩ | ⟨first, later, _, _, found, gained, same, _, first?, later?, rfl⟩
    · cases wrong
    · cases same
      rfl
    · cases same
      have rest := ih later?
      cases segment with
      | literal value =>
        rw [Segment.matches?] at first?
        split_ifs at first?
        cases first?
        rw [List.filterMap_cons_none rfl]
        exact rest
      | capture name =>
        cases first?
        simpa [Segment.captureName?, SegmentMatch.values, Nat.add_comm] using rest
      | constrained name constraint =>
        rw [Segment.matches?] at first?
        split_ifs at first?
        cases first?
        simpa [Segment.captureName?, SegmentMatch.values, Nat.add_comm] using rest
      | wildcard name => cases first?

/-- Without a fault, no name is used twice and none that was used before is used. -/
theorem nodup_of_segmentFault? {used : List String} {segments : List Segment}
    (sound : segmentFault? used segments = none) :
    (segments.filterMap Segment.name?).Nodup ∧ ∀ name ∈ segments.filterMap Segment.name?, name ∉ used := by
  induction segments generalizing used with
  | nil => simp
  | cons segment segments ih =>
    rw [segmentFault?] at sound
    split_ifs at sound
    cases named : segment.name? with
    | none =>
      rw [named] at sound
      simpa [named] using ih sound
    | some name =>
      simp only [named] at sound
      split_ifs at sound with taken
      obtain ⟨unique, apart⟩ := ih sound
      rw [List.filterMap_cons_some named]
      refine ⟨List.nodup_cons.mpr ⟨?_, unique⟩, ?_⟩
      · exact fun member => apart name member (List.mem_cons_self ..)
      · intro other member
        rcases List.mem_cons.mp member with rfl | later
        · simpa using taken
        · exact fun wasUsed => apart other later (List.mem_cons_of_mem _ wasUsed)

namespace Pattern

theorem filterMap_captureNames (pattern : Pattern) :
    pattern.captureNames.filterMap id = pattern.segments.filterMap Segment.name? := by
  rw [captureNames, List.filterMap_filterMap]
  rfl

theorem length_captureNames {pattern : Pattern} {ignoreCase : Bool} {raw values : List String}
    (matched : pattern.captures? ignoreCase raw = some values) :
    pattern.captureNames.length = values.length :=
  length_of_matchSegments? matched

/-- The parameters of a match are the named captures of its pattern, in order, with their values. -/
theorem ofCaptures_eq {pattern : Pattern} {ignoreCase : Bool} {raw values : List String}
    (matched : pattern.captures? ignoreCase raw = some values) :
    Params.ofCaptures pattern.captureNames values = namedCaptures pattern.captureNames values := by
  have same := length_captureNames matched
  rw [Params.ofCaptures, Params.named_eq same]
  apply Entries.ofPairs_eq_self
  rw [map_fst_namedCaptures same, filterMap_captureNames]
  exact (nodup_of_segmentFault? pattern.sound).1

end Pattern

end HttpRouting

import HttpRouting.Proofs.Lists
import HttpRouting.Route.Trie

/-! # What a grown trie looks like

A trie that was grown by insertions is determined by its plants: the children of its root are the tries
of the plants that share a first edge, moved past that edge, and the literals and constraints of the
root stand in the order in which the plants first use them. `ofEntries_eq` states this for the whole
root at once; the two `walk` equations read a look-up off it, so that what a look-up finds can be proved
by induction on the path alone, with the plants in the place of the nodes.
-/

namespace HttpRouting

/-- Constrained captures of one source carry one constraint. -/
theorem Constraint.source_inj {left right : Constraint} :
    left.source = right.source ↔ left = right :=
  ⟨Constraint.eq_of_source_eq, fun same => same ▸ rfl⟩

namespace Trie

variable {ρ : Type}

/-- The plants whose first segment gives this edge, moved past it. -/
def onward (ignoreCase : Bool) (edge : Edge) (planted : List (List Segment × ρ)) :
    List (List Segment × ρ) :=
  planted.filterMap fun plant =>
    match plant.1 with
    | [] => none
    | segment :: rest => if segment.edge ignoreCase = edge then some (rest, plant.2) else none

/-- The entries of the plants that end here. -/
def ended (planted : List (List Segment × ρ)) : List ρ :=
  (planted.filter (·.1.isEmpty)).map (·.2)

/-- The keys of the literals that come first, in order of first use. -/
def literalsAhead (ignoreCase : Bool) (planted : List (List Segment × ρ)) : List String :=
  (planted.filterMap fun plant =>
    match plant.1 with
    | .literal value :: _ => some (literalKey ignoreCase value)
    | _ => none).eraseDups

/-- The constraint that the first segment of a pattern carries, if it does. -/
def firstConstraint? : List Segment → Option Constraint
  | .constrained _ constraint :: _ => some constraint
  | _ => none

/-- The constraints that come first, in order of first use. -/
def constraintsAhead (planted : List (List Segment × ρ)) : List Constraint :=
  (planted.filterMap fun plant => firstConstraint? plant.1).eraseDups

/-- The trie below an edge, unless no plant takes that edge. -/
def under? (ignoreCase : Bool) (edge : Edge) (planted : List (List Segment × ρ)) : Option (Trie ρ) :=
  if onward ignoreCase edge planted = [] then none
  else some (ofEntries ignoreCase (onward ignoreCase edge planted))

theorem firstConstraint?_eq_some {segments : List Segment} {constraint : Constraint} :
    firstConstraint? segments = some constraint ↔
      ∃ name rest, segments = .constrained name constraint :: rest := by
  cases segments with
  | nil => simp [firstConstraint?]
  | cons segment rest => cases segment <;> simp [firstConstraint?]

theorem ofEntries_concat (ignoreCase : Bool) (planted : List (List Segment × ρ))
    (plant : List Segment × ρ) :
    ofEntries ignoreCase (planted ++ [plant]) =
      (ofEntries ignoreCase planted).insert ignoreCase plant.2 plant.1 := by
  simp [ofEntries]

@[simp] theorem ended_nil : ended ([] : List (List Segment × ρ)) = [] :=
  rfl

private theorem ended_concat (planted : List (List Segment × ρ)) (plant : List Segment × ρ) :
    ended (planted ++ [plant]) = if plant.1 = [] then ended planted ++ [plant.2] else ended planted := by
  by_cases empty : plant.1 = []
  · simp [ended, empty]
  · simp [ended, empty]

private theorem onward_concat_nil (ignoreCase : Bool) (edge : Edge) (planted : List (List Segment × ρ))
    (entry : ρ) : onward ignoreCase edge (planted ++ [([], entry)]) = onward ignoreCase edge planted := by
  simp [onward]

private theorem onward_concat_cons (ignoreCase : Bool) (edge : Edge) (planted : List (List Segment × ρ))
    (segment : Segment) (rest : List Segment) (entry : ρ) :
    onward ignoreCase edge (planted ++ [(segment :: rest, entry)]) =
      if segment.edge ignoreCase = edge then onward ignoreCase edge planted ++ [(rest, entry)]
      else onward ignoreCase edge planted := by
  by_cases same : segment.edge ignoreCase = edge
  · simp [onward, same]
  · simp [onward, same]

theorem mem_onward {ignoreCase : Bool} {edge : Edge} {planted : List (List Segment × ρ)}
    {rest : List Segment} {entry : ρ} :
    (rest, entry) ∈ onward ignoreCase edge planted ↔
      ∃ segment, segment.edge ignoreCase = edge ∧ (segment :: rest, entry) ∈ planted := by
  simp only [onward, List.mem_filterMap, Prod.exists]
  constructor
  · rintro ⟨segments, other, member, found⟩
    cases segments with
    | nil => cases found
    | cons segment tail =>
      dsimp only at found
      split_ifs at found with same
      cases found
      exact ⟨segment, same, member⟩
  · rintro ⟨segment, same, member⟩
    exact ⟨segment :: rest, entry, member, by simp [same]⟩

theorem mem_constraintsAhead {planted : List (List Segment × ρ)} {constraint : Constraint} :
    constraint ∈ constraintsAhead planted ↔
      ∃ name rest entry, (Segment.constrained name constraint :: rest, entry) ∈ planted := by
  simp only [constraintsAhead, List.mem_eraseDups, List.mem_filterMap, firstConstraint?_eq_some,
    Prod.exists]
  constructor
  · rintro ⟨segments, entry, member, name, rest, rfl⟩
    exact ⟨name, rest, entry, member⟩
  · rintro ⟨name, rest, entry, member⟩
    exact ⟨_, entry, member, name, rest, rfl⟩

private theorem mem_literalsAhead {ignoreCase : Bool} {planted : List (List Segment × ρ)} {key : String} :
    key ∈ literalsAhead ignoreCase planted ↔
      ∃ value rest entry, literalKey ignoreCase value = key ∧
        (Segment.literal value :: rest, entry) ∈ planted := by
  simp only [literalsAhead, List.mem_eraseDups, List.mem_filterMap, Prod.exists]
  constructor
  · rintro ⟨segments, entry, member, found⟩
    split at found
    · cases found
      exact ⟨_, _, _, rfl, member⟩
    · cases found
  · rintro ⟨value, rest, entry, rfl, member⟩
    exact ⟨_, entry, member, rfl⟩

/-- Growing one child of children that stand under distinct keys changes that child alone. -/
theorem growUnder_map {κ : Type} [DecidableEq κ] (key : κ) (grow : Trie ρ → Trie ρ)
    (child : κ → Trie ρ) (keys : List κ) (unique : keys.Nodup) (fresh : key ∉ keys → child key = {}) :
    growUnder key grow (keys.map fun other => (other, child other)) =
      (if key ∈ keys then keys else keys ++ [key]).map fun other =>
        (other, if other = key then grow (child other) else child other) := by
  induction keys with
  | nil => simp [growUnder, fresh]
  | cons other keys ih =>
    obtain ⟨absent, unique⟩ := List.nodup_cons.mp unique
    by_cases same : other = key
    · subst same
      have rest : ∀ later ∈ keys, (later, child later) =
          (later, if later = other then grow (child later) else child later) := by
        intro later member
        rw [if_neg (fun equal : later = other => absent (equal ▸ member))]
      simp only [List.map_cons, growUnder, ↓reduceIte, List.mem_cons_self]
      rw [List.map_congr_left rest]
    · have differs : key ≠ other := fun equal => same equal.symm
      have tail := ih unique (fun missing => fresh (by simp [differs, missing]))
      simp only [List.map_cons, growUnder, same, ↓reduceIte, tail, List.mem_cons, differs, false_or]
      split_ifs <;> simp [same]

private theorem onward_eq_nil_of_literal {ignoreCase : Bool} {key : String} {planted : List (List Segment × ρ)}
    (absent : key ∉ literalsAhead ignoreCase planted) :
    onward ignoreCase (.literal key) planted = [] := by
  rw [List.eq_nil_iff_forall_not_mem]
  rintro ⟨rest, entry⟩ member
  obtain ⟨segment, same, origin⟩ := mem_onward.mp member
  cases segment with
  | literal value =>
    exact absent (mem_literalsAhead.mpr ⟨value, rest, entry, Edge.literal.inj same, origin⟩)
  | capture _ => cases same
  | constrained _ _ => cases same
  | wildcard _ => cases same

private theorem onward_eq_nil_of_source {ignoreCase : Bool} {source : String} {planted : List (List Segment × ρ)}
    (absent : ∀ constraint ∈ constraintsAhead planted, constraint.source ≠ source) :
    onward ignoreCase (.constrained source) planted = [] := by
  rw [List.eq_nil_iff_forall_not_mem]
  rintro ⟨rest, entry⟩ member
  obtain ⟨segment, same, origin⟩ := mem_onward.mp member
  cases segment with
  | constrained name constraint =>
    exact absent constraint (mem_constraintsAhead.mpr ⟨name, rest, entry, origin⟩) (Edge.constrained.inj same)
  | literal _ => cases same
  | capture _ => cases same
  | wildcard _ => cases same

private theorem onward_eq_nil_of_constraint {ignoreCase : Bool} {constraint : Constraint}
    {planted : List (List Segment × ρ)} (absent : constraint ∉ constraintsAhead planted) :
    onward ignoreCase (.constrained constraint.source) planted = [] :=
  onward_eq_nil_of_source fun _ member same => absent (Constraint.source_inj.mp same ▸ member)

/-- The root of a grown trie, read off its plants. -/
def rootOf (ignoreCase : Bool) (planted : List (List Segment × ρ)) : Trie ρ where
  entries := ended planted
  literals := (literalsAhead ignoreCase planted).map fun key =>
    (key, ofEntries ignoreCase (onward ignoreCase (.literal key) planted))
  constrained := (constraintsAhead planted).map fun constraint =>
    (constraint, ofEntries ignoreCase (onward ignoreCase (.constrained constraint.source) planted))
  capture := under? ignoreCase .capture planted
  wildcard := under? ignoreCase .wildcard planted

/-- The trie below an edge after one more plant: the plant grows the trie of its own edge. -/
theorem under?_concat (ignoreCase : Bool) (edge : Edge) (planted : List (List Segment × ρ))
    (segment : Segment) (rest : List Segment) (entry : ρ) :
    under? ignoreCase edge (planted ++ [(segment :: rest, entry)]) =
      if segment.edge ignoreCase = edge then
        some (insert ignoreCase entry rest ((under? ignoreCase edge planted).getD {}))
      else under? ignoreCase edge planted := by
  simp only [under?, onward_concat_cons]
  by_cases same : segment.edge ignoreCase = edge
  · rw [if_pos same, if_pos same, if_neg (by simp), ofEntries_concat]
    split_ifs with none
    · rw [none]
      rfl
    · rfl
  · simp only [same, ↓reduceIte]

private theorem ofEntries_onward_concat (ignoreCase : Bool) (edge : Edge) (planted : List (List Segment × ρ))
    (segment : Segment) (rest : List Segment) (entry : ρ) :
    ofEntries ignoreCase (onward ignoreCase edge (planted ++ [(segment :: rest, entry)])) =
      if segment.edge ignoreCase = edge then
        insert ignoreCase entry rest (ofEntries ignoreCase (onward ignoreCase edge planted))
      else ofEntries ignoreCase (onward ignoreCase edge planted) := by
  rw [onward_concat_cons]
  split_ifs with same
  · rw [ofEntries_concat]
  · rfl

private theorem literalsAhead_concat (ignoreCase : Bool) (planted : List (List Segment × ρ)) (value : String)
    (rest : List Segment) (entry : ρ) :
    literalsAhead ignoreCase (planted ++ [(.literal value :: rest, entry)]) =
      if literalKey ignoreCase value ∈ literalsAhead ignoreCase planted then
        literalsAhead ignoreCase planted
      else literalsAhead ignoreCase planted ++ [literalKey ignoreCase value] := by
  simp only [literalsAhead, List.filterMap_append, List.filterMap_cons, List.filterMap_nil,
    eraseDups_concat, List.mem_eraseDups]

private theorem constraintsAhead_concat (planted : List (List Segment × ρ)) (name : Option String)
    (constraint : Constraint) (rest : List Segment) (entry : ρ) :
    constraintsAhead (planted ++ [(.constrained name constraint :: rest, entry)]) =
      if constraint ∈ constraintsAhead planted then constraintsAhead planted
      else constraintsAhead planted ++ [constraint] := by
  simp only [constraintsAhead, firstConstraint?, List.filterMap_append, List.filterMap_cons, List.filterMap_nil,
    eraseDups_concat, List.mem_eraseDups]

/-- One more plant grows the root as an insertion does. -/
theorem rootOf_concat (ignoreCase : Bool) (planted : List (List Segment × ρ))
    (plant : List Segment × ρ) :
    rootOf ignoreCase (planted ++ [plant]) =
      (rootOf ignoreCase planted).insert ignoreCase plant.2 plant.1 := by
  obtain ⟨segments, entry⟩ := plant
  cases segments with
  | nil =>
    simp only [rootOf, insert, ended_concat, onward_concat_nil, literalsAhead, constraintsAhead, firstConstraint?,
      under?, List.filterMap_append, List.filterMap_cons, List.filterMap_nil, List.append_nil,
      ↓reduceIte]
  | cons segment rest =>
    have ends : ended (planted ++ [(segment :: rest, entry)]) = ended planted := by
      simp [ended_concat]
    cases segment with
    | literal value =>
      have grown := growUnder_map (literalKey ignoreCase value) (insert ignoreCase entry rest)
        (fun key => ofEntries ignoreCase (onward ignoreCase (.literal key) planted))
        (literalsAhead ignoreCase planted) (nodup_eraseDups _)
        (fun absent => by rw [onward_eq_nil_of_literal absent]; rfl)
      have constraints : constraintsAhead (planted ++ [(.literal value :: rest, entry)]) =
          constraintsAhead planted := by simp [constraintsAhead, firstConstraint?]
      simp only [rootOf, insert, ends, grown, constraints, literalsAhead_concat, under?_concat,
        ofEntries_onward_concat, Segment.edge, Edge.literal.injEq, reduceCtorEq, ↓reduceIte,
        eq_comm (a := literalKey ignoreCase value)]
    | constrained name constraint =>
      have grown := growUnder_map constraint (insert ignoreCase entry rest)
        (fun other => ofEntries ignoreCase (onward ignoreCase (.constrained other.source) planted))
        (constraintsAhead planted) (nodup_eraseDups _)
        (fun absent => by rw [onward_eq_nil_of_constraint absent]; rfl)
      have literals : literalsAhead ignoreCase (planted ++ [(.constrained name constraint :: rest, entry)]) =
          literalsAhead ignoreCase planted := by simp [literalsAhead]
      simp only [rootOf, insert, ends, grown, literals, constraintsAhead_concat, under?_concat,
        ofEntries_onward_concat, Segment.edge, Edge.constrained.injEq, Constraint.source_inj,
        reduceCtorEq, ↓reduceIte, eq_comm (a := constraint)]
    | capture name =>
      have literals : literalsAhead ignoreCase (planted ++ [(.capture name :: rest, entry)]) =
          literalsAhead ignoreCase planted := by simp [literalsAhead]
      have constraints : constraintsAhead (planted ++ [(.capture name :: rest, entry)]) =
          constraintsAhead planted := by simp [constraintsAhead, firstConstraint?]
      simp only [rootOf, insert, ends, literals, constraints, under?_concat, ofEntries_onward_concat,
        Segment.edge, reduceCtorEq, ↓reduceIte]
    | wildcard name =>
      have literals : literalsAhead ignoreCase (planted ++ [(.wildcard name :: rest, entry)]) =
          literalsAhead ignoreCase planted := by simp [literalsAhead]
      have constraints : constraintsAhead (planted ++ [(.wildcard name :: rest, entry)]) =
          constraintsAhead planted := by simp [constraintsAhead, firstConstraint?]
      simp only [rootOf, insert, ends, literals, constraints, under?_concat, ofEntries_onward_concat,
        Segment.edge, reduceCtorEq, ↓reduceIte]

/-- A trie grown by insertions is the root of its plants over the tries below. -/
theorem ofEntries_eq (ignoreCase : Bool) (planted : List (List Segment × ρ)) :
    ofEntries ignoreCase planted = rootOf ignoreCase planted := by
  induction planted using List.reverseRecOn with
  | nil => rfl
  | append_singleton planted plant ih => rw [ofEntries_concat, ih, rootOf_concat]

theorem entries_ofEntries (ignoreCase : Bool) (planted : List (List Segment × ρ)) :
    (ofEntries ignoreCase planted).entries = ended planted := by
  rw [ofEntries_eq, rootOf]

private theorem wildcardEntries_ofEntries (ignoreCase : Bool) (planted : List (List Segment × ρ)) :
    (ofEntries ignoreCase planted).wildcardEntries = ended (onward ignoreCase .wildcard planted) := by
  rw [ofEntries_eq]
  change ((under? ignoreCase .wildcard planted).map (·.entries)).getD [] = _
  rw [under?]
  split_ifs with none
  · rw [none]
    rfl
  · rw [Option.map_some, Option.getD_some, entries_ofEntries]

private theorem under?_of_nil {ignoreCase : Bool} {edge : Edge} {planted : List (List Segment × ρ)}
    (none : onward ignoreCase edge planted = []) : under? ignoreCase edge planted = Option.none :=
  if_pos none

/-- The trie below the edge that some plant takes. -/
theorem under?_of_mem (ignoreCase : Bool) {segment : Segment} {rest : List Segment} {entry : ρ}
    {planted : List (List Segment × ρ)} (member : (segment :: rest, entry) ∈ planted) :
    under? ignoreCase (segment.edge ignoreCase) planted =
      some (ofEntries ignoreCase (onward ignoreCase (segment.edge ignoreCase) planted)) :=
  if_neg (List.ne_nil_of_mem (mem_onward.mpr ⟨segment, rfl, member⟩))

private theorem lookup_literals (ignoreCase : Bool) (planted : List (List Segment × ρ)) (key : String) :
    (rootOf ignoreCase planted).literals.lookup key = under? ignoreCase (.literal key) planted := by
  rw [rootOf]
  by_cases present : key ∈ literalsAhead ignoreCase planted
  · obtain ⟨value, rest, entry, rfl, member⟩ := mem_literalsAhead.mp present
    exact (List.lookup_graph _ present).trans (under?_of_mem ignoreCase member).symm
  · rw [under?_of_nil (onward_eq_nil_of_literal present), List.lookup_eq_none_iff]
    intro pair member
    obtain ⟨other, otherMem, rfl⟩ := List.mem_map.mp member
    simpa using fun same : key = other => present (same ▸ otherMem)

private theorem find?_constrained (ignoreCase : Bool) (planted : List (List Segment × ρ)) (source : String) :
    ((rootOf ignoreCase planted).constrained.find? (·.1.source = source)).map (·.2) =
      under? ignoreCase (.constrained source) planted := by
  rw [rootOf, List.find?_map, Option.map_map]
  cases found : (constraintsAhead planted).find? ((fun branch : Constraint × Trie ρ => branch.1.source = source) ∘
      fun constraint => (constraint, ofEntries ignoreCase
        (onward ignoreCase (.constrained constraint.source) planted))) with
  | none =>
    have none : onward ignoreCase (.constrained source) planted = [] :=
      onward_eq_nil_of_source fun constraint member => by simpa using List.find?_eq_none.mp found constraint member
    exact (under?_of_nil none).symm
  | some constraint =>
    obtain rfl : constraint.source = source := by simpa using List.find?_some found
    obtain ⟨name, rest, entry, member⟩ := mem_constraintsAhead.mp (List.mem_of_find?_eq_some found)
    exact (under?_of_mem ignoreCase member).symm

/-- The children of a grown node are the tries below its edges. -/
theorem child?_ofEntries (ignoreCase : Bool) (planted : List (List Segment × ρ)) (edge : Edge) :
    (ofEntries ignoreCase planted).child? edge = under? ignoreCase edge planted := by
  rw [ofEntries_eq]
  cases edge with
  | literal key => exact lookup_literals ignoreCase planted key
  | constrained source => exact find?_constrained ignoreCase planted source
  | capture => rfl
  | wildcard => rfl

/-- A look-up finds nothing where nothing was planted. -/
@[simp] theorem walk_ofEntries_nothing (settings : MatchSettings) (raw values : List String) :
    walk settings (ofEntries settings.ignoreCase ([] : List (List Segment × ρ))) raw values = [] := by
  cases raw with
  | nil => rfl
  | cons segment rest => cases policy : settings.precedence <;>
      simp [ofEntries, walk, policy, wildcardEntries, candidate, Precedence.arrange]

/-- Looking below an edge that no plant takes finds nothing, as does looking below its trie. -/
private theorem walk_under? (settings : MatchSettings) (edge : Edge) (planted : List (List Segment × ρ))
    (raw values : List String) :
    (match under? settings.ignoreCase edge planted with
      | none => []
      | some child => walk settings child raw values) =
    walk settings (ofEntries settings.ignoreCase (onward settings.ignoreCase edge planted)) raw values := by
  rw [under?]
  split_ifs with none
  · rw [none, walk_ofEntries_nothing]
  · rfl

/-- Where the path ends, the plants that end there answer, and those that end with a wildcard. -/
theorem walk_ofEntries_nil (settings : MatchSettings) (planted : List (List Segment × ρ))
    (values : List String) :
    walk settings (ofEntries settings.ignoreCase planted) [] values =
      candidate (ended planted) values ++
        candidate (ended (onward settings.ignoreCase .wildcard planted)) (values ++ [""]) := by
  rw [walk, entries_ofEntries, wildcardEntries_ofEntries]

/-- The candidates below the constraints that accept a raw segment. -/
def walkConstrained (settings : MatchSettings) (planted : List (List Segment × ρ)) (segment : String)
    (rest values : List String) (constraints : List Constraint) : List (Candidate ρ) :=
  constraints.flatMap fun constraint =>
    if constraint.accepts (decodeSegment segment) then
      walk settings (ofEntries settings.ignoreCase
        (onward settings.ignoreCase (.constrained constraint.source) planted)) rest
        (values ++ [decodeSegment segment])
    else []

/-- Where a raw segment is ahead, each edge that it matches leads on to the plants that take it. -/
theorem walk_ofEntries_cons (settings : MatchSettings) (planted : List (List Segment × ρ))
    (segment : String) (rest values : List String) :
    walk settings (ofEntries settings.ignoreCase planted) (segment :: rest) values =
      settings.precedence.arrange
        (walk settings (ofEntries settings.ignoreCase (onward settings.ignoreCase
          (.literal (literalKey settings.ignoreCase segment)) planted)) rest values)
        (walkConstrained settings planted segment rest values (constraintsAhead planted))
        (walk settings (ofEntries settings.ignoreCase (onward settings.ignoreCase .capture planted)) rest
          (values ++ [decodeSegment segment]))
        (candidate (ended (onward settings.ignoreCase .wildcard planted))
          (values ++ [wildcardValue (segment :: rest)])) := by
  rw [walk, wildcardEntries_ofEntries, ofEntries_eq]
  congr 1
  · rw [lookup_literals]
    exact walk_under? settings _ planted rest values
  · simp only [rootOf, walkConstrained, List.flatMap_map]
  · exact walk_under? settings .capture planted rest _

end Trie

end HttpRouting

import HttpRouting.Proofs.Lookup

/-! # Look-ups in related tries

Two tries give related candidates when their plants stay related on every edge. `InStep` collects what that
takes, and `InStep.walk` follows one path through both tries at once. A beginning that all plants have in
common is passed before anything is found: the look-up below it is the one in the trie of the plants
without it, and a path that does not match the beginning finds nothing.
-/

namespace HttpRouting

namespace Precedence

variable {α : Type} (precedence : Precedence) (items : List α)

@[simp] theorem arrange_literals : precedence.arrange items [] [] [] = items := by
  cases precedence <;> simp [arrange]

@[simp] theorem arrange_constrained : precedence.arrange [] items [] [] = items := by
  cases precedence <;> simp [arrange]

@[simp] theorem arrange_captures : precedence.arrange [] [] items [] = items := by
  cases precedence <;> simp [arrange]

end Precedence

@[simp] theorem candidate_nil {ρ : Type} (values : List String) :
    candidate ([] : List ρ) values = [] :=
  rfl

/-- Candidates with related entries, where the values of the second have some more in front. -/
structure Candidate.Agree {ρ σ : Type} (Q : List ρ → List σ → Prop) (front : List String)
    (found : Candidate ρ) (other : Candidate σ) : Prop where
  routes : Q found.routes other.routes
  values : other.values = front ++ found.values

namespace Trie

variable {ρ σ : Type}

/-- A relation of plants that every edge keeps, with the relation it gives for the entries that end at
one node. -/
structure InStep (ignoreCase : Bool)
    (P : List (List Segment × ρ) → List (List Segment × σ) → Prop) (Q : List ρ → List σ → Prop) :
    Prop where
  onward : ∀ {left right}, P left right → ∀ edge,
    P (onward ignoreCase edge left) (onward ignoreCase edge right)
  ended : ∀ {left right}, P left right → Q (ended left) (ended right)
  constraints : ∀ {left right}, P left right → constraintsAhead right = constraintsAhead left
  empty : ∀ {left right}, Q left right → (right = [] ↔ left = [])

namespace InStep

variable {settings : MatchSettings} {P : List (List Segment × ρ) → List (List Segment × σ) → Prop}
  {Q : List ρ → List σ → Prop}

theorem candidate {ignoreCase : Bool} (step : InStep ignoreCase P Q) {left : List ρ} {right : List σ}
    (related : Q left right) (front values : List String) :
    List.Forall₂ (Candidate.Agree Q front) (candidate left values)
      (HttpRouting.candidate right (front ++ values)) := by
  simp only [HttpRouting.candidate, List.isEmpty_iff, step.empty related]
  split_ifs
  · exact .nil
  · exact .cons ⟨related, rfl⟩ .nil

/-- Look-ups for one path in related tries give related candidates. -/
theorem walk (step : InStep settings.ignoreCase P Q) {left : List (List Segment × ρ)}
    {right : List (List Segment × σ)} (related : P left right) (front raw values : List String) :
    List.Forall₂ (Candidate.Agree Q front)
      (walk settings (ofEntries settings.ignoreCase left) raw values)
      (Trie.walk settings (ofEntries settings.ignoreCase right) raw (front ++ values)) := by
  induction raw generalizing left right values with
  | nil =>
    rw [walk_ofEntries_nil, walk_ofEntries_nil, List.append_assoc]
    exact List.rel_append (step.candidate (step.ended related) front values)
      (step.candidate (step.ended (step.onward related .wildcard)) front (values ++ [""]))
  | cons segment rest ih =>
    rw [walk_ofEntries_cons, walk_ofEntries_cons, List.append_assoc, List.append_assoc]
    refine settings.precedence.forall₂_arrange (ih (step.onward related _) values) ?_
      (ih (step.onward related .capture) _)
      (step.candidate (step.ended (step.onward related .wildcard)) front _)
    rw [walkConstrained, walkConstrained, step.constraints related]
    refine List.rel_flatMap (List.forall₂_eq_eq_eq ▸ rfl) ?_
    rintro constraint _ rfl
    dsimp only
    split_ifs
    · rw [List.append_assoc]
      exact ih (step.onward related _) _
    · exact .nil

end InStep

/-- Plants of the same segments with related entries. -/
inductive Parallel (R : ρ → σ → Prop) : List Segment × ρ → List Segment × σ → Prop
  | intro {entry : ρ} {other : σ} (segments : List Segment) (holds : R entry other) :
    Parallel R (segments, entry) (segments, other)

/-- Plants that are related one by one stay so on every edge. -/
theorem inStep_parallel (ignoreCase : Bool) (R : ρ → σ → Prop) :
    InStep ignoreCase (List.Forall₂ (Parallel R)) (List.Forall₂ R) where
  onward related edge := by
    refine List.rel_filterMap ?_ related
    rintro _ _ ⟨segments, holds⟩
    cases segments with
    | nil => exact .none
    | cons segment rest =>
      dsimp only
      split_ifs
      · exact .some ⟨rest, holds⟩
      · exact .none
  ended related := by
    refine List.rel_map ?_ (List.rel_filter ?_ related)
    · rintro _ _ ⟨segments, holds⟩
      exact holds
    · rintro _ _ ⟨segments, holds⟩
      rfl
  constraints {left right} related := by
    have segments : right.map (·.1) = left.map (·.1) :=
      map_eq_of_forall₂ (related.imp fun _ _ ⟨_, _⟩ => rfl)
    have firsts := congrArg (List.filterMap firstConstraint?) segments
    rw [List.filterMap_map, List.filterMap_map] at firsts
    exact congrArg List.eraseDups firsts
  empty related := by
    cases related <;> simp

/-- Whether patterns that begin with one shape never go on with different constraints. -/
def Unmixed (ignoreCase : Bool) (patterns : List (List Segment)) : Prop :=
  ∀ left ∈ patterns, ∀ right ∈ patterns, ∀ place,
    (left.take place).map (Segment.edge ignoreCase) = (right.take place).map (Segment.edge ignoreCase) →
    ∀ name name' constraint constraint', left[place]? = some (.constrained name constraint) →
      right[place]? = some (.constrained name' constraint') → constraint.source = constraint'.source

theorem Unmixed.mono {ignoreCase : Bool} {patterns others : List (List Segment)}
    (unmixed : Unmixed ignoreCase patterns) (among : ∀ pattern ∈ others, pattern ∈ patterns) :
    Unmixed ignoreCase others :=
  fun left leftMem right rightMem =>
    unmixed left (among left leftMem) right (among right rightMem)

/-- The same plants in another order, as far as `erase` tells their entries apart. -/
structure Shuffled {τ : Type} (ignoreCase : Bool) (erase : ρ → τ)
    (left right : List (List Segment × ρ)) : Prop where
  perm : (left.map (Prod.map id erase)).Perm (right.map (Prod.map id erase))
  unmixed : Unmixed ignoreCase (left.map (·.1))

private theorem onward_map {τ : Type} (ignoreCase : Bool) (edge : Edge) (erase : ρ → τ)
    (planted : List (List Segment × ρ)) :
    onward ignoreCase edge (planted.map (Prod.map id erase)) =
      (onward ignoreCase edge planted).map (Prod.map id erase) := by
  rw [onward, onward, List.filterMap_map, List.map_filterMap]
  refine List.filterMap_congr fun plant _ => ?_
  obtain ⟨segments, entry⟩ := plant
  cases segments with
  | nil => rfl
  | cons segment rest =>
    by_cases same : segment.edge ignoreCase = edge
    · simp [same]
    · simp [same]

private theorem ended_map {τ : Type} (erase : ρ → τ) (planted : List (List Segment × ρ)) :
    ended (planted.map (Prod.map id erase)) = (ended planted).map erase := by
  rw [ended, ended, List.filter_map, List.map_map, List.map_map]
  rfl

theorem Unmixed.onward {ignoreCase : Bool} {planted : List (List Segment × ρ)}
    (unmixed : Unmixed ignoreCase (planted.map (·.1))) (edge : Edge) :
    Unmixed ignoreCase ((Trie.onward ignoreCase edge planted).map (·.1)) := by
  intro left leftMem right rightMem place begun name name' constraint constraint' here there
  obtain ⟨⟨_, entry⟩, leftPlant, rfl⟩ := List.mem_map.mp leftMem
  obtain ⟨⟨_, entry'⟩, rightPlant, rfl⟩ := List.mem_map.mp rightMem
  obtain ⟨segment, rfl, origin⟩ := mem_onward.mp leftPlant
  obtain ⟨segment', same, origin'⟩ := mem_onward.mp rightPlant
  refine unmixed _ (List.mem_map_of_mem origin) _ (List.mem_map_of_mem origin') (place + 1) ?_ name name'
    constraint constraint' here there
  simp only [List.take_succ_cons, List.map_cons, same, begun]

/-- Unmixed plants in another order use the same constraint first, if any. -/
theorem Shuffled.constraintsAhead {τ : Type} {ignoreCase : Bool} {erase : ρ → τ}
    {left right : List (List Segment × ρ)} (shuffled : Shuffled ignoreCase erase left right) :
    constraintsAhead right = Trie.constraintsAhead left := by
  have segments : (left.map (·.1)).Perm (right.map (·.1)) := by
    have perm := shuffled.perm.map Prod.fst
    rwa [List.map_map, List.map_map] at perm
  have firsts := segments.filterMap firstConstraint?
  have alike : ∀ constraint ∈ (left.map (·.1)).filterMap firstConstraint?,
      ∀ other ∈ (left.map (·.1)).filterMap firstConstraint?, constraint = other := by
    intro constraint member other otherMem
    obtain ⟨pattern, patternMem, first⟩ := List.mem_filterMap.mp member
    obtain ⟨pattern', patternMem', first'⟩ := List.mem_filterMap.mp otherMem
    obtain ⟨name, rest, rfl⟩ := firstConstraint?_eq_some.mp first
    obtain ⟨name', rest', rfl⟩ := firstConstraint?_eq_some.mp first'
    exact Constraint.eq_of_source_eq
      (shuffled.unmixed _ patternMem _ patternMem' 0 rfl name name' _ _ rfl rfl)
  have same := eq_of_perm_of_all_eq firsts alike
  rw [List.filterMap_map, List.filterMap_map] at same
  exact congrArg List.eraseDups same.symm

/-- Unmixed plants in another order stay so on every edge. -/
theorem inStep_shuffled {τ : Type} (ignoreCase : Bool) (erase : ρ → τ) :
    InStep ignoreCase (Shuffled ignoreCase erase)
      fun left right => (left.map erase).Perm (right.map erase) where
  onward shuffled edge := by
    refine ⟨?_, shuffled.unmixed.onward edge⟩
    rw [← onward_map, ← onward_map]
    exact shuffled.perm.filterMap _
  ended shuffled := by
    rw [← ended_map, ← ended_map]
    exact (shuffled.perm.filter _).map _
  constraints shuffled := shuffled.constraintsAhead
  empty perm := by
    have lengths := perm.length_eq
    rw [List.length_map, List.length_map] at lengths
    rw [← List.length_eq_zero_iff, ← List.length_eq_zero_iff, lengths]

def headed (head : List Segment) (planted : List (List Segment × ρ)) : List (List Segment × ρ) :=
  planted.map fun plant => (head ++ plant.1, plant.2)

private theorem onward_headed (ignoreCase : Bool) (edge : Edge) (segment : Segment) (head : List Segment)
    (planted : List (List Segment × ρ)) :
    onward ignoreCase edge (headed (segment :: head) planted) =
      if segment.edge ignoreCase = edge then headed head planted else [] := by
  by_cases same : segment.edge ignoreCase = edge
  · simp [onward, headed, same]
  · simp [onward, headed, same]

private theorem ended_headed (segment : Segment) (head : List Segment) (planted : List (List Segment × ρ)) :
    ended (headed (segment :: head) planted) = [] := by
  simp [ended, headed, List.filter_map, Function.comp_def]

/-- The constraints that come first where all plants have one first segment. -/
theorem constraintsAhead_headed (segment : Segment) (head : List Segment)
    {planted : List (List Segment × ρ)} (some : planted ≠ []) :
    constraintsAhead (headed (segment :: head) planted) =
      match segment with
      | .constrained _ constraint => [constraint]
      | _ => [] := by
  obtain ⟨plant, planted, rfl⟩ := List.exists_cons_of_ne_nil some
  cases segment with
  | constrained name constraint =>
    simp [constraintsAhead, firstConstraint?, headed, List.filterMap_map, List.eraseDups_cons]
  | literal _ => simp [constraintsAhead, firstConstraint?, headed, List.filterMap_map]
  | capture _ => simp [constraintsAhead, firstConstraint?, headed, List.filterMap_map]
  | wildcard _ => simp [constraintsAhead, firstConstraint?, headed, List.filterMap_map]

/-- Where all plants have one first segment, a raw segment that matches it leads past it and any other
leads nowhere. -/
theorem walk_headed_cons (settings : MatchSettings) {segment : Segment}
    (plain : segment.isWildcard = false) (head : List Segment) (planted : List (List Segment × ρ))
    (raw : String) (rest values : List String) :
    walk settings (ofEntries settings.ignoreCase (headed (segment :: head) planted)) (raw :: rest)
        values =
      match segment.matches? settings.ignoreCase raw with
      | none => []
      | some found =>
        walk settings (ofEntries settings.ignoreCase (headed head planted)) rest
          (values ++ found.values) := by
  -- without a plant the trie has no node for the beginning either
  by_cases some : planted = []
  · subst some
    simp only [headed, List.map_nil, walk_ofEntries_nothing]
    split <;> rfl
  · rw [walk_ofEntries_cons, walkConstrained, constraintsAhead_headed segment head some]
    simp only [onward_headed]
    cases segment with
    | literal value =>
      by_cases same : literalKey settings.ignoreCase value = literalKey settings.ignoreCase raw
      · simp [Segment.edge, Segment.matches?, same, SegmentMatch.values]
      · simp [Segment.edge, Segment.matches?, same]
    | capture name => simp [Segment.edge, Segment.matches?, SegmentMatch.values]
    | constrained name constraint =>
      by_cases accepted : constraint.accepts (decodeSegment raw)
      · simp [Segment.edge, Segment.matches?, accepted, SegmentMatch.values]
      · simp [Segment.edge, Segment.matches?, accepted]
    | wildcard name => cases plain

/-- A beginning without a wildcard that all plants have in common is passed before anything is found. -/
theorem walk_headed (settings : MatchSettings) {head : List Segment}
    (plain : ∀ segment ∈ head, segment.isWildcard = false) (planted : List (List Segment × ρ))
    (raw values : List String) :
    walk settings (ofEntries settings.ignoreCase (headed head planted)) raw values =
      match matchSegments? settings.ignoreCase head (raw.take head.length) with
      | none => []
      | some captured =>
        walk settings (ofEntries settings.ignoreCase planted) (raw.drop head.length)
          (values ++ captured) := by
  induction head generalizing raw values with
  | nil => simp [headed, matchSegments?]
  | cons segment head ih =>
    obtain ⟨here, later⟩ := List.forall_mem_cons.mp plain
    cases raw with
    | nil =>
      have missed : matchSegments? settings.ignoreCase (segment :: head) [] = none := by
        cases segment with
        | wildcard _ => cases here
        | _ => rfl
      have elsewhere : segment.edge settings.ignoreCase ≠ .wildcard := by
        intro same
        obtain ⟨name, rfl⟩ := Segment.edge_wildcard.mp same
        cases here
      rw [walk_ofEntries_nil, ended_headed, onward_headed, if_neg elsewhere, List.take_nil, missed]
      rfl
    | cons first rest =>
      rw [walk_headed_cons settings here, List.length_cons, List.take_succ_cons, List.drop_succ_cons]
      cases matched : segment.matches? settings.ignoreCase first with
      | none => rw [matchSegments?_cons_none matched here]
      | some found =>
        rw [matchSegments?_cons matched]
        dsimp only
        rw [ih later]
        cases matchSegments? settings.ignoreCase head (rest.take head.length) with
        | none => rfl
        | some captured => simp

end Trie

end HttpRouting

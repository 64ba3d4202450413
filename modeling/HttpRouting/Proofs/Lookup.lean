import HttpRouting.Proofs.TrieGrowth
import HttpRouting.Route.Index

/-! # What a look-up finds

The trie agrees with the direct matcher. Each candidate of a look-up is a node, that is, all entries of
one shape in the order in which they were inserted; it stands in the list exactly when its shape matches
the path, and its values are those that matching any of its patterns directly gives. The shapes of the
candidates come in order of precedence, each before the next at the first edge where they differ, so no
shape occurs twice and no entry is found twice.
-/

namespace HttpRouting

/-- The place of an edge among the edges that may follow one beginning. -/
def Edge.rank (precedence : Precedence) : Edge → Nat
  | .literal _ => 0
  | .constrained _ => if precedence = .regex then 1 else 2
  | .capture => if precedence = .regex then 2 else 1
  | .wildcard => 3

theorem Precedence.mem_arrange {α : Type} {precedence : Precedence}
    {literals constrained captures remaining : List α} {item : α} :
    item ∈ precedence.arrange literals constrained captures remaining ↔
      item ∈ literals ∨ item ∈ constrained ∨ item ∈ captures ∨ item ∈ remaining := by
  cases precedence with
  | regex => simp [arrange]
  | capture =>
    simp only [arrange, List.mem_append, or_assoc]
    rw [or_left_comm (a := item ∈ captures)]

/-- What relates the parts one by one relates their arrangements. -/
theorem Precedence.forall₂_arrange {α β : Type} {R : α → β → Prop} (precedence : Precedence)
    {a b c d : List α} {a' b' c' d' : List β} (first : List.Forall₂ R a a')
    (second : List.Forall₂ R b b') (third : List.Forall₂ R c c') (fourth : List.Forall₂ R d d') :
    List.Forall₂ R (precedence.arrange a b c d) (precedence.arrange a' b' c' d') := by
  cases precedence with
  | regex => exact List.rel_append (List.rel_append (List.rel_append first second) third) fourth
  | capture => exact List.rel_append (List.rel_append (List.rel_append first third) second) fourth

theorem Segment.edge_literal {ignoreCase : Bool} {segment : Segment} {key : String} :
    segment.edge ignoreCase = .literal key ↔
      ∃ value, segment = .literal value ∧ literalKey ignoreCase value = key := by
  cases segment <;> simp [Segment.edge]

theorem Segment.edge_constrained {ignoreCase : Bool} {segment : Segment} {constraint : Constraint} :
    segment.edge ignoreCase = .constrained constraint.source ↔
      ∃ name, segment = .constrained name constraint := by
  cases segment <;> simp [Segment.edge, Constraint.source_inj]

theorem Segment.edge_capture {ignoreCase : Bool} {segment : Segment} :
    segment.edge ignoreCase = .capture ↔ ∃ name, segment = .capture name := by
  cases segment <;> simp [Segment.edge]

theorem Segment.edge_wildcard {ignoreCase : Bool} {segment : Segment} :
    segment.edge ignoreCase = .wildcard ↔ ∃ name, segment = .wildcard name := by
  cases segment <;> simp [Segment.edge]

/-- Every segment at an edge matches a raw segment and captures the same values there. -/
def Edge.Takes (ignoreCase : Bool) (raw : String) (gained : List String) (edge : Edge) : Prop :=
  ∀ next : Segment, next.edge ignoreCase = edge →
    ∃ result, next.matches? ignoreCase raw = some result ∧ result.values = gained

theorem Edge.takes_literal (ignoreCase : Bool) (raw : String) :
    (Edge.literal (literalKey ignoreCase raw)).Takes ignoreCase raw [] := by
  intro next same
  obtain ⟨value, rfl, key⟩ := Segment.edge_literal.mp same
  exact ⟨.literal, by rw [Segment.matches?, if_pos key], rfl⟩

theorem Edge.takes_capture (ignoreCase : Bool) (raw : String) :
    Edge.capture.Takes ignoreCase raw [decodeSegment raw] := by
  intro next same
  obtain ⟨name, rfl⟩ := Segment.edge_capture.mp same
  exact ⟨_, rfl, rfl⟩

theorem Edge.takes_constrained (ignoreCase : Bool) {raw : String} {constraint : Constraint}
    (accepted : constraint.accepts (decodeSegment raw)) :
    (Edge.constrained constraint.source).Takes ignoreCase raw [decodeSegment raw] := by
  intro next same
  obtain ⟨name, rfl⟩ := Segment.edge_constrained.mp same
  exact ⟨_, by rw [Segment.matches?, if_pos accepted], rfl⟩

/-- A segment that matches a raw segment passes the rest of the path on to the rest of the pattern. -/
theorem matchSegments?_cons {ignoreCase : Bool} {segment : Segment} {raw : String}
    {found : SegmentMatch} (matched : segment.matches? ignoreCase raw = some found)
    (segments : List Segment) (rest : List String) :
    matchSegments? ignoreCase (segment :: segments) (raw :: rest) =
      (matchSegments? ignoreCase segments rest).map (found.values ++ ·) := by
  rw [matchSegments?]
  · rw [matched]
    cases matchSegments? ignoreCase segments rest <;> rfl
  · rintro name rfl
    cases matched

theorem matchSegments?_cons_none {ignoreCase : Bool} {segment : Segment} {raw : String}
    (missed : segment.matches? ignoreCase raw = none) (different : segment.isWildcard = false)
    (segments : List Segment) (rest : List String) :
    matchSegments? ignoreCase (segment :: segments) (raw :: rest) = none := by
  rw [matchSegments?]
  · rw [missed]
    rfl
  · rintro name rfl
    cases different

@[simp] theorem matchSegments?_wildcard (ignoreCase : Bool) (name : Option String) (raw : List String) :
    matchSegments? ignoreCase [.wildcard name] raw = some [wildcardValue raw] := by
  rw [matchSegments?]

/-- How a list of segments can match: both lists end, a wildcard takes what is left, or the first
segments match and so does the rest. -/
theorem matchSegments?_cases {ignoreCase : Bool} {segments : List Segment} {raw captured : List String}
    (matched : matchSegments? ignoreCase segments raw = some captured) :
    (segments = [] ∧ raw = [] ∧ captured = []) ∨
    (∃ name, segments = [.wildcard name] ∧ captured = [wildcardValue raw]) ∨
    ∃ segment later first rest found gained, segments = segment :: later ∧ raw = first :: rest ∧
      segment.matches? ignoreCase first = some found ∧
      matchSegments? ignoreCase later rest = some gained ∧ captured = found.values ++ gained := by
  rw [matchSegments?.eq_def] at matched
  split at matched
  · exact .inl ⟨rfl, rfl, (Option.some.inj matched).symm⟩
  · cases matched
  · exact .inr (.inl ⟨_, rfl, (Option.some.inj matched).symm⟩)
  · cases matched
  · rename_i segment later first rest _
    obtain ⟨found, first?, tail⟩ := Option.bind_eq_some_iff.mp matched
    obtain ⟨gained, later?, equal⟩ := Option.bind_eq_some_iff.mp tail
    exact .inr (.inr ⟨segment, later, first, rest, found, gained, rfl, rfl, first?, later?,
      (Option.some.inj equal).symm⟩)

namespace Trie

variable {ρ : Type}

/-- The entries of one shape, in the order in which they were planted. -/
def ofShape (ignoreCase : Bool) (shape : List Edge) (planted : List (List Segment × ρ)) : List ρ :=
  (planted.filter fun plant => plant.1.map (Segment.edge ignoreCase) = shape).map (·.2)

theorem ofShape_nil (ignoreCase : Bool) (planted : List (List Segment × ρ)) :
    ofShape ignoreCase [] planted = ended planted := by
  simp only [ofShape, ended, ← List.isEmpty_iff, List.isEmpty_map, Bool.decide_eq_true]

/-- Entries of a longer shape are those of its rest, below its first edge. -/
theorem ofShape_cons (ignoreCase : Bool) (edge : Edge) (shape : List Edge)
    (planted : List (List Segment × ρ)) :
    ofShape ignoreCase (edge :: shape) planted =
      ofShape ignoreCase shape (onward ignoreCase edge planted) := by
  induction planted with
  | nil => rfl
  | cons plant planted ih =>
    obtain ⟨segments, entry⟩ := plant
    simp only [ofShape, onward] at ih ⊢
    cases segments with
    | nil => simpa using ih
    | cons segment rest =>
      by_cases same : segment.edge ignoreCase = edge
      · by_cases shaped : rest.map (Segment.edge ignoreCase) = shape
        · simpa [same, shaped] using ih
        · simpa [same, shaped] using ih
      · simpa [same] using ih

private theorem ofShape_wildcard (ignoreCase : Bool) (planted : List (List Segment × ρ)) :
    ofShape ignoreCase [.wildcard] planted = ended (onward ignoreCase .wildcard planted) := by
  rw [ofShape_cons, ofShape_nil]

/-- A lone wildcard takes all that is left of the path. -/
theorem matchSegments?_of_wildcard {ignoreCase : Bool} {segments : List Segment}
    (shaped : segments.map (Segment.edge ignoreCase) = [.wildcard]) (raw : List String) :
    matchSegments? ignoreCase segments raw = some [wildcardValue raw] := by
  obtain ⟨segment, rfl, same⟩ := List.map_eq_singleton_iff.mp shaped
  obtain ⟨name, rfl⟩ := Segment.edge_wildcard.mp same
  rw [matchSegments?_wildcard]

/-- What a candidate is: all entries of one shape, with the values that each of their patterns
captures. -/
structure Finds (ignoreCase : Bool) (planted : List (List Segment × ρ)) (raw values : List String)
    (shape : List Edge) (found : Candidate ρ) : Prop where
  routes : found.routes = ofShape ignoreCase shape planted
  nonempty : found.routes ≠ []
  values : ∃ captured, found.values = values ++ captured ∧ ∀ plant ∈ planted,
    plant.1.map (Segment.edge ignoreCase) = shape → matchSegments? ignoreCase plant.1 raw = some captured

/-- The order of shapes among plants: at the first edge where they differ the kinds of the edges
decide, and between two constraints the one that was used first there; a shape that ends comes before
one that goes on with a wildcard. -/
inductive Precedes (settings : MatchSettings) :
    List (List Segment × ρ) → List Edge → List Edge → Prop
  | ends {planted : List (List Segment × ρ)} : Precedes settings planted [] [.wildcard]
  | kind {planted : List (List Segment × ρ)} {edge other : Edge} {shape rest : List Edge}
      (sooner : edge.rank settings.precedence < other.rank settings.precedence) :
      Precedes settings planted (edge :: shape) (other :: rest)
  | constraint {planted : List (List Segment × ρ)} {first second : Constraint}
      {shape rest : List Edge} (differs : first ≠ second)
      (sooner : [first, second].Sublist (constraintsAhead planted)) :
      Precedes settings planted (.constrained first.source :: shape) (.constrained second.source :: rest)
  | onward {planted : List (List Segment × ρ)} {edge : Edge} {shape rest : List Edge}
      (later : Precedes settings (onward settings.ignoreCase edge planted) shape rest) :
      Precedes settings planted (edge :: shape) (edge :: rest)

theorem Precedes.ne {settings : MatchSettings} {planted : List (List Segment × ρ)}
    {shape other : List Edge} (order : Precedes settings planted shape other) : shape ≠ other := by
  induction order with
  | ends => simp
  | kind sooner =>
    intro same
    rw [(List.cons.inj same).1] at sooner
    exact Nat.lt_irrefl _ sooner
  | constraint differs _ =>
    intro same
    exact differs (Constraint.eq_of_source_eq (Edge.constrained.inj (List.cons.inj same).1))
  | onward _ ih => exact fun same => ih (List.cons.inj same).2

/-- A candidate for one shape is what look-ups find, unless the shape has no entry. -/
theorem candidate_finds {ignoreCase : Bool} (planted : List (List Segment × ρ)) (raw : List String)
    (shape : List Edge) (values : List String) {captured : List String}
    (matched : ∀ plant ∈ planted, plant.1.map (Segment.edge ignoreCase) = shape →
      matchSegments? ignoreCase plant.1 raw = some captured) :
    ∃ shapes, shapes.Sublist [shape] ∧ List.Forall₂ (Finds ignoreCase planted raw values) shapes
      (candidate (ofShape ignoreCase shape planted) (values ++ captured)) := by
  rw [candidate]
  split_ifs with empty
  · exact ⟨[], List.nil_sublist _, .nil⟩
  · refine ⟨[shape], .refl _, .cons ⟨rfl, ?_, captured, rfl, matched⟩ .nil⟩
    simpa using empty

/-- What is found below an edge that a raw segment matches is found from above it. -/
theorem Finds.above {ignoreCase : Bool} {planted : List (List Segment × ρ)} {segment : String}
    {rest values gained : List String} {edge : Edge} {shape : List Edge} {found : Candidate ρ}
    (takes : edge.Takes ignoreCase segment gained)
    (inner : Finds ignoreCase (onward ignoreCase edge planted) rest (values ++ gained) shape found) :
    Finds ignoreCase planted (segment :: rest) values (edge :: shape) found := by
  obtain ⟨captured, valued, matched⟩ := inner.values
  refine ⟨?_, inner.nonempty, gained ++ captured, ?_, ?_⟩
  · rw [inner.routes, ofShape_cons]
  · rw [valued, List.append_assoc]
  · rintro ⟨segments, entry⟩ member shaped
    obtain ⟨next, later, rfl, same, shaped⟩ := List.map_eq_cons_iff.mp shaped
    obtain ⟨result, matches?, rfl⟩ := takes next same
    have tail := matched (later, entry) (mem_onward.mpr ⟨next, same, member⟩) shaped
    rw [matchSegments?_cons matches?, tail, Option.map_some]

private theorem forall₂_above {ignoreCase : Bool} {planted : List (List Segment × ρ)} {segment : String}
    {rest values gained : List String} {edge : Edge} {shapes : List (List Edge)}
    {candidates : List (Candidate ρ)}
    (takes : edge.Takes ignoreCase segment gained)
    (inner : List.Forall₂ (Finds ignoreCase (onward ignoreCase edge planted) rest (values ++ gained))
      shapes candidates) :
    List.Forall₂ (Finds ignoreCase planted (segment :: rest) values) (shapes.map (edge :: ·))
      candidates := by
  rw [List.forall₂_map_left_iff]
  exact inner.imp fun _ _ finds => finds.above takes

private theorem pairwise_above {settings : MatchSettings} {planted : List (List Segment × ρ)} {edge : Edge}
    {shapes : List (List Edge)}
    (inner : shapes.Pairwise (Precedes settings (onward settings.ignoreCase edge planted))) :
    (shapes.map (edge :: ·)).Pairwise (Precedes settings planted) :=
  List.pairwise_map.mpr (inner.imp .onward)

/-- Shapes that all begin with an edge of one place. -/
def BeginAt (precedence : Precedence) (place : Nat) (shapes : List (List Edge)) : Prop :=
  ∀ shape ∈ shapes, ∃ edge rest, shape = edge :: rest ∧ edge.rank precedence = place

private theorem beginAt_map (precedence : Precedence) (edge : Edge) (shapes : List (List Edge)) :
    BeginAt precedence (edge.rank precedence) (shapes.map (edge :: ·)) := by
  intro shape member
  obtain ⟨rest, _, rfl⟩ := List.mem_map.mp member
  exact ⟨edge, rest, rfl, rfl⟩

theorem BeginAt.precedes {settings : MatchSettings} {place later : Nat}
    {shapes others : List (List Edge)} (first : BeginAt settings.precedence place shapes)
    (planted : List (List Segment × ρ))
    (second : BeginAt settings.precedence later others) (sooner : place < later) :
    ∀ shape ∈ shapes, ∀ other ∈ others, Precedes settings planted shape other := by
  intro shape member other otherMember
  obtain ⟨edge, rest, rfl, rfl⟩ := first shape member
  obtain ⟨next, tail, rfl, rfl⟩ := second other otherMember
  exact .kind sooner

/-- Parts in order, each begun by edges of its own kind, stay in order when they are arranged. -/
theorem pairwise_arrange {settings : MatchSettings} {planted : List (List Segment × ρ)}
    {literals constrained captures remaining : List (List Edge)}
    (places : BeginAt settings.precedence 0 literals ∧
      BeginAt settings.precedence (if settings.precedence = .regex then 1 else 2) constrained ∧
      BeginAt settings.precedence (if settings.precedence = .regex then 2 else 1) captures ∧
      BeginAt settings.precedence 3 remaining)
    (first : literals.Pairwise (Precedes settings planted))
    (second : constrained.Pairwise (Precedes settings planted))
    (third : captures.Pairwise (Precedes settings planted))
    (fourth : remaining.Pairwise (Precedes settings planted)) :
    (settings.precedence.arrange literals constrained captures remaining).Pairwise
      (Precedes settings planted) := by
  obtain ⟨atLiterals, atConstrained, atCaptures, atRemaining⟩ := places
  have literalFirst := atLiterals.precedes planted atConstrained (by split_ifs <;> omega)
  have literalSooner := atLiterals.precedes planted atCaptures (by split_ifs <;> omega)
  have literalBefore := atLiterals.precedes planted atRemaining (by omega)
  have constrainedBefore := atConstrained.precedes planted atRemaining
    (by split_ifs <;> omega)
  have captureBefore := atCaptures.precedes planted atRemaining (by split_ifs <;> omega)
  cases policy : settings.precedence with
  | regex =>
    have between := atConstrained.precedes planted atCaptures (by simp [policy])
    simp only [Precedence.arrange, List.pairwise_append, List.mem_append, or_imp, forall_and]
    exact ⟨⟨⟨first, second, literalFirst⟩, third, literalSooner, between⟩, fourth,
      ⟨literalBefore, constrainedBefore⟩, captureBefore⟩
  | capture =>
    have between := atCaptures.precedes planted atConstrained (by simp [policy])
    simp only [Precedence.arrange, List.pairwise_append, List.mem_append, or_imp, forall_and]
    exact ⟨⟨⟨first, third, literalSooner⟩, second, literalFirst, between⟩, fourth,
      ⟨literalBefore, captureBefore⟩, constrainedBefore⟩

/-- The candidates below some of the constraints, in their order. -/
theorem walkConstrained_shapes {settings : MatchSettings} {planted : List (List Segment × ρ)}
    {segment : String} {rest values : List String}
    (below : ∀ constraint : Constraint, ∃ shapes,
      List.Forall₂ (Finds settings.ignoreCase
          (onward settings.ignoreCase (.constrained constraint.source) planted) rest
          (values ++ [decodeSegment segment])) shapes
        (walk settings (ofEntries settings.ignoreCase
          (onward settings.ignoreCase (.constrained constraint.source) planted)) rest
          (values ++ [decodeSegment segment])) ∧
      shapes.Pairwise (Precedes settings
        (onward settings.ignoreCase (.constrained constraint.source) planted)))
    {constraints : List Constraint} (unique : constraints.Nodup)
    (ordered : constraints.Sublist (constraintsAhead planted)) :
    ∃ shapes, List.Forall₂ (Finds settings.ignoreCase planted (segment :: rest) values) shapes
        (walkConstrained settings planted segment rest values constraints) ∧
      shapes.Pairwise (Precedes settings planted) ∧
      ∀ shape ∈ shapes, ∃ constraint ∈ constraints, ∃ tail,
        shape = .constrained constraint.source :: tail := by
  induction constraints with
  | nil => exact ⟨[], .nil, .nil, by simp⟩
  | cons constraint constraints ih =>
    obtain ⟨absent, unique⟩ := List.nodup_cons.mp unique
    obtain ⟨later, laterFinds, laterOrder, laterBegin⟩ :=
      ih unique ((List.sublist_cons_self _ _).trans ordered)
    have begins : ∀ shape ∈ later, ∃ other ∈ constraint :: constraints, ∃ tail,
        shape = .constrained other.source :: tail := by
      intro shape member
      obtain ⟨other, otherMem, tail⟩ := laterBegin shape member
      exact ⟨other, List.mem_cons_of_mem _ otherMem, tail⟩
    rw [walkConstrained, List.flatMap_cons]
    split_ifs with accepted
    · obtain ⟨shapes, finds, order⟩ := below constraint
      refine ⟨shapes.map (.constrained constraint.source :: ·) ++ later,
        List.rel_append (forall₂_above (Edge.takes_constrained _ accepted) finds) laterFinds, ?_, ?_⟩
      · refine List.pairwise_append.mpr ⟨pairwise_above order, laterOrder, ?_⟩
        intro shape member other otherMem
        obtain ⟨tail, _, rfl⟩ := List.mem_map.mp member
        obtain ⟨second, secondMem, rest, rfl⟩ := laterBegin other otherMem
        refine .constraint (fun same => absent (same ▸ secondMem)) (.trans ?_ ordered)
        exact (List.singleton_sublist.mpr secondMem).cons_cons _
      · intro shape member
        rcases List.mem_append.mp member with head | tail
        · obtain ⟨tail, _, rfl⟩ := List.mem_map.mp head
          exact ⟨constraint, List.mem_cons_self .., tail, rfl⟩
        · exact begins shape tail
    · exact ⟨later, laterFinds, laterOrder, begins⟩

/-- Every candidate of a look-up is one shape that matches the path, and the shapes come in order. -/
theorem walk_shapes (settings : MatchSettings) (planted : List (List Segment × ρ))
    (raw values : List String) :
    ∃ shapes, List.Forall₂ (Finds settings.ignoreCase planted raw values) shapes
        (walk settings (ofEntries settings.ignoreCase planted) raw values) ∧
      shapes.Pairwise (Precedes settings planted) := by
  -- the plants vary with the path: below an edge they are those that go on over it
  induction raw generalizing planted values with
  | nil =>
    obtain ⟨here, hereShape, hereFinds⟩ := candidate_finds planted [] [] values (by
        rintro ⟨segments, entry⟩ _ shaped
        rw [List.map_eq_nil_iff.mp shaped, matchSegments?])
    obtain ⟨more, moreShape, moreFinds⟩ := candidate_finds planted [] [.wildcard] values
      (fun _ _ shaped => matchSegments?_of_wildcard shaped [])
    rw [ofShape_nil, List.append_nil] at hereFinds
    rw [ofShape_wildcard] at moreFinds
    refine ⟨here ++ more, ?_, ?_⟩
    · rw [walk_ofEntries_nil]
      exact List.rel_append hereFinds moreFinds
    · have order : [[], [Edge.wildcard]].Pairwise (Precedes settings planted) := by
        simpa using Precedes.ends
      exact order.sublist (hereShape.append moreShape)
  | cons segment rest ih =>
    obtain ⟨literals, literalFinds, literalOrder⟩ :=
      ih (onward settings.ignoreCase (.literal (literalKey settings.ignoreCase segment)) planted) values
    obtain ⟨captures, captureFinds, captureOrder⟩ :=
      ih (onward settings.ignoreCase .capture planted) (values ++ [decodeSegment segment])
    obtain ⟨constrained, constrainedFinds, constrainedOrder, constrainedBegin⟩ :=
      walkConstrained_shapes (fun constraint => ih
        (onward settings.ignoreCase (.constrained constraint.source) planted)
        (values ++ [decodeSegment segment])) (nodup_eraseDups _) (List.Sublist.refl
          (constraintsAhead planted))
    obtain ⟨remaining, remainingShape, remainingFinds⟩ := candidate_finds planted
      (segment :: rest) [.wildcard] values
      (fun _ _ shaped => matchSegments?_of_wildcard shaped (segment :: rest))
    rw [ofShape_wildcard] at remainingFinds
    refine ⟨settings.precedence.arrange
      (literals.map (.literal (literalKey settings.ignoreCase segment) :: ·)) constrained
      (captures.map (.capture :: ·)) remaining, ?_, ?_⟩
    · rw [walk_ofEntries_cons]
      exact Precedence.forall₂_arrange _
        (forall₂_above (Edge.takes_literal _ _) (by rwa [List.append_nil])) constrainedFinds
        (forall₂_above (Edge.takes_capture _ _) captureFinds) remainingFinds
    · refine pairwise_arrange ⟨beginAt_map _ _ _, ?_, beginAt_map _ _ _, ?_⟩
        (pairwise_above literalOrder) constrainedOrder (pairwise_above captureOrder)
        ((List.pairwise_singleton _ _).sublist remainingShape)
      · intro shape member
        obtain ⟨constraint, _, tail, rfl⟩ := constrainedBegin shape member
        exact ⟨_, tail, rfl, rfl⟩
      · intro shape member
        obtain rfl := List.mem_singleton.mp (remainingShape.subset member)
        exact ⟨.wildcard, [], rfl, rfl⟩

private theorem exists_mem_candidate {routes : List ρ} {entry : ρ} (member : entry ∈ routes)
    (values : List String) : ∃ found ∈ candidate routes values, entry ∈ found.routes := by
  have nonempty : routes.isEmpty = false := by
    rw [List.isEmpty_eq_false_iff]
    exact List.ne_nil_of_mem member
  exact ⟨⟨routes, values⟩, by simp [candidate, nonempty], member⟩

private theorem mem_ended {planted : List (List Segment × ρ)} {entry : ρ} :
    entry ∈ ended planted ↔ ([], entry) ∈ planted := by
  simp [ended]

private theorem mem_ended_wildcard (ignoreCase : Bool) {planted : List (List Segment × ρ)}
    {name : Option String} {entry : ρ} (member : ([.wildcard name], entry) ∈ planted) :
    entry ∈ ended (onward ignoreCase .wildcard planted) :=
  mem_ended.mpr (mem_onward.mpr ⟨.wildcard name, rfl, member⟩)

/-- Nothing that matches is missed. -/
theorem exists_candidate (settings : MatchSettings) {planted : List (List Segment × ρ)}
    {segments : List Segment} {entry : ρ} (member : (segments, entry) ∈ planted)
    {raw captured : List String} (values : List String)
    (matched : matchSegments? settings.ignoreCase segments raw = some captured) :
    ∃ found ∈ walk settings (ofEntries settings.ignoreCase planted) raw values,
      entry ∈ found.routes := by
  induction raw generalizing planted segments captured values with
  | nil =>
    rw [walk_ofEntries_nil]
    rcases matchSegments?_cases matched with ⟨rfl, _, _⟩ | ⟨name, rfl, _⟩ | ⟨_, _, _, _, _, _, _, raw, _⟩
    · obtain ⟨found, foundMem, inside⟩ := exists_mem_candidate (mem_ended.mpr member) values
      exact ⟨found, List.mem_append_left _ foundMem, inside⟩
    · obtain ⟨found, foundMem, inside⟩ :=
        exists_mem_candidate (mem_ended_wildcard settings.ignoreCase member)
          (values ++ [""])
      exact ⟨found, List.mem_append_right _ foundMem, inside⟩
    · cases raw
  | cons segment rest ih =>
    rw [walk_ofEntries_cons]
    simp only [Precedence.mem_arrange]
    rcases matchSegments?_cases matched with
      ⟨_, raw, _⟩ | ⟨name, rfl, _⟩ | ⟨first, later, _, _, result, gained, rfl, raw, first?, later?, _⟩
    · cases raw
    · obtain ⟨found, foundMem, inside⟩ :=
        exists_mem_candidate (mem_ended_wildcard settings.ignoreCase member)
          (values ++ [wildcardValue (segment :: rest)])
      exact ⟨found, .inr (.inr (.inr foundMem)), inside⟩
    · obtain ⟨rfl, rfl⟩ := List.cons.inj raw
      have onwardMem : (later, entry) ∈ onward settings.ignoreCase (first.edge settings.ignoreCase) planted :=
        mem_onward.mpr ⟨first, rfl, member⟩
      cases first with
      | literal value =>
        rw [Segment.matches?] at first?
        split_ifs at first? with key
        rw [Segment.edge, key] at onwardMem
        obtain ⟨found, foundMem, inside⟩ := ih onwardMem values later?
        exact ⟨found, .inl foundMem, inside⟩
      | capture name =>
        obtain ⟨found, foundMem, inside⟩ := ih onwardMem (values ++ [decodeSegment segment]) later?
        exact ⟨found, .inr (.inr (.inl foundMem)), inside⟩
      | constrained name constraint =>
        rw [Segment.matches?] at first?
        split_ifs at first? with accepted
        obtain ⟨found, foundMem, inside⟩ := ih onwardMem (values ++ [decodeSegment segment]) later?
        refine ⟨found, .inr (.inl (List.mem_flatMap.mpr ⟨constraint, ?_, ?_⟩)), inside⟩
        · exact mem_constraintsAhead.mpr ⟨name, later, entry, member⟩
        · rwa [if_pos accepted]
      | wildcard name => cases first?

end Trie

namespace RouteIndex

variable {ε : Type}

theorem collect_eq (index : RouteIndex ε) (raw : List String) :
    index.collect raw = Trie.walk index.settings
      (Trie.ofEntries index.settings.ignoreCase (index.routes.map Route.planted)) raw [] := by
  rw [collect, index.grown]

/-- The routes of one shape, as entries of the trie. -/
theorem ofShape_planted (ignoreCase : Bool) (shape : List Edge) (routes : List (Route ε)) :
    Trie.ofShape ignoreCase shape (routes.map Route.planted) =
      routes.filter fun route => route.pattern.shape ignoreCase = shape := by
  rw [Trie.ofShape, List.filter_map, List.map_map]
  exact List.map_id _

/-- What a look-up in an index finds: for each of some distinct shapes all routes of that shape, with
the values that matching them directly gives. -/
theorem collect_shapes (index : RouteIndex ε) (raw : List String) :
    ∃ shapes : List (List Edge),
      List.Forall₂ (fun shape found =>
          found.routes = index.routes.filter (fun route => index.shapeOf route.pattern = shape) ∧
          found.routes ≠ [] ∧ ∀ route ∈ found.routes,
            route.pattern.captures? index.settings.ignoreCase raw = some found.values)
        shapes (index.collect raw) ∧
      shapes.Pairwise (Trie.Precedes index.settings (index.routes.map Route.planted)) := by
  obtain ⟨shapes, finds, order⟩ := Trie.walk_shapes index.settings (index.routes.map Route.planted) raw []
  rw [← collect_eq] at finds
  refine ⟨shapes, finds.imp ?_, order⟩
  rintro shape found ⟨routes, nonempty, captured, values, matched⟩
  rw [ofShape_planted] at routes
  refine ⟨routes, nonempty, ?_⟩
  intro route member
  rw [routes, List.mem_filter, decide_eq_true_eq] at member
  rw [values, List.nil_append]
  exact matched route.planted (List.mem_map_of_mem member.1) member.2

/-- A route that matches the path is in some candidate. -/
theorem exists_mem_collect (index : RouteIndex ε) {raw : List String} {route : Route ε}
    (member : route ∈ index.routes)
    (matched : (route.pattern.captures? index.settings.ignoreCase raw).isSome) :
    ∃ found ∈ index.collect raw, route ∈ found.routes := by
  obtain ⟨values, matched⟩ := Option.isSome_iff_exists.mp matched
  rw [collect_eq]
  exact Trie.exists_candidate index.settings (List.mem_map_of_mem (f := Route.planted) member) [] matched

/-- The values of a candidate are those that matching any of its routes directly gives. -/
theorem captures?_of_mem_collect (index : RouteIndex ε) {raw : List String}
    {found : Candidate (Route ε)} (foundMem : found ∈ index.collect raw) {route : Route ε}
    (member : route ∈ found.routes) :
    route ∈ index.routes ∧ route.pattern.captures? index.settings.ignoreCase raw = some found.values := by
  obtain ⟨shapes, finds, _⟩ := index.collect_shapes raw
  obtain ⟨shape, _, routes, _, matched⟩ := exists_of_mem_right finds foundMem
  exact ⟨List.mem_of_mem_filter (routes ▸ member), matched route member⟩

/-- The routes of a candidate stand in order of registration. -/
theorem sublist_of_mem_collect (index : RouteIndex ε) {raw : List String}
    {found : Candidate (Route ε)} (foundMem : found ∈ index.collect raw) :
    found.routes.Sublist index.routes := by
  obtain ⟨shapes, finds, _⟩ := index.collect_shapes raw
  obtain ⟨shape, _, routes, _⟩ := exists_of_mem_right finds foundMem
  rw [routes]
  exact List.filter_sublist

/-- No route is in two candidates. -/
theorem collect_pairwise (index : RouteIndex ε) (raw : List String) :
    (index.collect raw).Pairwise fun found other => ∀ route ∈ found.routes, route ∉ other.routes := by
  obtain ⟨shapes, finds, order⟩ := index.collect_shapes raw
  refine pairwise_of_forall₂ ?_ finds order
  rintro shape other found rest ⟨routes, _⟩ ⟨others, _⟩ precedes route member otherMem
  rw [routes, List.mem_filter, decide_eq_true_eq] at member
  rw [others, List.mem_filter, decide_eq_true_eq] at otherMem
  exact precedes.ne (member.2.symm.trans otherMem.2)

/-- All candidates together hold the routes that match, each as often as the index has it. -/
theorem routes_collect_perm (index : RouteIndex ε) (raw : List String) :
    ((index.collect raw).flatMap (·.routes)).Perm (index.routes.filter fun route =>
      (route.pattern.captures? index.settings.ignoreCase raw).isSome) := by
  obtain ⟨shapes, finds, order⟩ := index.collect_shapes raw
  have shaped : ∀ route ∈ index.routes, index.shapeOf route.pattern ∈ shapes ↔
      (route.pattern.captures? index.settings.ignoreCase raw).isSome := by
    intro route member
    constructor
    · intro shapeMem
      obtain ⟨found, _, routes, _, matched⟩ := exists_of_mem_right finds.flip shapeMem
      rw [matched route (by simp [routes, member])]
      rfl
    · intro matched
      obtain ⟨found, foundMem, inside⟩ := index.exists_mem_collect member matched
      obtain ⟨shape, shapeMem, routes, _⟩ := exists_of_mem_right finds foundMem
      rw [routes, List.mem_filter, decide_eq_true_eq] at inside
      exact inside.2 ▸ shapeMem
  have flat : (index.collect raw).flatMap (·.routes) = shapes.flatMap fun shape =>
      index.routes.filter fun route => index.shapeOf route.pattern = shape :=
    flatMap_eq_of_forall₂ (finds.imp fun _ _ holds => holds.1)
  rw [flat]
  exact flatMap_filter_perm (fun route => index.shapeOf route.pattern) index.routes
    (order.imp fun precedes => precedes.ne) fun route member => (shaped route member).symm

/-- The trie agrees with the direct matcher, for every index built by insertions: the inserted routes
found are those that match the path, their candidates have the values that matching directly gives, no
route is in two candidates, and none is found more often than it was inserted. -/
theorem collect_agrees_with_captures? (settings : MatchSettings) (inserted : List (Route ε))
    (raw : List String) :
    let candidates := (inserted.foldl insert { settings }).collect raw
    (∀ route ∈ inserted, (∃ found ∈ candidates, route ∈ found.routes) ↔
      (route.pattern.captures? settings.ignoreCase raw).isSome) ∧
    (∀ found ∈ candidates, ∀ route ∈ found.routes, route ∈ inserted ∧
      route.pattern.captures? settings.ignoreCase raw = some found.values) ∧
    candidates.Pairwise (fun found other => ∀ route ∈ found.routes, route ∉ other.routes) ∧
    (candidates.flatMap (·.routes)).Perm (inserted.filter fun route =>
      (route.pattern.captures? settings.ignoreCase raw).isSome) := by
  intro candidates
  have routes : (inserted.foldl insert ({ settings } : RouteIndex ε)).routes = inserted := by simp
  have same : (inserted.foldl insert ({ settings } : RouteIndex ε)).settings = settings := by simp
  have sound : ∀ found ∈ candidates, ∀ route ∈ found.routes, route ∈ inserted ∧
      route.pattern.captures? settings.ignoreCase raw = some found.values := by
    intro found foundMem route member
    have agrees := captures?_of_mem_collect _ foundMem member
    rwa [routes, same] at agrees
  refine ⟨?_, sound, collect_pairwise _ raw, ?_⟩
  · intro route member
    constructor
    · rintro ⟨found, foundMem, inside⟩
      rw [(sound found foundMem route inside).2]
      rfl
    · intro matched
      exact exists_mem_collect _ (by rwa [routes]) (by rwa [same])
  · have together := routes_collect_perm (inserted.foldl insert ({ settings } : RouteIndex ε)) raw
    rwa [routes, same] at together

end RouteIndex

end HttpRouting

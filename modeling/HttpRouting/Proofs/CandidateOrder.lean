import HttpRouting.Proofs.Lookup

/-! # The order of candidates

The shapes of the candidates of a look-up come one ahead of the other. Which of two shapes is ahead is read at the
first place where they differ: the kinds of the edges decide there; between two constraints the one decides that
was inserted first below what the shapes have in common; and a shape that ends is ahead of one that goes on with a
wildcard. `Precedes` says it from edge to edge, as look-ups explore the trie; here it is said for whole shapes and
all that was inserted, and it is shown to be a strict order.
-/

namespace HttpRouting

/-- Nothing ranks behind a wildcard. -/
theorem Edge.rank_le (precedence : Precedence) (edge : Edge) : edge.rank precedence ≤ 3 := by
  cases edge <;> cases precedence <;> simp [Edge.rank]

namespace Trie

variable {ρ : Type} {settings : MatchSettings} {planted : List (List Segment × ρ)}

/-- The number of the first plant whose shape begins with these edges. -/
def firstUse (ignoreCase : Bool) (planted : List (List Segment × ρ)) (beginning : List Edge) : Nat :=
  planted.findIdx fun plant => beginning.isPrefixOf (plant.1.map (Segment.edge ignoreCase))

/-- What decides between two shapes after the edges that they have in common: `none` is the end of a shape. -/
inductive Sooner (settings : MatchSettings) (planted : List (List Segment × ρ)) (common : List Edge) :
    Option Edge → Option Edge → Prop
  | ends : Sooner settings planted common none (some .wildcard)
  | kind {edge other : Edge} (lower : edge.rank settings.precedence < other.rank settings.precedence) :
      Sooner settings planted common (some edge) (some other)
  | constraint {first second : String}
      (earlier : firstUse settings.ignoreCase planted (common ++ [.constrained first]) <
        firstUse settings.ignoreCase planted (common ++ [.constrained second])) :
      Sooner settings planted common (some (.constrained first)) (some (.constrained second))

/-- The order of shapes, by the first place where they differ. -/
def Ahead (settings : MatchSettings) (planted : List (List Segment × ρ)) (shape other : List Edge) : Prop :=
  ∃ place, shape.take place = other.take place ∧
    Sooner settings planted (shape.take place) shape[place]? other[place]?

theorem Sooner.irrefl {common : List Edge} {edge : Option Edge} : ¬Sooner settings planted common edge edge := by
  rintro (_ | lower | earlier)
  · omega
  · omega

theorem Sooner.trans {common : List Edge} {first second third : Option Edge}
    (left : Sooner settings planted common first second) (right : Sooner settings planted common second third) :
    Sooner settings planted common first third := by
  cases left with
  | ends =>
    cases right with
    | @kind _ other lower =>
      have last := other.rank_le settings.precedence
      rw [Edge.rank] at lower
      omega
  | kind lower =>
    cases right with
    | kind lower' => exact .kind (by omega)
    | constraint _ => exact .kind lower
  | constraint earlier =>
    cases right with
    | kind lower => exact .kind lower
    | constraint earlier' => exact .constraint (by omega)

theorem Ahead.irrefl {shape : List Edge} : ¬Ahead settings planted shape shape := by
  rintro ⟨place, _, sooner⟩
  exact sooner.irrefl

/-- Shapes that agree up to a place agree at every place before it. -/
private theorem agree_of_take {shape other : List Edge} {place before : Nat}
    (same : shape.take place = other.take place) (sooner : before < place) :
    shape.take before = other.take before ∧ shape[before]? = other[before]? := by
  constructor
  · have shorter := congrArg (List.take before) same
    rwa [List.take_take, List.take_take, Nat.min_eq_left (Nat.le_of_lt sooner)] at shorter
  · rw [← List.getElem?_take_of_lt sooner, same, List.getElem?_take_of_lt sooner]

theorem Ahead.trans {first second third : List Edge} (left : Ahead settings planted first second)
    (right : Ahead settings planted second third) : Ahead settings planted first third := by
  obtain ⟨place, same, sooner⟩ := left
  obtain ⟨place', same', sooner'⟩ := right
  -- the earlier of the two places is the one where the outer shapes differ
  rcases Nat.lt_trichotomy place place' with before | rfl | after
  · obtain ⟨agree, here⟩ := agree_of_take same' before
    exact ⟨place, same.trans agree, here ▸ sooner⟩
  · rw [← same] at sooner'
    exact ⟨place, same.trans same', sooner.trans sooner'⟩
  · obtain ⟨agree, here⟩ := agree_of_take same after
    rw [← agree, ← here] at sooner'
    exact ⟨place', agree.trans same', sooner'⟩

/-- Where plants that go on over an edge use one beginning before another, all plants use the edge and the one
beginning before the edge and the other. -/
theorem firstUse_lt_of_onward {ignoreCase : Bool} {edge : Edge} {beginning other : List Edge}
    (sooner : firstUse ignoreCase (onward ignoreCase edge planted) beginning <
      firstUse ignoreCase (onward ignoreCase edge planted) other) :
    firstUse ignoreCase planted (edge :: beginning) < firstUse ignoreCase planted (edge :: other) := by
  apply findIdx_lt_of_filterMap _ _ sooner
  all_goals
    rintro ⟨segments, entry⟩
    cases segments with
    | nil => rfl
    | cons segment rest =>
      rw [List.map_cons, List.isPrefixOf]
      by_cases same : segment.edge ignoreCase = edge
      · simp [same]
      · simp [same, Ne.symm same]

private theorem firstUse_lt_of_constraintsAhead {first second : Constraint}
    (sooner : [first, second].Sublist (constraintsAhead planted)) (ignoreCase : Bool) :
    firstUse ignoreCase planted [.constrained first.source] <
      firstUse ignoreCase planted [.constrained second.source] := by
  have begins : ∀ (constraint : Constraint) (plant : List Segment × ρ),
      [Edge.constrained constraint.source].isPrefixOf (plant.1.map (Segment.edge ignoreCase)) =
        (firstConstraint? plant.1).any (· == constraint) := by
    rintro constraint ⟨segments, entry⟩
    cases segments with
    | nil => rfl
    | cons segment rest =>
      cases segment with
      | constrained name other =>
        rw [firstConstraint?, Option.any_some, Bool.beq_comm]
        simp [Segment.edge, List.isPrefixOf, Constraint.source_inj]
      | _ => simp [firstConstraint?, Segment.edge, List.isPrefixOf]
  exact findIdx_lt_of_filterMap (begins first) (begins second) (idxOf_lt_of_eraseDups sooner)

theorem Sooner.above {edge : Edge} {common : List Edge} {next other : Option Edge}
    (sooner : Sooner settings (onward settings.ignoreCase edge planted) common next other) :
    Sooner settings planted (edge :: common) next other := by
  cases sooner with
  | ends => exact .ends
  | kind lower => exact .kind lower
  | constraint earlier => exact .constraint (firstUse_lt_of_onward earlier)

/-- What precedes from edge to edge is ahead. -/
theorem Precedes.ahead {shape other : List Edge} (order : Precedes settings planted shape other) :
    Ahead settings planted shape other := by
  induction order with
  | ends => exact ⟨0, rfl, .ends⟩
  | kind lower => exact ⟨0, rfl, .kind lower⟩
  | constraint _ sooner => exact ⟨0, rfl, .constraint (firstUse_lt_of_constraintsAhead sooner _)⟩
  | @onward planted edge shape rest _ ih =>
    obtain ⟨place, same, sooner⟩ := ih
    exact ⟨place + 1, congrArg (edge :: ·) same, sooner.above⟩

end Trie

namespace RouteIndex

variable {ε : Type}

/-- Candidates come in order of precedence, for every index built by insertions: each of them holds routes of one
shape, and the shapes come one ahead of the other, in a strict order. -/
theorem collect_in_order (settings : MatchSettings) (inserted : List (Route ε)) (raw : List String) :
    let candidates := (inserted.foldl insert { settings }).collect raw
    let ahead := Trie.Ahead settings (inserted.map Route.planted)
    (∃ shapes, List.Forall₂ (fun shape found => found.routes ≠ [] ∧ ∀ route ∈ found.routes,
        route.pattern.shape settings.ignoreCase = shape) shapes candidates ∧ shapes.Pairwise ahead) ∧
      (∀ shape, ¬ahead shape shape) ∧
      ∀ first second third, ahead first second → ahead second third → ahead first third := by
  intro candidates ahead
  refine ⟨?_, fun _ => Trie.Ahead.irrefl, fun _ _ _ => Trie.Ahead.trans⟩
  obtain ⟨shapes, finds, order⟩ := (inserted.foldl insert ({ settings } : RouteIndex ε)).collect_shapes raw
  simp only [settings_foldl_insert, routes_foldl_insert, List.nil_append] at finds order
  refine ⟨shapes, finds.imp ?_, order.imp Trie.Precedes.ahead⟩
  rintro shape found ⟨routes, nonempty, _⟩
  refine ⟨nonempty, fun route member => ?_⟩
  rw [routes, List.mem_filter, decide_eq_true_eq, shapeOf, settings_foldl_insert] at member
  exact member.2

end RouteIndex

end HttpRouting

import HttpRouting.Proofs.PatternSegments
import HttpRouting.Proofs.Parameters
import HttpRouting.Proofs.PercentText
import HttpRouting.Route.Path

/-! # Paths that were written are read back

A path that was written from a pattern gives the parameters back when it is matched, exactly when nothing
gets lost on the way: an empty value leaves no segment behind, empty pieces of a wildcard value are dropped,
and what follows a question mark in a literal is no part of the path.

Writing and matching meet at `Segment.Writes`, a segment with the piece that was written for it. Cutting the
path gives the pieces cut one by one, so a match goes through the segments in step with their pieces.
-/

namespace HttpRouting

open Text

namespace Text

/-- An escaped value is one piece, unless it is empty. -/
theorem pieces_escapeSegment (value : String) :
    pieces '/' (escapeSegment value) = if value = "" then [] else [escapeSegment value] := by
  split_ifs with empty
  · rw [empty]
    rfl
  · exact pieces_solid (mt escapeSegment_eq_empty.mp empty) (not_mem_escapeSegment (.inl rfl) value)

/-- The pieces of an escaped wildcard value are its own, escaped. -/
theorem pieces_escapeRest (value : String) :
    pieces '/' (escapeRest value) = (pieces '/' value).map escapeSegment := by
  have glue : "/" = String.singleton '/' := rfl
  rw [escapeRest, glue, pieces_join_eq_flatMap, pieces]
  induction cut '/' value with
  | nil => rfl
  | cons piece rest ih =>
    rw [List.map_cons, List.flatMap_cons, ih, pieces_escapeSegment]
    by_cases empty : piece = "" <;> simp [empty]

private theorem question_not_mem_join {texts : List String} (plain : ∀ text ∈ texts, '?' ∉ text.toList) :
    '?' ∉ (join "/" texts).toList := by
  have glue : "/" = String.singleton '/' := rfl
  have differs : '?' ≠ '/' := by decide
  rw [glue]
  exact not_mem_join differs plain

theorem question_not_mem_escapeRest (value : String) : '?' ∉ (escapeRest value).toList := by
  refine question_not_mem_join ?_
  intro piece member
  obtain ⟨origin, _, rfl⟩ := List.mem_map.mp member
  exact not_mem_escapeSegment (.inr rfl) origin

/-- Joining the pieces of a text that are not empty gives it back exactly when no other ones are lost. -/
theorem join_pieces_eq_iff {text : String} :
    join "/" (pieces '/' text) = text ↔ text = "" ∨ "" ∉ cut '/' text := by
  constructor
  · intro same
    by_cases none : pieces '/' text = []
    · rw [none] at same
      exact .inl same.symm
    · right
      have plain := fun piece member => (solid_pieces '/' text piece member).2
      have again : cut '/' text = pieces '/' text := by
        rw [← same]
        exact (cut_join none plain).trans (by rw [same])
      rw [again]
      exact fun member => mem_pieces_ne_empty member rfl
  · rintro (rfl | filled)
    · rfl
    · have all : pieces '/' text = cut '/' text :=
        List.filter_eq_self.mpr fun piece member => by simpa using fun h : piece = "" => filled (h ▸ member)
      rw [all]
      exact join_cut text

end Text

theorem decodeSegment_escapeSegment (value : String) : decodeSegment (escapeSegment value) = value := by
  rw [decodeSegment, escapeSegment, unescape?_escape (by decide)]
  rfl

theorem decodeSegment_ne_empty {raw : String} (some : raw ≠ "") : decodeSegment raw ≠ "" := by
  rw [decodeSegment]
  cases read : unescape? raw with
  | none => exact some
  | some found => exact ne_empty_of_unescape? some read

/-- Empty texts have no pieces. -/
theorem flatMap_pieces_filter (texts : List String) :
    (texts.filter (· ≠ "")).flatMap (pieces '/') = texts.flatMap (pieces '/') := by
  have nothing : pieces '/' "" = [] := rfl
  induction texts with
  | nil => rfl
  | cons text texts ih =>
    by_cases empty : text = ""
    · simp only [empty, nothing, ← ih, ne_eq, not_true, decide_false, Bool.false_eq_true, not_false_eq_true,
        List.filter_cons_of_neg, List.flatMap_cons, List.nil_append]
    · simp only [empty, ← ih, ne_eq, not_false_eq_true, decide_true, List.filter_cons_of_pos,
        List.flatMap_cons]

/-- A path without a question mark has the pieces of all that it was put together from. -/
theorem splitPath_join {texts : List String} (plain : ∀ text ∈ texts, '?' ∉ text.toList) :
    splitPath ("/" ++ join "/" (texts.filter (· ≠ ""))) = texts.flatMap (pieces '/') := by
  have whole : before '?' ("/" ++ join "/" (texts.filter (· ≠ ""))) =
      "/" ++ join "/" (texts.filter (· ≠ "")) := by
    have joined : '?' ∉ (join "/" (texts.filter (· ≠ ""))).toList :=
      question_not_mem_join fun text member => plain text (List.mem_of_mem_filter member)
    refine before_of_not_mem ?_
    rw [String.toList_append, List.mem_append, not_or]
    exact ⟨by decide, joined⟩
  rw [splitPath, whole, ← flatMap_pieces_filter]
  exact (pieces_separator_append '/' _).trans (pieces_join_eq_flatMap _)

namespace Segment

variable {params : Fields String}

def value? (params : Fields String) (segment : Segment) : Option String :=
  segment.name?.bind params.get?

/-- Whether what is written for a segment is read back: a question mark in a literal cuts the path, an empty
value leaves no segment, and empty pieces of a wildcard value are dropped. -/
def Recoverable (params : Fields String) : Segment → Prop
  | .literal value => '?' ∉ value.toList
  | .capture name | .constrained name _ => name.bind params.get? ≠ some ""
  | .wildcard name => ∀ value ∈ name.bind params.get?, value = "" ∨ "" ∉ cut '/' value

/-- A segment with the piece of a path that is written for it from the values given. -/
inductive Writes (params : Fields String) : Segment → String → Prop
  | literal (value : String) : Writes params (.literal value) value
  | capture {name value : String} (given : params.get? name = some value) :
    Writes params (.capture (some name)) (escapeSegment value)
  | constrained {name value : String} {constraint : Constraint} (given : params.get? name = some value)
      (accepted : constraint.accepts value) :
    Writes params (.constrained (some name) constraint) (escapeSegment value)
  | wildcard {name value : String} (given : params.get? name = some value) :
    Writes params (.wildcard (some name)) (escapeRest value)

/-- What a piece is for each kind of segment: a literal itself, the escaped value of a single capture, which its
constraint accepts, or all of a wildcard value. -/
theorem piece_cases {source text : String} {segment : Segment}
    (written : segment.piece source params = .ok text) :
    segment = .literal text ∨
    (∃ name value, paramValue? params name = some value ∧ escapeSegment value.written = text ∧
      (segment = .capture (some name) ∨ ∃ constraint, segment = .constrained (some name) constraint ∧
        constraint.accepts value.written)) ∨
    ∃ name value, paramValue? params name = some (.given value) ∧ escapeRest value = text ∧
      segment = .wildcard (some name) := by
  cases segment with
  | literal value =>
    cases written
    exact .inl rfl
  | capture name =>
    cases name with
    | none => cases written
    | some name =>
      rw [piece] at written
      split at written
      · cases written
      · rename_i value held
        cases written
        exact .inr (.inl ⟨name, value, held, rfl, .inl rfl⟩)
  | constrained name constraint =>
    cases name with
    | none => cases written
    | some name =>
      rw [piece] at written
      split at written
      · cases written
      · rename_i value held
        split_ifs at written with accepted
        cases written
        exact .inr (.inl ⟨name, value, held, rfl, .inr ⟨constraint, rfl, accepted⟩⟩)
  | wildcard name =>
    cases name with
    | none => cases written
    | some name =>
      rw [piece] at written
      split at written
      · cases written
      · rename_i value held
        cases written
        exact .inr (.inr ⟨name, value, held, rfl, rfl⟩)
      · cases written

/-- Where a value was given it is what is written. -/
theorem get?_of_paramValue? {name : String} {value : ParamValue} (present : (params.get? name).isSome)
    (held : paramValue? params name = some value) : params.get? name = some value.written := by
  obtain ⟨text, given⟩ := Option.isSome_iff_exists.mp present
  rw [paramValue?, given] at held
  cases held
  exact given

private theorem writes_of_piece {source text : String} {segment : Segment}
    (complete : ∀ name ∈ segment.name?, (params.get? name).isSome)
    (written : segment.piece source params = .ok text) : segment.Writes params text := by
  rcases piece_cases written with rfl | ⟨name, value, held, rfl, kind⟩ | ⟨name, value, held, rfl, rfl⟩
  · exact .literal text
  · rcases kind with rfl | ⟨constraint, rfl, accepted⟩
    · exact .capture (get?_of_paramValue? (complete name rfl) held)
    · exact .constrained (get?_of_paramValue? (complete name rfl) held) accepted
  · exact .wildcard (get?_of_paramValue? (complete name rfl) held)

/-- What is written for a segment holds no question mark unless the segment is a literal with one. -/
theorem Writes.question_not_mem {segment : Segment} {text : String} (writes : segment.Writes params text)
    (plain : ∀ value, segment = .literal value → '?' ∉ value.toList) : '?' ∉ text.toList := by
  cases writes with
  | literal => exact plain _ rfl
  | capture => exact not_mem_escapeSegment (.inr rfl) _
  | constrained => exact not_mem_escapeSegment (.inr rfl) _
  | wildcard => exact question_not_mem_escapeRest _

/-- The value that a match finds for a segment that was written: of a wildcard value the pieces that are
not empty, and of any other the value itself. -/
def recovered? (params : Fields String) : Segment → Option String
  | .literal _ => none
  | .capture name | .constrained name _ => name.bind params.get?
  | .wildcard name => (name.bind params.get?).map fun value => join "/" (pieces '/' value)

private theorem isSome_recovered? (segment : Segment) :
    (recovered? params segment).isSome = (value? params segment).isSome := by
  cases segment with
  | wildcard => exact Option.isSome_map
  | literal => rfl
  | capture => rfl
  | constrained => rfl

theorem recovered?_wildcard {name value : String} (given : params.get? name = some value) :
    recovered? params (.wildcard (some name)) = some (join "/" (pieces '/' value)) := by
  rw [recovered?, Option.bind_some, given, Option.map_some]

/-- The pieces that were written for segments match them, unless a single segment has an empty value. -/
theorem matchSegments?_of_writes {segments : List Segment} {texts : List String}
    (written : List.Forall₂ (Writes params) segments texts) {used : List String}
    (sound : segmentFault? used segments = none) (unbroken : ∀ segment ∈ segments, segment.Unbroken)
    (filled : ∀ segment ∈ segments, segment.isWildcard = false → segment.value? params ≠ some "") :
    matchSegments? false segments (texts.flatMap (pieces '/')) =
      some (segments.filterMap (recovered? params)) := by
  induction written generalizing used with
  | nil => rfl
  | @cons segment text segments texts writes written ih =>
    obtain ⟨solid, unbroken⟩ := List.forall_mem_cons.mp unbroken
    obtain ⟨here, filled⟩ := List.forall_mem_cons.mp filled
    obtain ⟨last, used', sound⟩ := segmentFault?_cons sound
    have rest := ih sound unbroken filled
    -- a single segment takes the one piece that its text is
    have single : ∀ {found}, pieces '/' text = [text] → segment.matches? false text = some found →
        (recovered? params segment).toList = found.values →
        matchSegments? false (segment :: segments) ((text :: texts).flatMap (pieces '/')) =
          some ((segment :: segments).filterMap (recovered? params)) := by
      intro found alone matched values
      rw [List.flatMap_cons, alone, List.singleton_append, matchSegments?_cons matched, rest, ← values,
        Option.map_some]
      cases gained : recovered? params segment <;> simp [gained]
    cases writes with
    | literal =>
      exact single (pieces_solid solid.1 solid.2) (by rw [matches?, if_pos rfl]) rfl
    | @capture name value given =>
      have some : value ≠ "" := fun empty => here rfl (by rw [← empty]; exact given)
      refine single ?_ rfl ?_
      · rw [pieces_escapeSegment, if_neg some]
      · rw [decodeSegment_escapeSegment]
        exact congrArg Option.toList given
    | @constrained name value constraint given accepted =>
      have some : value ≠ "" := fun empty => here rfl (by rw [← empty]; exact given)
      have found : matches? false (.constrained (.some name) constraint) (escapeSegment value) =
          .some (.value value) := by
        rw [matches?, decodeSegment_escapeSegment, if_pos accepted]
      refine single ?_ found ?_
      · rw [pieces_escapeSegment, if_neg some]
      · exact congrArg Option.toList given
    | @wildcard name value given =>
      obtain rfl := last rfl
      cases written
      have decoded : (pieces '/' value).map (decodeSegment ∘ escapeSegment) = pieces '/' value := by
        have same : decodeSegment ∘ escapeSegment = id := funext decodeSegment_escapeSegment
        rw [same, List.map_id]
      rw [List.flatMap_cons, List.flatMap_nil, List.append_nil, matchSegments?_wildcard,
        pieces_escapeRest, wildcardValue, List.map_map, decoded, List.filterMap_cons_some
        (recovered?_wildcard given), List.filterMap_nil]

/-- When segments match a path with the values given, no literal has a question mark and no single segment
an empty value. -/
theorem recoverable_of_matchSegments? {segments : List Segment} {texts raw : List String}
    (written : List.Forall₂ (Writes params) segments texts)
    (solid : ∀ text ∈ raw, text ≠ "" ∧ '?' ∉ text.toList)
    (matched : matchSegments? false segments raw = some (segments.filterMap (value? params))) :
    ∀ segment ∈ segments, segment.isWildcard = false → segment.Recoverable params := by
  induction written generalizing raw with
  | nil => simp
  | @cons segment text segments texts writes written ih =>
    rcases matchSegments?_cases matched with
      ⟨wrong, _, _⟩ | ⟨name, same, _⟩ | ⟨_, _, first, rest, found, gained, same, rfl, first?, later?, values⟩
    · cases wrong
    · cases same
      intro segment member plain
      rw [List.mem_singleton.mp member] at plain
      cases plain
    · cases same
      obtain ⟨⟨filled, plain⟩, solid⟩ := List.forall_mem_cons.mp solid
      have read : decodeSegment first ≠ "" := decodeSegment_ne_empty filled
      cases writes with
      | literal =>
        rw [matches?] at first?
        split_ifs at first? with key
        cases first?
        rw [List.filterMap_cons_none rfl] at values
        refine List.forall_mem_cons.mpr ⟨fun _ => ?_, ih solid (values ▸ later?)⟩
        have same : text = first := key
        rwa [Recoverable, same]
      | @capture name value given =>
        cases first?
        have here : value? params (.capture (some name)) = some value := given
        rw [List.filterMap_cons_some here] at values
        obtain ⟨rfl, tail⟩ := List.cons.inj values
        refine List.forall_mem_cons.mpr ⟨fun _ => ?_, ih solid (tail ▸ later?)⟩
        rw [Recoverable, Option.bind_some, given]
        simpa using read
      | @constrained name value constraint given accepted =>
        rw [matches?] at first?
        split_ifs at first?
        cases first?
        have here : value? params (.constrained (some name) constraint) = some value := given
        rw [List.filterMap_cons_some here] at values
        obtain ⟨rfl, tail⟩ := List.cons.inj values
        refine List.forall_mem_cons.mpr ⟨fun _ => ?_, ih solid (tail ▸ later?)⟩
        rw [Recoverable, Option.bind_some, given]
        simpa using read
      | wildcard => cases first?

theorem Recoverable.filled {segment : Segment} (recoverable : segment.Recoverable params)
    (single : segment.isWildcard = false) : segment.value? params ≠ some "" := by
  cases segment with
  | literal => exact Option.some_ne_none _ ∘ Eq.symm
  | capture => exact recoverable
  | constrained => exact recoverable
  | wildcard => cases single

/-- The value found is the value given, except for a wildcard value that loses empty pieces. -/
theorem Writes.recovered?_eq_iff {segment : Segment} {text : String}
    (writes : segment.Writes params text) :
    recovered? params segment = value? params segment ↔
      (segment.isWildcard = true → segment.Recoverable params) := by
  cases writes with
  | literal => exact iff_of_true rfl (by simp [isWildcard])
  | capture => exact iff_of_true rfl (by simp [isWildcard])
  | constrained => exact iff_of_true rfl (by simp [isWildcard])
  | @wildcard name value given =>
    have here : value? params (.wildcard (some name)) = some value := given
    rw [recovered?_wildcard given, here, Option.some.injEq, join_pieces_eq_iff, Recoverable,
      Option.bind_some, given]
    simp [isWildcard]

/-- Segments match the path that was written from them with the values given exactly when each of them is
read back. -/
theorem matchSegments?_written_iff {segments : List Segment} {texts : List String}
    (written : List.Forall₂ (Writes params) segments texts) {used : List String}
    (sound : segmentFault? used segments = none) (unbroken : ∀ segment ∈ segments, segment.Unbroken) :
    matchSegments? false segments (splitPath ("/" ++ join "/" (texts.filter (· ≠ "")))) =
        some (segments.filterMap (value? params)) ↔
      ∀ segment ∈ segments, segment.Recoverable params := by
  -- when single segments are read back, so is all but what a wildcard value loses
  have whole (singles : ∀ segment ∈ segments, segment.isWildcard = false → segment.Recoverable params) :
      matchSegments? false segments (splitPath ("/" ++ join "/" (texts.filter (· ≠ "")))) =
        some (segments.filterMap (recovered? params)) := by
    have plain : ∀ text ∈ texts, '?' ∉ text.toList := by
      intro text textMem
      obtain ⟨segment, member, writes⟩ := exists_of_mem_right written textMem
      refine writes.question_not_mem ?_
      rintro value rfl
      exact singles _ member rfl
    rw [splitPath_join plain]
    refine matchSegments?_of_writes written sound unbroken fun segment member single => ?_
    exact (singles segment member single).filled single
  have pointwise : segments.filterMap (recovered? params) = segments.filterMap (value? params) ↔
      ∀ segment ∈ segments, segment.isWildcard = true → segment.Recoverable params := by
    have alike : ∀ segment ∈ segments,
        ((recovered? params segment).isSome = (value? params segment).isSome) ∧
          (recovered? params segment = value? params segment ↔
            (segment.isWildcard = true → segment.Recoverable params)) := by
      intro segment member
      obtain ⟨text, _, writes⟩ := exists_of_mem_left written member
      exact ⟨isSome_recovered? segment, writes.recovered?_eq_iff⟩
    rw [filterMap_eq_filterMap_iff fun segment member => (alike segment member).1]
    exact forall₂_congr fun segment member => (alike segment member).2
  constructor
  · intro matched
    have solid := solid_splitPath ("/" ++ join "/" (texts.filter (· ≠ "")))
    have singles := recoverable_of_matchSegments? written
      (fun text member => ⟨(solid.1 text member).1, solid.2 text member⟩) matched
    have wild := pointwise.mp (Option.some.inj ((whole singles).symm.trans matched))
    intro segment member
    cases kind : segment.isWildcard with
    | false => exact singles segment member kind
    | true => exact wild segment member kind
  · intro recoverable
    rw [whole fun segment member _ => recoverable segment member]
    exact congrArg some (pointwise.mpr fun segment member _ => recoverable segment member)

/-- Segments that can be written all have names for their captures. -/
theorem captureNames_of_writes {segments : List Segment} {texts : List String}
    (written : List.Forall₂ (Writes params) segments texts) :
    segments.filterMap captureName? = (segments.filterMap name?).map some := by
  induction written with
  | nil => rfl
  | cons writes _ ih =>
    cases writes with
    | literal => exact ih
    | capture => exact congrArg (some _ :: ·) ih
    | constrained => exact congrArg (some _ :: ·) ih
    | wildcard => exact congrArg (some _ :: ·) ih

end Segment

theorem namedCaptures_map_some (names values : List String) :
    namedCaptures (names.map some) values = names.zip values := by
  rw [namedCaptures, List.zip_map_left, List.filterMap_map]
  exact List.filterMap_some

/-- Values beside names are those given for the names when each of them is. -/
theorem forall_mem_zip_given {params : Fields String} {names values : List String}
    (same : names.length = values.length) (complete : ∀ name ∈ names, (params.get? name).isSome) :
    (∀ pair ∈ names.zip values, params.get? pair.1 = some pair.2) ↔
      values = names.filterMap params.get? := by
  induction names generalizing values with
  | nil => simpa using List.length_eq_zero_iff.mp same.symm
  | cons name names ih =>
    cases values with
    | nil => cases same
    | cons value values =>
      obtain ⟨here, complete⟩ := List.forall_mem_cons.mp complete
      obtain ⟨text, given⟩ := Option.isSome_iff_exists.mp here
      have first : List.filterMap params.get? (name :: names) = text :: names.filterMap params.get? :=
        List.filterMap_cons_some given
      rw [List.zip_cons_cons, List.forall_mem_cons, ih (Nat.succ.inj same) complete, first, List.cons.injEq,
        given, Option.some.injEq, eq_comm (a := text)]

namespace Pattern

theorem path_eq_ok {pattern : Pattern} {params : Fields String} {path : String} :
    pattern.path params = .ok path ↔ ∃ texts,
      List.Forall₂ (fun segment text => segment.piece pattern.source params = .ok text)
        pattern.segments texts ∧ "/" ++ Text.join "/" (texts.filter (· ≠ "")) = path := by
  simp only [Pattern.path, bind_eq_ok, pure_eq_ok, mapM_eq_ok]

/-- When all captures are named, a match finds the values given for the names exactly when it captures
them. -/
theorem match?_given_iff {pattern : Pattern} {params : Fields String} {names : List String}
    (named : pattern.captureNames = names.map some)
    (complete : ∀ name ∈ names, (params.get? name).isSome) (path : String) :
    (∃ found, pattern.match? false path = some found ∧
      found.map (fun pair => some pair.1) = pattern.captureNames ∧
      ∀ pair ∈ found, params.get? pair.1 = some pair.2) ↔
    pattern.captures? false (splitPath path) = some (names.filterMap params.get?) := by
  rw [match?]
  cases matched : pattern.captures? false (splitPath path) with
  | none => simp
  | some values =>
    have same : names.length = values.length := by
      have counted := length_captureNames matched
      rwa [named, List.length_map] at counted
    have firsts : (names.zip values).map (fun pair => some pair.1) = names.map some := by
      have split : (names.zip values).map Prod.fst = names := List.map_fst_zip same.le
      rw [← congrArg (List.map some) split, List.map_map]
      rfl
    rw [Option.map_some, ofCaptures_eq matched, named, namedCaptures_map_some, Option.some.injEq,
      ← forall_mem_zip_given same complete]
    constructor
    · rintro ⟨_, same, _, given⟩
      cases same
      exact given
    · intro given
      exact ⟨_, rfl, firsts, given⟩

/-- A path that was written from a pattern is matched with exactly the values given for its captures, in
order, if and only if no single segment has an empty value, the wildcard value has no empty piece unless it
is empty, and no literal has a question mark. -/
theorem match?_path_iff {pattern : Pattern} {params : Fields String}
    (complete : ∀ name ∈ pattern.captureNames.filterMap id, (params.get? name).isSome) {path : String}
    (written : pattern.path params = .ok path) :
    (∃ found, pattern.match? false path = some found ∧
      found.map (fun pair => some pair.1) = pattern.captureNames ∧
      ∀ pair ∈ found, params.get? pair.1 = some pair.2) ↔
    ∀ segment ∈ pattern.segments, segment.Recoverable params := by
  obtain ⟨texts, made, rfl⟩ := path_eq_ok.mp written
  rw [filterMap_captureNames] at complete
  have writes : List.Forall₂ (Segment.Writes params) pattern.segments texts := by
    refine ((List.forall₂_and_left _ _).mpr ⟨fun _ member => member, made⟩).imp ?_
    rintro segment text ⟨member, made⟩
    refine Segment.writes_of_piece (fun name named => ?_) made
    exact complete name (List.mem_filterMap.mpr ⟨segment, member, named⟩)
  have values : (pattern.segments.filterMap Segment.name?).filterMap params.get? =
      pattern.segments.filterMap (Segment.value? params) := List.filterMap_filterMap ..
  rw [match?_given_iff (Segment.captureNames_of_writes writes) complete, values]
  exact Segment.matchSegments?_written_iff writes pattern.sound pattern.unbroken

/-- A wildcard value with an empty piece is not read back from its path. -/
theorem match?_path_users : ∃ pattern, compile "/users/:id/*rest" = .ok pattern ∧
    pattern.path [("id", "a b"), ("rest", "x//y")] = .ok "/users/a%20b/x//y" ∧
    ¬∃ found, pattern.match? false "/users/a%20b/x//y" = some found ∧
      found.map (fun pair => some pair.1) = pattern.captureNames ∧
      ∀ pair ∈ found, Fields.get? pair.1 [("id", "a b"), ("rest", "x//y")] = some pair.2 := by
  have known : ∃ pattern, compile "/users/:id/*rest" = .ok pattern ∧
      pattern.segments = [.literal "users", .capture (some "id"), .wildcard (some "rest")] :=
    ⟨_, rfl, rfl⟩
  obtain ⟨pattern, compiled, segments⟩ := known
  have names : pattern.captureNames = [some "id", some "rest"] := by
    rw [captureNames, segments]
    rfl
  have written : pattern.path [("id", "a b"), ("rest", "x//y")] = .ok "/users/a%20b/x//y" := by
    have texts : ["users", escapeSegment "a b", escapeRest "x//y"] = ["users", "a%20b", "x//y"] := by
      decide +kernel
    refine path_eq_ok.mpr ⟨["users", escapeSegment "a b", escapeRest "x//y"], ?_, ?_⟩
    · rw [segments]
      exact .cons rfl (.cons rfl (.cons rfl .nil))
    · rw [texts]
      decide +kernel
  refine ⟨pattern, compiled, written, fun found => ?_⟩
  have recovered := (match?_path_iff (by rw [names]; decide) written).mp found
  rw [segments] at recovered
  have rest := recovered (.wildcard (some "rest")) (by simp)
  have kept := rest "x//y" rfl
  revert kept
  decide

end Pattern

end HttpRouting

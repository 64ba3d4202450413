import HttpRouting.Proofs.NamedPaths

/-! # Paths that are written anew

What a match finds in a path can be written down again, since each value was found in a segment that it fits:
it is not empty, and its constraint has accepted it. The new path need not be the old one, but it is matched
with the same values, but for a wildcard. A wildcard's value is joined by slashes, and those that it was joined
by cannot be told from those that were escaped in a segment; so the new path is cut at both, and an empty piece
between two of them is lost.
-/

namespace HttpRouting

open Text

/-- Fields that are set in turn under distinct names keep their values. -/
theorem Fields.get?_ofPairs {α : Type} {pairs : List (String × α)} (unique : (pairs.map (·.1)).Nodup)
    {pair : String × α} (member : pair ∈ pairs) : (ofPairs pairs).get? pair.1 = some pair.2 := by
  induction pairs using List.reverseRecOn with
  | nil => cases member
  | append_singleton pairs last ih =>
    rw [List.map_append, List.map_singleton] at unique
    obtain ⟨front, _, apart⟩ := List.nodup_append.mp unique
    rw [ofPairs, List.foldl_append, List.foldl_cons, List.foldl_nil, ← ofPairs]
    rcases List.mem_append.mp member with earlier | here
    · have differs : pair.1 ≠ last.1 :=
        apart pair.1 (List.mem_map.mpr ⟨pair, earlier, rfl⟩) last.1 (List.mem_singleton_self _)
      rw [get?_set_of_ne differs]
      exact ih front earlier
    · rw [List.mem_singleton.mp here]
      exact get?_set_self ..

private theorem map_some_filterMap {α : Type} {items : List (Option α)} (present : none ∉ items) :
    (items.filterMap id).map some = items := by
  induction items with
  | nil => rfl
  | cons item items ih =>
    obtain ⟨here, later⟩ := not_or.mp (mt List.mem_cons.mpr present)
    cases item with
    | none => exact (here rfl).elim
    | some value => exact congrArg (some value :: ·) (ih later)

namespace Segment

variable {params : Fields String} {source text : String} {segment : Segment} {segments : List Segment}

/-- What is written from the values given is the piece of the segment. -/
theorem Writes.piece (writes : segment.Writes params text) : segment.piece source params = .ok text := by
  cases writes with
  | literal => rfl
  | capture given => simp only [Segment.piece, paramValue?, given, ParamValue.written]
  | constrained given accepted => simp [Segment.piece, paramValue?, given, ParamValue.written, accepted]
  | wildcard given => simp only [Segment.piece, paramValue?, given]

/-- Segments that match, all of their captures named, can be written from what they capture, and a single one
does not capture the empty text. -/
theorem exists_writes_of_matchSegments? {ignoreCase : Bool} {names values raw : List String}
    (matched : matchSegments? ignoreCase segments raw = some values)
    (named : segments.filterMap captureName? = names.map some)
    (given : ∀ pair ∈ names.zip values, params.get? pair.1 = some pair.2) (filled : ∀ piece ∈ raw, piece ≠ "") :
    (∃ texts, List.Forall₂ (Writes params) segments texts) ∧
      ∀ segment ∈ segments, segment.isWildcard = false → segment.value? params ≠ some "" := by
  induction segments generalizing names values raw with
  | nil => exact ⟨⟨[], .nil⟩, by simp⟩
  | cons segment segments ih =>
    rcases matchSegments?_cases matched with
      ⟨wrong, _, _⟩ | ⟨name, same, rfl⟩ | ⟨_, _, first, rest, found, gained, same, rfl, first?, later?, rfl⟩
    · cases wrong
    · cases same
      obtain ⟨name, names, rfl, rfl, _⟩ := List.map_eq_cons_iff.mp named.symm
      have here := given (name, wildcardValue raw) (List.mem_cons_self ..)
      exact ⟨⟨_, .cons (.wildcard here) .nil⟩, by simp [isWildcard]⟩
    · cases same
      obtain ⟨proper, filled⟩ := List.forall_mem_cons.mp filled
      have read : decodeSegment first ≠ "" := decodeSegment_ne_empty proper
      cases segment with
      | literal value =>
        rw [matches?] at first?
        split_ifs at first?
        cases first?
        rw [List.filterMap_cons_none rfl] at named
        obtain ⟨⟨texts, writes⟩, later⟩ := ih later? named given filled
        refine ⟨⟨_, .cons (.literal value) writes⟩, List.forall_mem_cons.mpr ⟨fun _ same => ?_, later⟩⟩
        cases same
      | capture name =>
        cases first?
        obtain ⟨name, names, rfl, rfl, behind⟩ := List.map_eq_cons_iff.mp named.symm
        obtain ⟨here, given⟩ := List.forall_mem_cons.mp given
        obtain ⟨⟨texts, writes⟩, later⟩ := ih later? behind.symm given filled
        have value : value? params (.capture (some name)) = some (decodeSegment first) := here
        refine ⟨⟨_, .cons (.capture here) writes⟩, List.forall_mem_cons.mpr ⟨fun _ => ?_, later⟩⟩
        simpa [value] using read
      | constrained name constraint =>
        rw [matches?] at first?
        split_ifs at first? with accepted
        cases first?
        obtain ⟨name, names, rfl, rfl, behind⟩ := List.map_eq_cons_iff.mp named.symm
        obtain ⟨here, given⟩ := List.forall_mem_cons.mp given
        obtain ⟨⟨texts, writes⟩, later⟩ := ih later? behind.symm given filled
        have value : value? params (.constrained (some name) constraint) = some (decodeSegment first) := here
        refine ⟨⟨_, .cons (.constrained here accepted) writes⟩, ?_⟩
        refine List.forall_mem_cons.mpr ⟨fun _ => ?_, later⟩
        simpa [value] using read
      | wildcard name => cases first?

end Segment

namespace Pattern

variable {text path : String} {pattern : Pattern}

/-- What a capture becomes when it is written and found again: the value of the wildcard loses its empty
pieces. -/
def readBack (pattern : Pattern) (capture : String × String) : String × String :=
  if .wildcard (some capture.1) ∈ pattern.segments then
    (capture.1, Text.join "/" (pieces '/' capture.2))
  else capture

private theorem readBack_eq_self_iff {capture : String × String} : pattern.readBack capture = capture ↔
    (.wildcard (some capture.1) ∈ pattern.segments → capture.2 = "" ∨ "" ∉ cut '/' capture.2) := by
  rw [readBack]
  split_ifs with wild
  · simp only [wild, Prod.ext_iff, join_pieces_eq_iff, true_and, forall_const]
  · simp [wild]

/-- The captures that are found again are those that were written, read back. -/
theorem zip_recovered? {params : Fields String} {segments : List Segment} {texts : List String}
    (written : List.Forall₂ (Segment.Writes params) segments texts)
    (wild : ∀ segment ∈ segments, ∀ name ∈ segment.name?,
      (.wildcard (some name) ∈ pattern.segments ↔ segment.isWildcard = true)) :
    (segments.filterMap Segment.name?).zip (segments.filterMap (Segment.recovered? params)) =
      ((segments.filterMap Segment.name?).zip
        (segments.filterMap (Segment.value? params))).map pattern.readBack := by
  induction written with
  | nil => rfl
  | @cons segment _ segments _ writes _ ih =>
    obtain ⟨here, later⟩ := List.forall_mem_cons.mp wild
    have capture {name value found : String} (named : segment.name? = some name)
        (given : segment.value? params = some value) (again : segment.recovered? params = some found)
        (back : pattern.readBack (name, value) = (name, found)) :
        ((segment :: segments).filterMap Segment.name?).zip
            ((segment :: segments).filterMap (Segment.recovered? params)) =
          (((segment :: segments).filterMap Segment.name?).zip
            ((segment :: segments).filterMap (Segment.value? params))).map pattern.readBack := by
      rw [List.filterMap_cons_some named, List.filterMap_cons_some given, List.filterMap_cons_some again,
        List.zip_cons_cons, List.zip_cons_cons, List.map_cons, back, ih later]
    cases writes with
    | literal value => exact ih later
    | @capture name value given =>
      refine capture rfl given given (if_neg ?_)
      simpa [Segment.isWildcard] using here name rfl
    | @constrained name value constraint given accepted =>
      refine capture rfl given given (if_neg ?_)
      simpa [Segment.isWildcard] using here name rfl
    | @wildcard name value given =>
      exact capture rfl given (Segment.recovered?_wildcard given) (if_pos ((here name rfl).mpr rfl))

/-- A match of a pattern whose captures are all named finds the names with the values captured. -/
theorem match?_eq_some_iff {names : List String} (named : pattern.captureNames = names.map some)
    {found : Params} : pattern.match? false path = some found ↔
      ∃ values, pattern.captures? false (splitPath path) = some values ∧ names.zip values = found := by
  rw [match?, Option.map_eq_some_iff]
  refine exists_congr fun values => and_congr_right fun captured => ?_
  rw [ofCaptures_eq captured, named, namedCaptures_map_some]

/-- Only the wildcard has the name of the wildcard. -/
private theorem wildcard_mem_iff {segment : Segment} (member : segment ∈ pattern.segments) {name : String}
    (hasName : name ∈ segment.name?) :
    .wildcard (some name) ∈ pattern.segments ↔ segment.isWildcard = true := by
  have unique : (pattern.segments.filterMap Segment.name?).Nodup := (nodup_of_segmentFault? pattern.sound).1
  constructor
  · intro inside
    rw [eq_of_nodup_filterMap unique member inside hasName rfl]
    rfl
  · intro isWildcard
    cases segment with
    | wildcard own =>
      have same : own = some name := hasName
      exact same ▸ member
    | literal | capture | constrained => cases isWildcard

/-- A path that is written is cut into the pieces that were written, since none of them has a question mark. So it is
matched with what can be recovered from the values given. -/
private theorem captures?_written {params : Fields String} {texts : List String}
    (writes : List.Forall₂ (Segment.Writes params) pattern.segments texts)
    (filled : ∀ segment ∈ pattern.segments, segment.isWildcard = false → segment.value? params ≠ some "")
    (literals : ∀ value, .literal value ∈ pattern.segments → '?' ∉ value.toList) :
    pattern.captures? false (splitPath ("/" ++ Text.join "/" (texts.filter (· ≠ "")))) =
      some (pattern.segments.filterMap (Segment.recovered? params)) := by
  have plain : ∀ text ∈ texts, '?' ∉ text.toList := by
    intro text textMem
    obtain ⟨segment, member, wrote⟩ := exists_of_mem_right writes textMem
    refine wrote.question_not_mem ?_
    rintro value rfl
    exact literals value member
  rw [captures?, splitPath_join plain]
  exact Segment.matchSegments?_of_writes writes pattern.sound pattern.unbroken filled

/-- The values that are given under the names of the captures are those of the segments. -/
private theorem filterMap_value?_eq {params : Fields String} {values : List String}
    (same : (pattern.segments.filterMap Segment.name?).length = values.length)
    (given : ∀ pair ∈ (pattern.segments.filterMap Segment.name?).zip values, params.get? pair.1 = some pair.2) :
    pattern.segments.filterMap (Segment.value? params) = values := by
  have complete : ∀ name ∈ pattern.segments.filterMap Segment.name?, (params.get? name).isSome = true := by
    intro name member
    rw [← List.map_fst_zip same.le] at member
    obtain ⟨pair, pairMem, rfl⟩ := List.mem_map.mp member
    rw [given pair pairMem]
    rfl
  rw [(forall_mem_zip_given same complete).mp given, List.filterMap_filterMap]
  rfl

/-- What a match has found, all captures of the pattern being named, can be written as a path again, and the
pattern matches that path with the same values, except that a wildcard's value is without its empty pieces. So it
finds the same exactly when the wildcard's value is empty or has no empty piece. -/
theorem match?_of_rewritten (named : none ∉ pattern.captureNames)
    {found : Params} (matched : pattern.match? false path = some found) :
    ∃ rewritten, pattern.path (.ofPairs found) = .ok rewritten ∧
      pattern.match? false rewritten = some (found.map pattern.readBack) ∧
      (pattern.match? false rewritten = some found ↔ ∀ capture ∈ found,
        .wildcard (some capture.1) ∈ pattern.segments → capture.2 = "" ∨ "" ∉ cut '/' capture.2) := by
  have all : pattern.captureNames = (pattern.captureNames.filterMap id).map some := (map_some_filterMap named).symm
  rw [filterMap_captureNames] at all
  obtain ⟨values, captured, rfl⟩ := (match?_eq_some_iff all).mp matched
  have same : (pattern.segments.filterMap Segment.name?).length = values.length := by
    simpa [all] using length_captureNames captured
  have unique : (((pattern.segments.filterMap Segment.name?).zip values).map (·.1)).Nodup := by
    rw [List.map_fst_zip same.le]
    exact (nodup_of_segmentFault? pattern.sound).1
  -- what is written depends on the fields only through the values that they give
  have given : ∀ pair ∈ (pattern.segments.filterMap Segment.name?).zip values,
      (Fields.ofPairs ((pattern.segments.filterMap Segment.name?).zip values)).get? pair.1 = some pair.2 :=
    fun _ member => Fields.get?_ofPairs unique member
  generalize Fields.ofPairs ((pattern.segments.filterMap Segment.name?).zip values) = params at given
  obtain ⟨⟨texts, writes⟩, filled⟩ := Segment.exists_writes_of_matchSegments? captured all given
    fun piece member => ((solid_splitPath path).1 piece member).1
  have written : pattern.path params = .ok ("/" ++ Text.join "/" (texts.filter (· ≠ ""))) :=
    path_eq_ok.mpr ⟨texts, writes.imp fun _ _ => Segment.Writes.piece, rfl⟩
  have again := captures?_written writes filled
    (Segment.question_not_mem_of_matchSegments? (solid_splitPath path).2 captured)
  have back := zip_recovered? writes fun _ member _ hasName => wildcard_mem_iff member hasName
  rw [filterMap_value?_eq same given] at back
  have found := (match?_eq_some_iff all).mpr ⟨_, again, back⟩
  refine ⟨_, written, found, ?_⟩
  have fixed : ((pattern.segments.filterMap Segment.name?).zip values).map pattern.readBack =
        (pattern.segments.filterMap Segment.name?).zip values ↔
      ∀ capture ∈ (pattern.segments.filterMap Segment.name?).zip values, pattern.readBack capture = capture := by
    conv_lhs => rhs; rw [← List.map_id (List.zip _ _)]
    exact List.map_inj_left
  rw [found, Option.some.injEq, fixed]
  exact forall₂_congr fun capture _ => readBack_eq_self_iff

/-- A wildcard's value with single slashes between its pieces is found again in another path than before. -/
theorem match?_of_rewritten_files : ∃ pattern, compile "/files/:id<\\d+>/*rest" = .ok pattern ∧
    none ∉ pattern.captureNames ∧
    pattern.match? false "/files/%37//a%2Fb/c?v=1" = some [("id", "7"), ("rest", "a/b/c")] ∧
    ∃ rewritten, pattern.path (.ofPairs [("id", "7"), ("rest", "a/b/c")]) = .ok rewritten ∧
      pattern.match? false rewritten = some [("id", "7"), ("rest", "a/b/c")] := by
  have known : ∃ pattern ∈ (compile "/files/:id<\\d+>/*rest").toOption, none ∉ pattern.captureNames ∧
      pattern.match? false "/files/%37//a%2Fb/c?v=1" = some [("id", "7"), ("rest", "a/b/c")] := by
    decide +kernel
  obtain ⟨pattern, compiled, named, matched⟩ := known
  have compiled := toOption_eq_some.mp compiled
  obtain ⟨rewritten, written, _, again⟩ := match?_of_rewritten named matched
  refine ⟨pattern, compiled, named, matched, rewritten, written, again.mpr fun capture member _ => .inr ?_⟩
  have solid : ∀ capture ∈ [("id", "7"), ("rest", "a/b/c")], "" ∉ cut '/' capture.2 := by decide
  exact solid capture member

/-- A slash that was escaped in the path is a wildcard's whole value, and lost when the path is written anew. -/
theorem match?_of_rewritten_slash : ∃ pattern, compile "/files/*rest" = .ok pattern ∧
    none ∉ pattern.captureNames ∧
    pattern.match? false "/files/%2F" = some [("rest", "/")] ∧
    pattern.path (.ofPairs [("rest", "/")]) = .ok "/files//" ∧
    pattern.match? false "/files//" = some [("rest", "")] := by
  have known : ∃ pattern ∈ (compile "/files/*rest").toOption, none ∉ pattern.captureNames ∧
      pattern.match? false "/files/%2F" = some [("rest", "/")] ∧
      pattern.path (.ofPairs [("rest", "/")]) = .ok "/files//" ∧
      pattern.match? false "/files//" = some [("rest", "")] := by
    decide +kernel
  obtain ⟨pattern, compiled, facts⟩ := known
  exact ⟨pattern, toOption_eq_some.mp compiled, facts⟩

end Pattern

end HttpRouting

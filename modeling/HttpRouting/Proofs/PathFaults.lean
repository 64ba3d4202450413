import HttpRouting.Proofs.Outcomes
import HttpRouting.Proofs.Parameters
import HttpRouting.Route.Path
import HttpRouting.Route.PatternText

/-! # Paths that cannot be written

A path is written segment by segment, and the first segment that has no piece says why there is no path. A
capture has none when it has no name, when nothing is found under its name, or when its constraint rejects
what is found.

What is found under a name is a parameter here. A record of parameters answers to a few names that every
record shares, so what a path is written from is more than the values given: the look-up that counts only
these, `givenValue?`, tells the same offences as long as no capture without a value has a shared name.
-/

namespace HttpRouting

/-- What is found under a name when only the values given count. -/
def givenValue? (params : Fields String) (name : String) : Option ParamValue :=
  (params.get? name).map .given

private theorem paramValue?_eq_givenValue? {params : Fields String} {name : String}
    (own : (params.get? name).isSome ∨ sharedMember? name = none) :
    paramValue? params name = givenValue? params name := by
  rw [paramValue?, givenValue?]
  cases given : params.get? name with
  | some text => rfl
  | none =>
    rw [given] at own
    rw [own.resolve_left Bool.false_ne_true]
    rfl

namespace Segment

variable {source : String} {params : Fields String}

/-- What keeps a segment of a pattern from being written, where `held` says what is found under a name: a
capture without a name, a name that nothing is found under, a value that the constraint rejects, or a
wildcard's value that is no text. -/
inductive Offends (source : String) (held : String → Option ParamValue) : Segment → PathError → Prop
  | unnamed {segment : Segment} (captures : segment.captureName? = some none) :
    Offends source held segment (.unnamedCapture source)
  | missing {segment : Segment} {name : String} (named : segment.name? = some name) (absent : held name = none) :
    Offends source held segment (.missing name source)
  | rejected {name : String} {constraint : Constraint} {value : ParamValue} (found : held name = some value)
      (refused : constraint.accepts value.written = false) :
    Offends source held (.constrained (some name) constraint) (.rejected name constraint.source)
  | notText {name written : String} (found : held name = some (.shared written)) :
    Offends source held (.wildcard (some name)) .notText

private theorem piece_of_unnamed {segment : Segment} (captures : segment.captureName? = some none) :
    segment.piece source params = .error (.unnamedCapture source) := by
  cases segment <;> cases captures <;> rfl

private theorem piece_of_missing {segment : Segment} {name : String} (named : segment.name? = some name)
    (absent : paramValue? params name = none) : segment.piece source params = .error (.missing name source) := by
  cases segment with
  | literal value => cases named
  | capture name | constrained name constraint | wildcard name =>
    cases named
    simp only [piece, absent]

/-- A segment has no piece exactly when something keeps it from being written. -/
theorem piece_eq_error_iff {segment : Segment} {error : PathError} :
    segment.piece source params = .error error ↔ segment.Offends source (paramValue? params) error := by
  constructor
  · intro failed
    cases captures : segment.captureName? with
    | none =>
      cases segment with
      | literal value => cases failed
      | capture name | constrained name constraint | wildcard name => cases captures
    | some capture =>
      cases capture with
      | none =>
        cases (piece_of_unnamed captures).symm.trans failed
        exact .unnamed captures
      | some name =>
        have named : segment.name? = some name := by rw [name?, captures]; rfl
        cases found : paramValue? params name with
        | none =>
          cases (piece_of_missing named found).symm.trans failed
          exact .missing named found
        | some value =>
          cases segment with
          | literal text => cases named
          | capture name =>
            cases named
            simp [piece, found] at failed
          | constrained name constraint =>
            cases named
            simp only [piece, found] at failed
            split_ifs at failed with accepted
            cases failed
            exact .rejected found (Bool.eq_false_iff.mpr accepted)
          | wildcard name =>
            cases named
            cases value with
            | given text => simp [piece, found] at failed
            | shared written =>
              simp only [piece, found] at failed
              cases failed
              exact .notText found
  · intro offends
    cases offends with
    | unnamed captures => exact piece_of_unnamed captures
    | missing named absent => exact piece_of_missing named absent
    | rejected found refused =>
      rw [piece, found]
      exact if_neg (Bool.eq_false_iff.mp refused)
    | notText found => rw [piece, found]

/-- Look-ups that find the same under a segment's name find the same offences. -/
theorem Offends.congr {held held' : String → Option ParamValue} {segment : Segment} {error : PathError}
    (alike : ∀ name ∈ segment.name?, held name = held' name) (offends : segment.Offends source held error) :
    segment.Offends source held' error := by
  cases offends with
  | unnamed captures => exact .unnamed captures
  | missing named absent => exact .missing named ((alike _ named).symm.trans absent)
  | rejected found refused => exact .rejected ((alike _ rfl).symm.trans found) refused
  | notText found => exact .notText ((alike _ rfl).symm.trans found)

/-- Going by the values given, a segment is kept from being written when it captures without a name, under a
name that no value is given for, or with a constraint that rejects the value given. -/
theorem exists_offends_given_iff {segment : Segment} :
    (∃ error, segment.Offends source (givenValue? params) error) ↔
      segment.captureName? = some none ∨ (∃ name ∈ segment.name?, params.get? name = none) ∨
        ∃ name constraint value, segment = .constrained (some name) constraint ∧
          params.get? name = some value ∧ constraint.accepts value = false := by
  constructor
  · rintro ⟨error, offends⟩
    cases offends with
    | unnamed captures => exact .inl captures
    | missing named absent => exact .inr (.inl ⟨_, named, Option.map_eq_none_iff.mp absent⟩)
    | rejected found refused =>
      obtain ⟨value, given, rfl⟩ := Option.map_eq_some_iff.mp found
      exact .inr (.inr ⟨_, _, value, rfl, given, refused⟩)
    | notText found =>
      obtain ⟨_, _, wrong⟩ := Option.map_eq_some_iff.mp found
      cases wrong
  · rintro (captures | ⟨name, named, absent⟩ | ⟨name, constraint, value, rfl, given, refused⟩)
    · exact ⟨_, .unnamed captures⟩
    · exact ⟨_, .missing named (Option.map_eq_none_iff.mpr absent)⟩
    · have found : givenValue? params name = some (.given value) :=
        Option.map_eq_some_iff.mpr ⟨value, given, rfl⟩
      exact ⟨_, .rejected found refused⟩

end Segment

namespace Pattern

variable {pattern : Pattern} {params : Fields String} {error : PathError}

/-- Whether `error` is what keeps the first segment that cannot be written from being written. -/
def FailsFirst (held : String → Option ParamValue) (pattern : Pattern) (error : PathError) : Prop :=
  ∃ before segment after, pattern.segments = before ++ segment :: after ∧
    (∀ earlier ∈ before, ∀ other, ¬earlier.Offends pattern.source held other) ∧
    segment.Offends pattern.source held error

private theorem path_eq_error_iff :
    pattern.path params = .error error ↔ pattern.FailsFirst (paramValue? params) error := by
  have written (segment : Segment) : (segment.piece pattern.source params).isOk = true ↔
      ∀ other, ¬segment.Offends pattern.source (paramValue? params) other := by
    simp only [← Segment.piece_eq_error_iff]
    cases segment.piece pattern.source params <;> simp
  have noLater (pieces : List String) :
      (pure ("/" ++ Text.join "/" (pieces.filter (· ≠ ""))) : Except PathError String) ≠ .error error := nofun
  simp only [path, FailsFirst, bind_eq_error, noLater, and_false, exists_false, or_false, mapM_eq_error, written,
    Segment.piece_eq_error_iff]

/-- Look-ups that find the same under the names of a pattern find the same first offence. -/
theorem FailsFirst.congr {held held' : String → Option ParamValue}
    (alike : ∀ name ∈ pattern.captureNames.filterMap id, held name = held' name)
    (fails : pattern.FailsFirst held error) : pattern.FailsFirst held' error := by
  obtain ⟨before, segment, after, split, fine, offends⟩ := fails
  have named {member : Segment} (inside : member ∈ pattern.segments) :
      ∀ name ∈ member.name?, held name = held' name := by
    intro name named
    rw [filterMap_captureNames] at alike
    exact alike name (List.mem_filterMap.mpr ⟨member, inside, named⟩)
  refine ⟨before, segment, after, split, fun earlier member other offends' => ?_, ?_⟩
  · have inside : earlier ∈ pattern.segments := split ▸ List.mem_append_left _ member
    exact fine earlier member other (offends'.congr fun name given => (named inside name given).symm)
  · have inside : segment ∈ pattern.segments := split ▸ List.mem_append_right _ (List.mem_cons_self ..)
    exact offends.congr (named inside)

/-- Some segment offends first as soon as any does. -/
theorem exists_failsFirst_iff {held : String → Option ParamValue} :
    (∃ error, pattern.FailsFirst held error) ↔
      ∃ segment ∈ pattern.segments, ∃ error, segment.Offends pattern.source held error := by
  constructor
  · rintro ⟨error, before, segment, after, split, _, offends⟩
    exact ⟨segment, split ▸ List.mem_append_right _ (List.mem_cons_self ..), error, offends⟩
  · rintro ⟨segment, member, offends⟩
    classical
    let offending (segment : Segment) : Bool := ∃ error, segment.Offends pattern.source held error
    have some : (pattern.segments.find? offending).isSome := by
      rw [List.find?_isSome]
      exact ⟨segment, member, decide_eq_true offends⟩
    obtain ⟨first, found⟩ := Option.isSome_iff_exists.mp some
    obtain ⟨here, before, after, split, fine⟩ := List.find?_eq_some_iff_append.mp found
    obtain ⟨error, offends⟩ := of_decide_eq_true here
    refine ⟨error, before, first, after, split, fun earlier inside other offends' => ?_, offends⟩
    have free : ¬∃ error, earlier.Offends pattern.source held error := by
      simpa [offending] using fine earlier inside
    exact free ⟨other, offends'⟩

/-- No path is written exactly when some segment cannot be written, and the error is that of the first one. A
segment cannot be written when it captures without a name, when nothing is found under its name, or when its
constraint rejects what is found. What is found is what was given, unless a capture without a value has one of
the names that every record answers to. -/
theorem path_fails_at_first (pattern : Pattern) (params : Fields String) :
    (∀ error, pattern.path params = .error error ↔ pattern.FailsFirst (paramValue? params) error) ∧
    ((∀ name ∈ pattern.captureNames.filterMap id, (params.get? name).isSome ∨ sharedMember? name = none) →
      ((∃ error, pattern.path params = .error error) ↔ ∃ segment ∈ pattern.segments,
        segment.captureName? = some none ∨ (∃ name ∈ segment.name?, params.get? name = none) ∨
          ∃ name constraint value, segment = .constrained (some name) constraint ∧
            params.get? name = some value ∧ constraint.accepts value = false) ∧
      ∀ error, pattern.path params = .error error ↔ pattern.FailsFirst (givenValue? params) error) := by
  refine ⟨fun error => path_eq_error_iff, fun own => ?_⟩
  have alike : ∀ name ∈ pattern.captureNames.filterMap id, paramValue? params name = givenValue? params name :=
    fun name member => paramValue?_eq_givenValue? (own name member)
  have first (error : PathError) :
      pattern.path params = .error error ↔ pattern.FailsFirst (givenValue? params) error := by
    rw [path_eq_error_iff]
    exact ⟨.congr alike, .congr fun name member => (alike name member).symm⟩
  refine ⟨?_, first⟩
  simp only [first, exists_failsFirst_iff, Segment.exists_offends_given_iff]

/-- A value that its constraint rejects is reported, although a name behind it has no value and the last capture
has no name. -/
theorem path_fails_at_first_item : ∃ pattern, compile "/item/:id<\\d+>/:name/*" = .ok pattern ∧
    (∀ name ∈ pattern.captureNames.filterMap id,
      (Fields.get? name [("id", "abc")]).isSome ∨ sharedMember? name = none) ∧
    pattern.path [("id", "abc")] = .error (.rejected "id" "\\d+") ∧
    pattern.FailsFirst (givenValue? [("id", "abc")]) (.rejected "id" "\\d+") := by
  have known : ∃ pattern ∈ (compile "/item/:id<\\d+>/:name/*").toOption,
      (∀ name ∈ pattern.captureNames.filterMap id,
        (Fields.get? name [("id", "abc")]).isSome ∨ sharedMember? name = none) ∧
      pattern.path [("id", "abc")] = .error (.rejected "id" "\\d+") := by
    decide +kernel
  obtain ⟨pattern, compiled, own, failed⟩ := known
  obtain ⟨_, first⟩ := (path_fails_at_first pattern [("id", "abc")]).2 own
  exact ⟨pattern, toOption_eq_some.mp compiled, own, failed, (first _).mp failed⟩

/-- A capture with a name that every record answers to is written although no value is given for it. -/
theorem path_of_constructor : ∃ pattern, compile "/x/:constructor" = .ok pattern ∧
    pattern.FailsFirst (givenValue? []) (.missing "constructor" "/x/:constructor") ∧
    pattern.path [] = .ok "/x/function%20Object()%20%7B%20%5Bnative%20code%5D%20%7D" := by
  have known : ∃ pattern ∈ (compile "/x/:constructor").toOption, pattern.source = "/x/:constructor" ∧
      pattern.segments = [.literal "x", .capture (some "constructor")] ∧
      pattern.path [] = .ok "/x/function%20Object()%20%7B%20%5Bnative%20code%5D%20%7D" := by
    decide +kernel
  obtain ⟨pattern, compiled, source, segments, path⟩ := known
  refine ⟨pattern, toOption_eq_some.mp compiled, ?_, path⟩
  rw [← source]
  refine ⟨[.literal "x"], .capture (some "constructor"), [], segments, ?_, .missing rfl rfl⟩
  intro earlier member other offends
  rw [List.mem_singleton.mp member] at offends
  cases offends with
  | unnamed captures => cases captures
  | missing named => cases named

end Pattern

end HttpRouting

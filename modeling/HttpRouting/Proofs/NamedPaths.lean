import HttpRouting.Proofs.AllowedMethods
import HttpRouting.Proofs.PathRoundTrip
import HttpRouting.Proofs.Runs

/-! # Paths of named routes

The path that a router writes for a named route leads back to that route when each single segment stands in
the path as one piece. An empty value leaves no piece, and a literal with a question mark cuts the path; the
path then has another shape, and is resolved by another route or by none. What is written for a wildcard may
be of any shape, since a wildcard matches whatever is left.

Values are looked up in an open record here, so a name that no value was given for may still be written, by
the text that every record holds under it.
-/

namespace HttpRouting

open Text

private theorem ne_empty_of_sharedMember? {name text : String} (shared : sharedMember? name = some text) :
    text ≠ "" := by
  rw [sharedMember?] at shared
  split_ifs at shared <;> cases shared
  · decide
  · decide
  · simp [operationText]

/-- Only a value that was given as the empty text is written as such. -/
theorem written_eq_empty_iff {params : Fields String} {name : String} {value : ParamValue}
    (held : paramValue? params name = some value) : value.written = "" ↔ params.get? name = some "" := by
  rw [paramValue?] at held
  cases given : params.get? name with
  | some text =>
    rw [given] at held
    cases held
    exact Option.some_inj.symm
  | none =>
    rw [given] at held
    obtain ⟨text, shared, rfl⟩ := Option.map_eq_some_iff.mp held
    exact iff_of_false (ne_empty_of_sharedMember? shared) (by simp)

namespace Segment

variable {params : Fields String} {source text : String} {segment : Segment}

/-- A single segment is read back exactly when it is written as some text without a question mark. -/
theorem recoverable_iff_of_piece (written : segment.piece source params = .ok text)
    (single : segment.isWildcard = false) (unbroken : segment.Unbroken) :
    segment.Recoverable params ↔ text ≠ "" ∧ '?' ∉ text.toList := by
  have plain : ∀ value, '?' ∉ (escapeSegment value).toList := not_mem_escapeSegment (.inr rfl)
  rcases piece_cases written with rfl | ⟨name, value, held, rfl, kind⟩ | ⟨_, _, _, _, rfl⟩
  · exact (and_iff_right unbroken.1).symm
  · have filled : params.get? name ≠ some "" ↔ escapeSegment value.written ≠ "" :=
      not_congr ((written_eq_empty_iff held).symm.trans escapeSegment_eq_empty.symm)
    rcases kind with rfl | ⟨constraint, rfl, _⟩
    · exact filled.trans (and_iff_left (plain _)).symm
    · exact filled.trans (and_iff_left (plain _)).symm
  · cases single

/-- What is written for a single segment is no more than one piece. -/
theorem slash_not_mem_of_piece (written : segment.piece source params = .ok text)
    (single : segment.isWildcard = false) (unbroken : segment.Unbroken) : '/' ∉ text.toList := by
  rcases piece_cases written with rfl | ⟨name, value, _, rfl, _⟩ | ⟨_, _, _, _, rfl⟩
  · exact unbroken.2
  · exact not_mem_escapeSegment (.inl rfl) _
  · cases single

/-- A single segment matches what is written for it. -/
theorem isSome_matches?_of_piece (written : segment.piece source params = .ok text)
    (single : segment.isWildcard = false) (ignoreCase : Bool) :
    (segment.matches? ignoreCase text).isSome := by
  rcases piece_cases written with rfl | ⟨name, value, _, rfl, kind⟩ | ⟨_, _, _, _, rfl⟩
  · rw [matches?, if_pos rfl]
    rfl
  · rcases kind with rfl | ⟨constraint, rfl, accepted⟩
    · rfl
    · rw [matches?, decodeSegment_escapeSegment, if_pos accepted]
      rfl
  · cases single

/-- Only a literal brings in a question mark. -/
theorem question_not_mem_of_piece (written : segment.piece source params = .ok text)
    (plain : segment = .literal text → '?' ∉ text.toList) : '?' ∉ text.toList := by
  rcases piece_cases written with rfl | ⟨name, value, _, rfl, _⟩ | ⟨_, _, _, rfl, _⟩
  · exact plain rfl
  · exact not_mem_escapeSegment (.inr rfl) _
  · exact question_not_mem_escapeRest _

/-- The pieces that are written for segments match them when each single one has its piece. -/
theorem isSome_matchSegments?_of_pieces {segments : List Segment} {texts : List String}
    (written : List.Forall₂ (fun segment text => segment.piece source params = .ok text) segments texts)
    {used : List String} (sound : segmentFault? used segments = none)
    (unbroken : ∀ segment ∈ segments, segment.Unbroken)
    (recoverable : ∀ segment ∈ segments, segment.isWildcard = false → segment.Recoverable params)
    (ignoreCase : Bool) :
    (matchSegments? ignoreCase segments (texts.flatMap (pieces '/'))).isSome := by
  -- a wildcard comes last and takes what is left, any other segment the one piece that its text is
  induction written generalizing used with
  | nil => rfl
  | @cons segment text segments texts written later ih =>
    obtain ⟨solid, unbroken⟩ := List.forall_mem_cons.mp unbroken
    obtain ⟨here, recoverable⟩ := List.forall_mem_cons.mp recoverable
    obtain ⟨last, _, sound⟩ := segmentFault?_cons sound
    cases single : segment.isWildcard with
    | true =>
      obtain rfl := last single
      obtain ⟨name, rfl⟩ : ∃ name, segment = .wildcard name := by
        cases segment with
        | wildcard name => exact ⟨name, rfl⟩
        | _ => cases single
      rw [matchSegments?_wildcard]
      rfl
    | false =>
      obtain ⟨filled, _⟩ := (recoverable_iff_of_piece written single solid).mp (here single)
      have alone : pieces '/' text = [text] :=
        pieces_solid filled (slash_not_mem_of_piece written single solid)
      obtain ⟨found, matched⟩ :=
        Option.isSome_iff_exists.mp (isSome_matches?_of_piece written single ignoreCase)
      rw [List.flatMap_cons, alone, List.singleton_append, matchSegments?_cons matched, Option.isSome_map]
      exact ih sound unbroken recoverable

/-- No literal with a question mark matches a segment of a path. -/
theorem question_not_mem_of_matchSegments? {ignoreCase : Bool} {segments : List Segment}
    {raw values : List String} (plain : ∀ text ∈ raw, '?' ∉ text.toList)
    (matched : matchSegments? ignoreCase segments raw = some values) :
    ∀ value, .literal value ∈ segments → '?' ∉ value.toList := by
  induction segments generalizing raw values with
  | nil => simp
  | cons segment segments ih =>
    rcases matchSegments?_cases matched with
      ⟨wrong, _, _⟩ | ⟨name, same, _⟩ | ⟨_, _, first, rest, found, gained, same, rfl, first?, later?, _⟩
    · cases wrong
    · cases same
      simp
    · cases same
      obtain ⟨here, plain⟩ := List.forall_mem_cons.mp plain
      intro value member
      rcases List.mem_cons.mp member with rfl | member
      · rw [matches?] at first?
        split_ifs at first? with key
        have kept : '?' ∈ (literalKey ignoreCase value).toList ↔ '?' ∈ value.toList :=
          mem_literalKey_iff (by decide)
        rwa [← kept, key, mem_literalKey_iff (by decide)]
      · exact ih plain later? value member

/-- Single segments match as many segments of a path as they are. -/
theorem length_eq_of_matchSegments? {ignoreCase : Bool} {segments : List Segment} {raw values : List String}
    (single : ∀ segment ∈ segments, segment.isWildcard = false)
    (matched : matchSegments? ignoreCase segments raw = some values) : raw.length = segments.length := by
  induction segments generalizing raw values with
  | nil =>
    rcases matchSegments?_cases matched with ⟨_, rfl, _⟩ | ⟨_, wrong, _⟩ | ⟨_, _, _, _, _, _, wrong, _⟩
    · rfl
    · cases wrong
    · cases wrong
  | cons segment segments ih =>
    obtain ⟨here, single⟩ := List.forall_mem_cons.mp single
    rcases matchSegments?_cases matched with
      ⟨wrong, _, _⟩ | ⟨name, same, _⟩ | ⟨_, _, first, rest, found, gained, same, rfl, first?, later?, _⟩
    · cases wrong
    · cases same
      cases here
    · cases same
      exact congrArg Nat.succ (ih single later?)

end Segment

namespace Pattern

variable {pattern : Pattern} {params : Fields String} {path : String}

/-- A path that was written from a pattern is matched by it when every single segment is read back. -/
theorem isSome_captures?_path (written : pattern.path params = .ok path)
    (recoverable : ∀ segment ∈ pattern.segments,
      segment.isWildcard = false → segment.Recoverable params) (ignoreCase : Bool) :
    (pattern.captures? ignoreCase (splitPath path)).isSome := by
  obtain ⟨texts, made, rfl⟩ := path_eq_ok.mp written
  have plain : ∀ text ∈ texts, '?' ∉ text.toList := by
    intro text member
    obtain ⟨segment, segmentMem, made⟩ := exists_of_mem_right made member
    refine Segment.question_not_mem_of_piece made ?_
    rintro rfl
    exact recoverable _ segmentMem rfl
  rw [captures?, splitPath_join plain]
  exact Segment.isSome_matchSegments?_of_pieces made pattern.sound pattern.unbroken recoverable ignoreCase

/-- A pattern without a wildcard matches a path that was written from it only when every segment is read
back. -/
theorem recoverable_of_captures? (written : pattern.path params = .ok path)
    (plain : pattern.hasWildcard = false) {ignoreCase : Bool} {values : List String}
    (matched : pattern.captures? ignoreCase (splitPath path) = some values) :
    ∀ segment ∈ pattern.segments, segment.Recoverable params := by
  have single := isWildcard_eq_false plain
  have literals := Segment.question_not_mem_of_matchSegments? (solid_splitPath path).2 matched
  have counted := Segment.length_eq_of_matchSegments? single matched
  obtain ⟨texts, made, rfl⟩ := path_eq_ok.mp written
  have questions : ∀ text ∈ texts, '?' ∉ text.toList := by
    intro text member
    obtain ⟨segment, segmentMem, made⟩ := exists_of_mem_right made member
    exact Segment.question_not_mem_of_piece made fun same => literals text (same ▸ segmentMem)
  -- the path has one piece for each text that is not empty, and as many pieces as there are texts
  have solid : Solid '/' (texts.filter (· ≠ "")) := by
    intro text member
    obtain ⟨inside, filled⟩ := List.mem_filter.mp member
    obtain ⟨segment, segmentMem, made⟩ := exists_of_mem_right made inside
    exact ⟨by simpa using filled,
      Segment.slash_not_mem_of_piece made (single segment segmentMem) (pattern.unbroken segment segmentMem)⟩
  have cut : splitPath ("/" ++ Text.join "/" (texts.filter (· ≠ ""))) = texts.filter (· ≠ "") := by
    rw [splitPath_join questions, ← flatMap_pieces_filter]
    exact (pieces_join_eq_flatMap _).symm.trans (pieces_join solid)
  rw [cut, made.length_eq, List.length_filter_eq_length_iff] at counted
  intro segment member
  obtain ⟨text, textMem, made⟩ := exists_of_mem_left made member
  refine (Segment.recoverable_iff_of_piece made (single segment member) (pattern.unbroken segment member)).mpr ?_
  exact ⟨by simpa using counted text textMem, questions text textMem⟩

end Pattern

/-- A path is written for a name only from the route that has it. -/
theorem Registry.url_eq_some {registry : Registry} {name path : String} {params : Fields String} :
    registry.url name params = .ok (some path) ↔
      ∃ route, registry.named.get? name = some route ∧ route.pattern.path params = .ok path := by
  rw [url]
  cases registry.named.get? name with
  | none => simp
  | some route => simp only [bind_eq_ok, pure_eq_ok, Outcome.lift_eq_ok, Option.some.injEq, exists_eq_right,
      exists_eq_left']

/-- A path that a route matches is resolved for every method that the route answers. -/
theorem Router.isResolved_of_captures? {router : Router} {route : Route Endpoint} {path method : String}
    (member : route ∈ router.routes)
    (matched : (route.pattern.captures? router.index.settings.ignoreCase (splitPath path)).isSome)
    (answers : route.answers Endpoint.headOf method) : (router.resolve method path).isResolved := by
  rw [resolve, RouteIndex.isResolved_resolve_iff]
  refine List.ne_nil_of_mem (RouteIndex.mem_answering.mpr ⟨?_, answers⟩)
  exact RouteIndex.mem_matching.mpr ⟨member, matched⟩

namespace Deployment

/-- The path that a router writes for a named route, its own or a copy, leads back to that route: when no
single segment has an empty value and no literal a question mark, its pattern matches the path, and whatever
method the route answers is resolved there. Unless the pattern has a wildcard it matches only then. -/
theorem Reached.url_leads_back {deployment : Deployment} (reached : deployment.Reached) {number : Nat}
    {registry : Registry} (site : deployment.registryAt? number = some registry) {name path : String}
    {params : Fields String} (written : registry.url name params = .ok (some path)) :
    ∃ route, registry.named.get? name = some route ∧ route ∈ registry.routes ∧
      ((∀ segment ∈ route.pattern.segments, segment.isWildcard = false → segment.Recoverable params) →
        (route.pattern.captures? registry.index.settings.ignoreCase (splitPath path)).isSome ∧
        ∀ method, route.answers Endpoint.headOf method → (registry.resolve method path).isResolved) ∧
      (route.pattern.hasWildcard = false →
        (route.pattern.captures? registry.index.settings.ignoreCase (splitPath path)).isSome →
        ∀ segment ∈ route.pattern.segments, segment.Recoverable params) := by
  have regular := reached.regular.registry site
  obtain ⟨route, named, written⟩ := Registry.url_eq_some.mp written
  have member : route ∈ registry.routes := (regular.get?_named_iff.mp named).1
  refine ⟨route, named, member, fun recoverable => ?_, fun plain matched => ?_⟩
  · have matched := Pattern.isSome_captures?_path written recoverable
      registry.index.settings.ignoreCase
    exact ⟨matched, fun method answers => Router.isResolved_of_captures? member matched answers⟩
  · obtain ⟨values, matched⟩ := Option.isSome_iff_exists.mp matched
    exact Pattern.recoverable_of_captures? written plain matched

/-- A copied route is led back to from the router that it was copied to. -/
theorem url_leads_back_mountedUsers : mountedUsers.Reached ∧ ∃ registry,
    mountedUsers.registryAt? 1 = some registry ∧
    registry.url "user" [("id", "a b")] = .ok (some "/api/users/a%20b") ∧
    (registry.resolve "GET" "/api/users/a%20b").isResolved := by
  have reached : mountedUsers.Reached := (Reached.start rfl).after _
  have shown : (mountedUsers.registryAt? 1).map (fun registry =>
      ((registry.url "user" [("id", "a b")]).toOption, (registry.named.get? "user").map fun route =>
        (route.pattern.segments, route.answers Endpoint.headOf "GET"))) =
      some (some (some "/api/users/a%20b"),
        some ([.literal "api", .literal "users", .capture (some "id")], true)) := by decide +kernel
  obtain ⟨registry, site, held⟩ := Option.map_eq_some_iff.mp shown
  obtain ⟨url, known⟩ := Prod.mk.inj held
  have written := toOption_eq_some.mp url
  obtain ⟨route, named, _, leads, _⟩ := reached.url_leads_back site written
  rw [named] at known
  obtain ⟨segments, answers⟩ := Prod.mk.inj (Option.some.inj known)
  refine ⟨reached, registry, site, written, (leads ?_).2 "GET" answers⟩
  rw [segments]
  simp [Segment.Recoverable, Fields.get?]

/-- A path that is written with an empty value does not lead back: the pattern of the route does not match it,
and the method that the route binds is not resolved there. -/
theorem url_empty_value_mountedUsers : mountedUsers.Reached ∧ ∃ registry route,
    mountedUsers.registryAt? 0 = some registry ∧ registry.named.get? "user" = some route ∧
    route.methods.binds .get ∧ registry.url "user" [("id", "")] = .ok (some "/users") ∧
    route.pattern.captures? registry.index.settings.ignoreCase (splitPath "/users") = none ∧
    ¬(registry.resolve "GET" "/users").isResolved := by
  have reached : mountedUsers.Reached := (Reached.start rfl).after _
  have shown : (mountedUsers.registryAt? 0).map (fun registry =>
      ((registry.named.get? "user").map fun route => (route.methods.binds .get,
        route.pattern.captures? registry.index.settings.ignoreCase (splitPath "/users")),
      (registry.url "user" [("id", "")]).toOption, (registry.resolve "GET" "/users").isResolved)) =
      some (some (true, none), some (some "/users"), false) := by decide +kernel
  obtain ⟨registry, site, held⟩ := Option.map_eq_some_iff.mp shown
  obtain ⟨known, later⟩ := Prod.mk.inj held
  obtain ⟨url, unresolved⟩ := Prod.mk.inj later
  obtain ⟨route, named, known⟩ := Option.map_eq_some_iff.mp known
  obtain ⟨bound, unmatched⟩ := Prod.mk.inj known
  exact ⟨reached, registry, route, site, named, bound, toOption_eq_some.mp url, unmatched, by simp [unresolved]⟩

end Deployment

end HttpRouting

import HttpRouting.Proofs.CrossOrigin
import HttpRouting.Proofs.PathText

/-! # Answers that depend on the origin

A cache that keeps an answer hands it out to other requests unless the answer tells, in its `Vary` header, which
fields of the request it depends on. What the middleware for other origins answers depends on the `Origin` of the
request whenever the options admit some origins and not others, so two requests that differ in nothing else may get
different answers.

Only the answers that name an origin tell so. The answer to a request that tells no origin, or one that is not
admitted, looks the same to a cache as one that does not depend on the origin at all, unless the endpoint inside
tells of it.
-/

namespace HttpRouting

open Headers (isValue normalValue lowerName isEndBlank copiedValues)

namespace Headers

variable {name value : String} {listed : List String}

/-! ## Items of a list -/

private theorem normalValue_append_left {lead : List Char} (blank : ∀ char ∈ lead, isEndBlank char = true)
    (chars : List Char) :
    normalValue (String.ofList (lead ++ chars)) = normalValue (String.ofList chars) := by
  simp only [normalValue, Text.trim, String.toList_ofList, List.dropWhile_append_of_pos blank]

private theorem normalValue_append_right {tail : List Char} (blank : ∀ char ∈ tail, isEndBlank char = true)
    (chars : List Char) :
    normalValue (String.ofList (chars ++ tail)) = normalValue (String.ofList chars) := by
  have gone : tail.dropWhile isEndBlank = [] := List.dropWhile_eq_nil_iff.mpr blank
  have back : ∀ char ∈ tail.reverse, isEndBlank char = true := by simpa using blank
  simp only [normalValue, Text.trim, String.toList_ofList, List.dropWhile_append]
  split_ifs with nothing
  · rw [gone, List.isEmpty_iff.mp nothing]
  · rw [List.reverse_append, List.dropWhile_append_of_pos back]

/-- A value is left of a text between blanks. -/
theorem exists_normalValue_between (value : String) : ∃ lead tail : List Char,
    (∀ char ∈ lead, isEndBlank char = true) ∧ (∀ char ∈ tail, isEndBlank char = true) ∧
      value = String.ofList (lead ++ ((normalValue value).toList ++ tail)) := by
  have front := List.takeWhile_append_dropWhile (p := isEndBlank) (l := value.toList)
  have back := List.takeWhile_append_dropWhile (p := isEndBlank)
    (l := (value.toList.dropWhile isEndBlank).reverse)
  refine ⟨value.toList.takeWhile isEndBlank,
    ((value.toList.dropWhile isEndBlank).reverse.takeWhile isEndBlank).reverse,
    fun char => List.mem_takeWhile_imp, fun char member => List.mem_takeWhile_imp (List.mem_reverse.mp member), ?_⟩
  rw [normalValue, Text.trim, String.toList_ofList, ← List.reverse_append, back, List.reverse_reverse, front,
    String.ofList_toList]

def items (value : String) : List String :=
  (Text.cut ',' value).map normalValue

theorem items_append (left right : List Char) :
    items (String.ofList (left ++ ',' :: right)) = items (String.ofList left) ++ items (String.ofList right) := by
  have parts : String.ofList (left ++ ',' :: right) =
      String.ofList left ++ String.singleton ',' ++ String.ofList right := by
    rw [← String.toList_inj]
    simp
  rw [items, parts, Text.cut_append, List.map_append, items, items]

private theorem items_plain {chars : List Char} (plain : ',' ∉ chars) :
    items (String.ofList chars) = [normalValue (String.ofList chars)] := by
  rw [items, Text.cut_plain (by simpa using plain), List.map_singleton]

/-- Blanks in front change none of the items: they belong to the first one, up to the first comma. -/
theorem items_append_left {lead : List Char} (blank : ∀ char ∈ lead, isEndBlank char = true) (chars : List Char) :
    items (String.ofList (lead ++ chars)) = items (String.ofList chars) := by
  have plain : ',' ∉ lead := fun comma => absurd (blank _ comma) (by decide)
  by_cases commas : ',' ∈ chars
  · obtain ⟨first, rest, rfl, here⟩ := List.eq_append_cons_of_mem commas
    rw [← List.append_assoc, items_append, items_append, items_plain (by simp [plain, here]), items_plain here,
      normalValue_append_left blank]
  · rw [items_plain (by simp [plain, commas]), items_plain commas, normalValue_append_left blank]

/-- Blanks at the end belong to the last item, behind the last comma. -/
theorem items_append_right {tail : List Char} (blank : ∀ char ∈ tail, isEndBlank char = true) (chars : List Char) :
    items (String.ofList (chars ++ tail)) = items (String.ofList chars) := by
  have plain : ',' ∉ tail := fun comma => absurd (blank _ comma) (by decide)
  by_cases commas : ',' ∈ chars
  · obtain ⟨last, rest, back, here⟩ := List.eq_append_cons_of_mem (List.mem_reverse.mpr commas)
    obtain rfl : chars = rest.reverse ++ ',' :: last.reverse := by
      rw [← List.reverse_reverse chars, back]
      simp
    have behind : ',' ∉ last.reverse := by simpa using here
    have whole : ',' ∉ last.reverse ++ tail := by simp [plain, here]
    rw [List.append_assoc, List.cons_append, items_append, items_append, items_plain whole, items_plain behind,
      normalValue_append_right blank]
  · rw [items_plain (by simp [plain, commas]), items_plain commas, normalValue_append_right blank]

/-- A value lists the same items when blanks at its ends are dropped. -/
theorem items_normalValue (value : String) : items (normalValue value) = items value := by
  obtain ⟨lead, tail, front, back, whole⟩ := exists_normalValue_between value
  conv_rhs => rw [whole]
  rw [items_append_left front, items_append_right back, String.ofList_toList]

/-- What joins values lists the items of all of them. -/
theorem items_join (listed : List String) (some : listed ≠ []) :
    items (Text.join ", " listed) = listed.flatMap items := by
  induction listed with
  | nil => exact absurd rfl some
  | cons value listed ih =>
    by_cases alone : listed = []
    · subst alone
      simp [Text.join]
    · have parts : Text.join ", " (value :: listed) =
          String.ofList (value.toList ++ ',' :: ([' '] ++ (Text.join ", " listed).toList)) := by
        rw [Text.join_cons alone, ← String.toList_inj]
        simp
      have blank : ∀ char ∈ [' '], isEndBlank char = true := List.forall_mem_singleton.mpr (by decide)
      rw [parts, items_append, items_append_left blank, String.ofList_toList, String.ofList_toList, ih alone,
        List.flatMap_cons]

/-- A copy lists the same items under a name whose values are joined by commas. -/
theorem flatMap_items_copiedValues (comma : lowerName name ≠ "cookie") (plain : lowerName name ≠ setCookie) :
    (copiedValues name listed).flatMap items = listed.flatMap items := by
  rw [copiedValues, if_neg plain]
  split_ifs with absent
  · rw [absent]
  · rw [List.flatMap_singleton, items_normalValue, glue, if_neg comma, items_join listed absent]

end Headers

namespace Request

/-- The request without the fields that tell its origin. -/
def hidingOrigin (request : Request) : Request :=
  { request with message := { request.message with headers := request.message.headers.without "origin" } }

/-- Whether two requests differ in nothing but the origin that they tell, if any. -/
def AlikeButOrigin (one other : Request) : Prop :=
  one.hidingOrigin = other.hidingOrigin

variable {one other : Request}

theorem AlikeButOrigin.method (alike : one.AlikeButOrigin other) : one.method = other.method := by
  have same := congrArg Request.method alike
  exact same

theorem AlikeButOrigin.header (alike : one.AlikeButOrigin other) {name : String} (apart : lowerName name ≠ "origin") :
    one.header name = other.header name := by
  have values (request : Request) :
      request.hidingOrigin.message.headers.values name = request.message.headers.values name :=
    (Headers.values_without _ _ _).trans (if_neg (Ne.symm apart))
  have same : one.message.headers.values name = other.message.headers.values name := by
    rw [← values one, ← values other, alike]
  rw [Request.header, Request.header, Headers.get?, Headers.get?, same]

theorem AlikeButOrigin.isPreflightOf_iff (alike : one.AlikeButOrigin other) :
    CorsOptions.IsPreflightOf one ↔ CorsOptions.IsPreflightOf other := by
  rw [CorsOptions.IsPreflightOf, CorsOptions.IsPreflightOf, alike.method, alike.header (by decide)]

end Request

/-- Whether an endpoint does the same for requests that differ in nothing but the origin that they tell. -/
def Endpoint.IgnoresOrigin (endpoint : Endpoint) : Prop :=
  ∀ one other : Request, one.AlikeButOrigin other →
    ∀ sites world, endpoint.call one sites world = endpoint.call other sites world

/-- Whether a response tells that it depends on a header of the request. -/
def Response.VariesBy (response : Response) (name : String) : Prop :=
  ∃ value ∈ response.headers.values "Vary", ∃ item ∈ Text.cut ',' value, lowerName (normalValue item) = lowerName name

instance (response : Response) (name : String) : Decidable (response.VariesBy name) :=
  inferInstanceAs (Decidable (∃ _ ∈ _, ∃ _ ∈ _, _))

/-- What a response tells that it depends on are the items that its `Vary` header lists. -/
theorem Response.variesBy_iff {response : Response} {name : String} : response.VariesBy name ↔
    ∃ item ∈ (response.headers.values "Vary").flatMap Headers.items, lowerName item = lowerName name := by
  simp only [Response.VariesBy, Headers.items, List.mem_flatMap, List.mem_map]
  constructor
  · rintro ⟨value, member, item, listed, same⟩
    exact ⟨_, ⟨value, member, item, listed, rfl⟩, same⟩
  · rintro ⟨_, ⟨value, member, item, listed, rfl⟩, same⟩
    exact ⟨value, member, item, listed, same⟩

namespace CorsOptions

variable {options : CorsOptions} {request : Request}

/-- Whether the options admit the origin that a request tells, and an answer names it itself and not all origins. -/
def Names (options : CorsOptions) (request : Request) : Prop :=
  ∃ origin, options.GrantsTo request origin ∧ origin ≠ "*"

private theorem named?_any_iff (selective : options.origin ≠ .any) :
    (options.named? request).any (· ≠ "*") = true ↔ options.Names request := by
  constructor
  · intro reflected
    obtain ⟨named, names, differs⟩ := (Option.any_eq_true ..).mp reflected
    obtain ⟨origin, granted, rfl⟩ := named?_eq_some_iff.mp names
    rw [OriginRule.nameFor_of_ne_any selective] at differs
    exact ⟨origin, granted, of_decide_eq_true differs⟩
  · rintro ⟨origin, granted, differs⟩
    rw [named?_eq_some_iff.mpr ⟨origin, granted, rfl⟩, OriginRule.nameFor_of_ne_any selective]
    exact decide_eq_true differs

/-- An answer that has an origin named in it tells that it depends on that, and else tells so only if the response
does in which it was to be named. -/
theorem Marks.variesBy_iff {own answer : Response} (marks : Marks (options.named? request) own answer)
    (selective : options.origin ≠ .any) :
    answer.VariesBy "Origin" ↔ options.Names request ∨ own.VariesBy "Origin" := by
  have joined : lowerName "Vary" ≠ "cookie" ∧ lowerName "Vary" ≠ Headers.setCookie := by decide
  have told : Headers.items "Origin" = ["Origin"] := by decide
  rw [← named?_any_iff selective, Response.variesBy_iff, Response.variesBy_iff, marks.vary,
    Headers.flatMap_items_copiedValues joined.1 joined.2, List.flatMap_append,
    Headers.flatMap_items_copiedValues joined.1 joined.2]
  split_ifs with names
  · rw [List.flatMap_singleton, told]
    exact iff_of_true ⟨"Origin", by simp, rfl⟩ (.inl names)
  · rw [List.flatMap_nil, List.append_nil]
    exact ⟨.inr, fun either => either.resolve_left names⟩

end CorsOptions

namespace Middleware

open CorsOptions

variable {options : CorsOptions} {inner outer : Endpoint} {request : Request}

/-- What the middleware answers to requests that differ in nothing but their origin: the same in every case, or one
response in which it names the origin that is to be named in each case. -/
theorem cors_runs (valid : options.Valid) (ignores : inner.IgnoresOrigin)
    (built : (cors options).transform inner = .ok outer) (request : Request) (sites : Sites) (world : World) :
    (∃ run, ∀ other : Request, other.AlikeButOrigin request → other.message.headers.Writable →
      outer.call other sites world = run) ∨
    ∃ own final, (IsPreflightOf request ∧ own.headers.values "Vary" = [] ∨
        ¬IsPreflightOf request ∧ inner.call request sites world = (.ok own, final)) ∧
      ∀ other : Request, other.AlikeButOrigin request → other.message.headers.Writable →
        ∃ answer, outer.call other sites world = (.ok answer, final) ∧ Marks (options.named? other) own answer := by
  by_cases preflight : IsPreflightOf request
  · obtain ⟨bare, proper, _, others, answers⟩ := valid.exists_bare
    obtain ⟨further, rest, common⟩ := options.exists_further_common
    refine .inr ⟨bare, world, .inl ⟨preflight, others _ (by decide)⟩, fun other alike writable => ?_⟩
    obtain ⟨answer, marked, marks⟩ := exists_marks proper rest fun _ => isValue_of_named writable
    refine ⟨answer, ?_, marks⟩
    rw [call_cors_preflight built (alike.isPreflightOf_iff.mpr preflight), answers, common, marked]
    rfl
  · have passed (other : Request) (alike : other.AlikeButOrigin request) : outer.call other sites world = _ :=
      call_cors built (mt alike.isPreflightOf_iff.mp preflight)
    rcases called : inner.call request sites world with ⟨fault | own, final⟩
    · refine .inl ⟨answerFault fault sites final, fun other alike _ => ?_⟩
      rw [passed other alike, ignores other request alike, called]
    · rcases own.recast_cases with ⟨proper, _⟩ | ⟨_, kind, refused⟩
      · refine .inr ⟨own, final, .inr ⟨preflight, rfl⟩, fun other alike writable => ?_⟩
        obtain ⟨answer, marks, answers⟩ :=
          exists_call_cors valid writable built (mt alike.isPreflightOf_iff.mp preflight) proper
        exact ⟨answer, answers sites world final ((ignores other request alike sites world).trans called), marks⟩
      · refine .inl ⟨answerFault (.violation kind) sites final, fun other alike writable => ?_⟩
        obtain ⟨further, rest, plain⟩ := valid.exists_further_plain (options.named? other)
        obtain ⟨edited, ran⟩ := Headers.exists_edit
          (List.forall_mem_append.mpr
            ⟨naming_proper fun _ => isValue_of_named writable, fun edit member => (rest edit member).1⟩)
          own.headers.copied
        rw [passed other alike, ignores other request alike, called]
        dsimp only
        rw [Response.withHeaders, plain, ran]
        change tryCatch (ofViolation (own.recast edited own.body)) answerFault sites final = _
        rw [refused]
        rfl

/-- Which answers tell that they depend on the origin, if the options do not admit all origins and the endpoint inside
does not look at it. Of two answers that differ, to requests that differ in nothing but the origin, each tells so
exactly when its own request tells an origin that is admitted, other than a star, or when the endpoint's own answer
tells so. -/
theorem cors_varies (valid : options.Valid) (selective : options.origin ≠ .any) (ignores : inner.IgnoresOrigin)
    (built : (cors options).transform inner = .ok outer) {address address' : Option Address}
    {given given' : MessageOptions} {one other : Request} (made : Message.make address given = .ok one.message)
    (made' : Message.make address' given' = .ok other.message) (alike : one.AlikeButOrigin other) {sites : Sites}
    {world final final' : World} {answer answer' : Response}
    (called : outer.call one sites world = (.ok answer, final))
    (called' : outer.call other sites world = (.ok answer', final')) (differ : answer ≠ answer') :
    (answer.VariesBy "Origin" ↔ options.Names one ∨ ¬IsPreflightOf one ∧
      ∃ own, inner.call one sites world = (.ok own, final) ∧ own.VariesBy "Origin") ∧
    (answer'.VariesBy "Origin" ↔ options.Names other ∨ ¬IsPreflightOf other ∧
      ∃ own, inner.call other sites world = (.ok own, final') ∧ own.VariesBy "Origin") := by
  have writable := Message.writable_of_make made
  have writable' := Message.writable_of_make made'
  rcases cors_runs valid ignores built one sites world with ⟨run, same⟩ | ⟨own, last, source, marked⟩
  · have first := (same one rfl writable).symm.trans called
    have second := (same other alike.symm writable').symm.trans called'
    cases first.symm.trans second
    exact absurd rfl differ
  · obtain ⟨_, ran, marks⟩ := marked one rfl writable
    cases ran.symm.trans called
    obtain ⟨_, ran', marks'⟩ := marked other alike.symm writable'
    cases ran'.symm.trans called'
    have told : own.VariesBy "Origin" ↔ ¬IsPreflightOf one ∧
        ∃ own, inner.call one sites world = (.ok own, final) ∧ own.VariesBy "Origin" := by
      rcases source with ⟨preflight, nothing⟩ | ⟨ordinary, owned⟩
      · refine iff_of_false ?_ fun known => known.1 preflight
        rw [Response.VariesBy, nothing]
        rintro ⟨_, ⟨⟩, _⟩
      · refine ⟨fun varies => ⟨ordinary, own, owned, varies⟩, ?_⟩
        rintro ⟨_, _, owned', varies⟩
        cases owned.symm.trans owned'
        exact varies
    rw [marks.variesBy_iff selective, marks'.variesBy_iff selective, told, ← alike.isPreflightOf_iff,
      ← ignores one other alike]
    exact ⟨Iff.rfl, Iff.rfl⟩

private theorem ignoresOrigin_steady : steady.IgnoresOrigin :=
  fun _ _ _ _ _ => rfl

def sitesOptions : CorsOptions :=
  { origin := .oneOf ["https://a.test", "https://b.test"] }

private theorem valid_sitesOptions : sitesOptions.Valid :=
  ⟨by decide, by decide, by decide⟩

/-- Around an endpoint that always answers alike, the middleware with these options answers a request alike in every
world, and names the origin that it is to name. -/
theorem exists_call_sites {fields : List (String × String)} (writable : (fieldRequest fields).message.headers.Writable)
    (ordinary : ¬IsPreflightOf (fieldRequest fields)) (built : (cors sitesOptions).transform steady = .ok outer) :
    ∃ answer, (∀ sites world, outer.call (fieldRequest fields) sites world = (.ok answer, world)) ∧
      answer.headers.values "Access-Control-Allow-Origin" =
        (sitesOptions.named? (fieldRequest fields)).toList.map normalValue ∧
      (answer.VariesBy "Origin" ↔ sitesOptions.Names (fieldRequest fields)) := by
  obtain ⟨own, called, proper, silent, untold⟩ : ∃ own,
      (∀ sites world, steady.call (fieldRequest fields) sites world = (.ok own, world)) ∧ own.Proper ∧
      own.headers.values "Access-Control-Allow-Origin" = [] ∧ ¬own.VariesBy "Origin" :=
    ⟨_, fun _ _ => rfl, by decide, rfl, by decide⟩
  obtain ⟨answer, marks, answers⟩ := exists_call_cors valid_sitesOptions writable built ordinary proper
  refine ⟨answer, fun sites world => answers _ _ _ (called sites world), ?_, ?_⟩
  · rw [marks.origin, silent]
    cases sitesOptions.named? (fieldRequest fields) with
    | none => exact Headers.copiedValues_nil _
    | some origin => rfl
  · rw [marks.variesBy_iff (by rintro ⟨⟩)]
    exact or_iff_left untold

theorem cors_varies_sites : ∃ outer answer answer', (cors sitesOptions).transform steady = .ok outer ∧
    sitesOptions.Valid ∧ sitesOptions.origin ≠ .any ∧ steady.IgnoresOrigin ∧
    Message.make (some { scheme := "http", path := .segments [""] }) { headers := [("Origin", "https://a.test")] } =
      .ok (fieldRequest [("origin", "https://a.test")]).message ∧
    Message.make (some { scheme := "http", path := .segments [""] }) { headers := [("Origin", "https://b.test")] } =
      .ok (fieldRequest [("origin", "https://b.test")]).message ∧
    (fieldRequest [("origin", "https://a.test")]).AlikeButOrigin (fieldRequest [("origin", "https://b.test")]) ∧
    (∀ sites world, outer.call (fieldRequest [("origin", "https://a.test")]) sites world = (.ok answer, world) ∧
      outer.call (fieldRequest [("origin", "https://b.test")]) sites world = (.ok answer', world)) ∧
    answer ≠ answer' ∧ answer.VariesBy "Origin" ∧ answer'.VariesBy "Origin" := by
  have selective : sitesOptions.origin ≠ .any := OriginRule.noConfusion
  have made : Message.make (some { scheme := "http", path := .segments [""] })
      { headers := [("Origin", "https://a.test")] } = .ok (fieldRequest [("origin", "https://a.test")]).message := rfl
  have made' : Message.make (some { scheme := "http", path := .segments [""] })
      { headers := [("Origin", "https://b.test")] } = .ok (fieldRequest [("origin", "https://b.test")]).message := rfl
  have named : sitesOptions.Names (fieldRequest [("origin", "https://a.test")]) :=
    ⟨"https://a.test", ⟨rfl, by decide, .oneOf (by decide)⟩, by decide⟩
  have named' : sitesOptions.Names (fieldRequest [("origin", "https://b.test")]) :=
    ⟨"https://b.test", ⟨rfl, by decide, .oneOf (by decide)⟩, by decide⟩
  have ordinary (fields : List (String × String)) : ¬IsPreflightOf (fieldRequest fields) :=
    fun preflight => absurd preflight.1 (by simp [fieldRequest, Request.method])
  obtain ⟨answer, calls, origin, _⟩ := exists_call_sites (Message.writable_of_make made) (ordinary _) rfl
  obtain ⟨answer', calls', origin', _⟩ := exists_call_sites (Message.writable_of_make made') (ordinary _) rfl
  have differ : answer ≠ answer' := by
    rintro rfl
    exact absurd (origin.symm.trans origin') (by decide)
  obtain ⟨varies, varies'⟩ := cors_varies valid_sitesOptions selective ignoresOrigin_steady rfl made made' rfl
    (calls (fun _ _ => throw (.general "")) {}) (calls' (fun _ _ => throw (.general "")) {}) differ
  exact ⟨_, answer, answer', rfl, valid_sitesOptions, selective, ignoresOrigin_steady, made, made', rfl,
    fun sites world => ⟨calls sites world, calls' sites world⟩, differ, varies.mpr (.inl named),
    varies'.mpr (.inl named')⟩

/-- A cache may keep the answer to a request without an origin, which names none, and hand it out to a request with an
origin that is admitted: the two answers differ, and the first one does not tell on what it depends. -/
theorem cors_refused_not_varying : ∃ outer answer answer', (cors sitesOptions).transform steady = .ok outer ∧
    steady.IgnoresOrigin ∧
    (fieldRequest [("origin", "https://a.test")]).AlikeButOrigin (fieldRequest []) ∧
    (∀ sites world, outer.call (fieldRequest [("origin", "https://a.test")]) sites world = (.ok answer, world) ∧
      outer.call (fieldRequest []) sites world = (.ok answer', world)) ∧
    answer ≠ answer' ∧ answer.VariesBy "Origin" ∧ ¬answer'.VariesBy "Origin" := by
  have ordinary : ¬IsPreflightOf (fieldRequest [("origin", "https://a.test")]) ∧ ¬IsPreflightOf (fieldRequest []) :=
    ⟨fun preflight => absurd preflight.1 (by decide), fun preflight => absurd preflight.1 (by decide)⟩
  have writable : (fieldRequest [("origin", "https://a.test")]).message.headers.Writable :=
    List.forall_mem_singleton.mpr (by decide)
  have writable' : (fieldRequest []).message.headers.Writable := List.forall_mem_nil _
  have named : sitesOptions.Names (fieldRequest [("origin", "https://a.test")]) :=
    ⟨"https://a.test", ⟨rfl, by decide, .oneOf (by decide)⟩, by decide⟩
  have unnamed : ¬sitesOptions.Names (fieldRequest []) := by
    rintro ⟨origin, ⟨told, _⟩, _⟩
    cases told
  obtain ⟨answer, calls, origin, varies⟩ := exists_call_sites writable ordinary.1 rfl
  obtain ⟨answer', calls', origin', varies'⟩ := exists_call_sites writable' ordinary.2 rfl
  refine ⟨_, answer, answer', rfl, ignoresOrigin_steady, rfl,
    fun sites world => ⟨calls sites world, calls' sites world⟩, ?_, varies.mpr named, mt varies'.mp unnamed⟩
  rintro rfl
  exact absurd (origin.symm.trans origin') (by decide)

end Middleware

end HttpRouting

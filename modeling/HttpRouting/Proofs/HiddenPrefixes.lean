import HttpRouting.Proofs.NestedMounts
import HttpRouting.Proofs.Pipelines
import HttpRouting.Proofs.StrippedPrefixes
import Mathlib.Data.List.Infix

/-! # Two ways to hide a prefix

An endpoint that is mounted on a router is sent what lies below a pattern, with the segments of the pattern taken out
of the path; a prefix that is stripped leaves what stands behind a text. For a prefix of literal segments, and for
paths that are written without doubled slashes, the two send the same requests to the endpoint, with the same path,
and answer the same ones with a 404. On other paths they differ, since cutting a path at its slashes forgets how many
there are.
-/

namespace HttpRouting

open Text

/-- Whether a path begins with a slash, and has neither two slashes in a row nor a question mark. -/
structure PlainPath (path : String) : Prop where
  rooted : startsWith "/" path = true
  single : ¬['/', '/'] <:+: path.toList
  whole : '?' ∉ path.toList

instance (path : String) : Decidable (PlainPath path) :=
  decidable_of_iff (startsWith "/" path = true ∧ ¬['/', '/'] <:+: path.toList ∧ '?' ∉ path.toList)
    ⟨fun parts => ⟨parts.1, parts.2.1, parts.2.2⟩, fun plain => ⟨plain.rooted, plain.single, plain.whole⟩⟩

/-- Only the last piece of a path without doubled slashes can be empty. -/
theorem ne_empty_of_cut {rest last : String} {front : List String} (single : ¬['/', '/'] <:+: ("/" ++ rest).toList)
    (split : cut '/' rest = front ++ [last]) : ∀ piece ∈ front, piece ≠ "" := by
  rintro _ member rfl
  obtain ⟨before, after, rfl⟩ := List.append_of_mem member
  have pieces : "/" ++ rest = join "/" ("" :: cut '/' rest) := by
    rw [join_cons (cut_ne_nil '/' rest), String.empty_append]
    exact congrArg ("/" ++ ·) (join_cut rest).symm
  have doubled : "/" ++ rest = join "/" ("" :: before) ++ "/" ++ ("/" ++ join "/" (after ++ [last])) := by
    have apart : "" :: cut '/' rest = ("" :: before) ++ "" :: (after ++ [last]) := by
      rw [split, List.append_assoc]
      rfl
    rw [pieces, apart, join, String.intercalate_append_of_ne_nil (List.cons_ne_nil _ _) (List.cons_ne_nil _ _)]
    congr 1
    rw [String.intercalate_cons_of_ne_nil (by simp), String.empty_append]
    rfl
  refine single ⟨(join "/" ("" :: before)).toList, (join "/" (after ++ [last])).toList, ?_⟩
  rw [doubled]
  simp

private theorem endsWith_slash_join {texts : List String} (some : texts ≠ []) (solid : Solid '/' texts) :
    endsWith "/" ("/" ++ join "/" texts) = false := by
  obtain ⟨last, differs, ends⟩ := getLast?_join some solid
  change (join "/" texts).toList.getLast? = _ at ends
  rw [← Bool.not_eq_true]
  change ¬endsWith (String.singleton '/') _ = true
  rw [endsWith_singleton, String.toList_append, List.getLast?_append, ends]
  simpa using differs

/-- A path that is written plainly is made of its segments again, and of the slash at its end if there is one. -/
theorem PlainPath.pathBelow_zero {path : String} (plain : PlainPath path) : pathBelow path 0 = path := by
  obtain ⟨rest, rfl⟩ := startsWith_iff_exists.mp plain.rooted
  obtain ⟨front, last, split⟩ : ∃ front last, cut '/' rest = front ++ [last] :=
    (List.eq_nil_or_concat' _).resolve_left (cut_ne_nil '/' rest)
  have filled := ne_empty_of_cut plain.single split
  have kept : front.filter (· ≠ "") = front := List.filter_eq_self.mpr (by simpa using filled)
  have raw : splitPath ("/" ++ rest) = front ++ [last].filter (· ≠ "") := by
    have cutting : pieces '/' ("/" ++ rest) = pieces '/' rest := pieces_separator_append '/' rest
    rw [splitPath, before_of_not_mem plain.whole, cutting, pieces, split, List.filter_append, kept]
  have glued : rest = join "/" (front ++ [last]) := by
    rw [← split]
    exact (join_cut rest).symm
  rw [pathBelow, before_of_not_mem plain.whole, List.drop_zero]
  -- the path ends with a slash exactly when its last piece is empty, which is then no segment
  by_cases empty : last = ""
  · have segments : splitPath ("/" ++ rest) = front := by rw [raw, empty]; simp
    rw [segments]
    by_cases none : front = []
    · rw [glued, none, empty]
      rfl
    · have trailing : rest = join "/" front ++ "/" := by
        rw [glued, join, String.intercalate_append_of_ne_nil none (List.cons_ne_nil _ _), empty]
        simp [join]
      have ended : endsWith "/" ("/" ++ rest) = true := by
        rw [trailing]
        simp [endsWith]
      have occupied : front.isEmpty = false := by simpa using none
      rw [ended, occupied, Bool.not_false, Bool.and_self, if_pos rfl, String.append_assoc, ← trailing]
  · have segments : splitPath ("/" ++ rest) = front ++ [last] := by rw [raw]; simp [empty]
    have unended : endsWith "/" ("/" ++ rest) = false := by
      rw [glued]
      exact endsWith_slash_join (by simp) (segments ▸ (solid_splitPath ("/" ++ rest)).1)
    rw [segments, unended, Bool.and_false, if_neg Bool.false_ne_true, String.append_empty, ← glued]

namespace Middleware

/-- A path that lies below a base has the pieces of the base in front. -/
theorem Below.pieces_begin {text path left : String} (below : Below (prefixBase text) path left) :
    pieces '/' text <+: pieces '/' path := by
  have based : pieces '/' (prefixBase text) = pieces '/' text :=
    (pieces_separator_append '/' _).trans (pieces_join (solid_pieces '/' text))
  rcases below with ⟨rfl, _⟩ | ⟨rest, rfl, _⟩
  · exact ⟨[], (List.append_nil _).trans based.symm⟩
  · have cutting : pieces '/' (prefixBase text ++ ("/" ++ rest)) =
        pieces '/' (prefixBase text) ++ pieces '/' rest := by
      rw [← String.append_assoc]
      exact pieces_append '/' _ _
    rw [cutting, based]
    exact List.prefix_append _ _

/-- A plain path whose first segments are the pieces of a base lies below it, with the other segments. -/
theorem below_of_begins {text path : String} (plain : PlainPath path) (some : pieces '/' text ≠ [])
    (within : pieces '/' text <+: splitPath path) :
    Below (prefixBase text) path (pathBelow path (pieces '/' text).length) := by
  obtain ⟨rest, split⟩ := within
  have shown := plain.pathBelow_zero
  have occupied : (pieces '/' text ++ rest).isEmpty = false := by simp [some]
  rw [pathBelow, List.drop_zero, ← split, occupied, Bool.not_false, Bool.true_and] at shown
  rw [pathBelow, ← split, List.drop_left]
  generalize endsWith "/" (Text.before '?' path) = slash at shown ⊢
  by_cases none : rest = []
  · rw [none, List.append_nil] at shown
    rw [none]
    cases slash with
    | false => exact .inl ⟨by rw [← shown]; exact String.append_empty, rfl⟩
    | true => exact .inr ⟨"", shown.symm, rfl⟩
  · have more : rest.isEmpty = false := by simpa using none
    rw [more, Bool.not_false, Bool.true_and]
    rw [join, String.intercalate_append_of_ne_nil some none] at shown
    refine .inr ⟨join "/" rest ++ if slash = true then "/" else "", ?_, String.append_assoc ..⟩
    rw [← shown]
    simp only [prefixBase, join, String.append_assoc]

/-- What a stripped prefix leaves of a plain path is what is left when the segments of the prefix are hidden. -/
theorem strippedPath?_eq_handlerPath {text path : String} (plain : PlainPath path) :
    strippedPath? text path = if pieces '/' text <+: splitPath path then
      some (handlerPath path (splitPath path) (List.range (pieces '/' text).length)) else none := by
  have whole : Text.before '?' path = path := before_of_not_mem plain.whole
  by_cases none : pieces '/' text = []
  · rw [strippedPath?_of_empty none, none, if_pos (List.nil_prefix), handlerPath_eq, whole]
    rfl
  · rw [strippedPath?_of_filled none]
    split_ifs with within
    · have hides := handlerPath_pathBelow (mt List.length_eq_zero_iff.mp none) within.length_le []
      rw [List.map_nil, List.append_nil] at hides
      rw [pathBelow?_eq_some_iff.mpr (below_of_begins plain none within), hides, handlerPath_eq, before_pathBelow]
      rfl
    · have outside : ∀ left, pathBelow? (prefixBase text) path ≠ some left := by
        intro left found
        have inside := (pathBelow?_eq_some_iff.mp found).pieces_begin
        rw [splitPath, whole] at within
        exact within inside
      exact Option.eq_none_iff_forall_ne_some.mpr outside

end Middleware

/-! ## Patterns of literals, and a single route -/

/-- Literals and a wildcard behind them match the segments that begin with these literals. -/
theorem isSome_matchSegments?_literals (values raw : List String) :
    (matchSegments? false (values.map .literal ++ [.wildcard none]) raw).isSome = true ↔ values <+: raw := by
  induction values generalizing raw with
  | nil => simp
  | cons value values ih =>
    cases raw with
    | nil => simp [matchSegments?]
    | cons first raw =>
      rw [List.cons_prefix_cons, ← ih raw]
      by_cases same : value = first
      · simp only [List.map_cons, List.cons_append, matchSegments?, Segment.matches?, literalKey, same]
        cases matchSegments? false (values.map .literal ++ [.wildcard none]) raw <;> simp
      · simp [matchSegments?, Segment.matches?, literalKey, same]

/-- Literals, and a wildcard behind them, make a pattern. -/
theorem segmentFault?_literals (values : List String) :
    segmentFault? [] (values.map .literal) = none ∧
      segmentFault? [] (values.map .literal ++ [.wildcard none]) = none := by
  have nameless : (values.map Segment.literal).filterMap Segment.name? = [] := by
    simp [List.filterMap_map, Function.comp_def, Segment.name?, Segment.captureName?]
  have plain : ∀ segment ∈ values.map Segment.literal, segment.isWildcard = false := by
    simp [Segment.isWildcard]
  constructor
  · refine segmentFault?_eq_none_iff.mpr ⟨fun segment member => plain segment (List.dropLast_subset _ member), ?_⟩
    simp [nameless]
  · refine segmentFault?_eq_none_iff.mpr ⟨?_, ?_⟩
    · rwa [List.dropLast_concat]
    · have last : [Segment.wildcard none].filterMap Segment.name? = [] := rfl
      simp [List.filterMap_append, nameless, last]

namespace Pattern

variable {text : String}

/-- A text whose pieces are literals spells the pattern of just these. -/
theorem exists_compile_literals (filled : text ≠ "")
    (literal : ∀ piece ∈ pieces '/' text, Segment.read piece = .ok (.literal piece)) :
    ∃ head, compile text = .ok head ∧ head.segments = (pieces '/' text).map .literal := by
  have unbroken : ∀ segment ∈ (pieces '/' text).map Segment.literal, segment.Unbroken :=
    List.forall_mem_map.mpr (solid_pieces '/' text)
  refine ⟨⟨withLeadingSlash text, (pieces '/' text).map .literal, (segmentFault?_literals _).1, unbroken⟩, ?_, rfl⟩
  refine compile_eq_ok.mpr ⟨filled, rfl, List.forall₂_map_right_iff.mpr ?_⟩
  exact List.forall₂_same.mpr literal

end Pattern

/-- The endpoint for what is not found does nothing but answer with the same 404. -/
theorem Endpoint.call_notFound : ∃ missing, Response.notFound = .ok missing ∧ missing.status = 404 ∧
    ∀ request, notFound.call request = pure missing := by
  obtain ⟨missing, answers, status⟩ : ∃ missing, Response.notFound = .ok missing ∧ missing.status = 404 :=
    ⟨_, rfl, rfl⟩
  refine ⟨missing, answers, status, fun request => ?_⟩
  rw [notFound, guarded, answers]
  rfl

namespace Router

open Middleware (stripPrefix steady)

variable {router : Router} {route : Route Endpoint} {method path : String}

/-- With a single route nothing is found on a path that its pattern does not match. -/
theorem resolve_of_miss (sole : router.routes = [route])
    (missed : route.pattern.captures? router.index.settings.ignoreCase (splitPath path) = none) :
    router.resolve method path = .notFound := by
  have nobody : router.index.matching (splitPath path) = [] := by
    rw [RouteIndex.matching, show router.index.routes = [route] from sole]
    simp [missed]
  have silent : router.index.answering Endpoint.headOf method (splitPath path) = [] := by
    rw [RouteIndex.answering, nobody, List.filter_nil]
  have nothing : router.index.allowedAt (splitPath path) = [] := by simp [RouteIndex.allowedAt, nobody]
  rw [resolve, RouteIndex.resolve_of_unanswered silent, nothing]
  rfl

/-- With a single route that answers the method, a path that its pattern matches is resolved to it. -/
theorem exists_resolve_of_match (sole : router.routes = [route]) {endpoint : Endpoint}
    (answers : route.methods.get? Endpoint.headOf method = some endpoint)
    (matched : (route.pattern.captures? router.index.settings.ignoreCase (splitPath path)).isSome = true) :
    ∃ choice, router.resolve method path = .resolved choice ∧ choice.route = route ∧ choice.endpoint = endpoint ∧
      choice.path = handlerPath path (splitPath path) route.strip := by
  have inside : route ∈ router.index.routes := by
    rw [show router.index.routes = [route] from sole]
    exact List.mem_singleton_self route
  have answered : router.index.answering Endpoint.headOf method (splitPath path) ≠ [] :=
    List.ne_nil_of_mem (RouteIndex.mem_answering.mpr ⟨RouteIndex.mem_matching.mpr ⟨inside, matched⟩,
      by rw [Route.answers, answers]; rfl⟩)
  obtain ⟨choice, _, resolved, _⟩ := RouteIndex.resolve_of_answered answered
  obtain ⟨member, gets, _⟩ := RouteIndex.of_resolve resolved
  obtain rfl : choice.route = route := by
    rw [show router.index.routes = [route] from sole] at member
    exact List.mem_singleton.mp member
  exact ⟨choice, resolved, rfl, Option.some.inj (gets.symm.trans answers), RouteIndex.path_of_resolve resolved⟩

/-- Mounting an endpoint that is no router under literals makes a router of one route, which answers every method by
the endpoint on all paths that begin with these literals, and hides them. -/
theorem exists_mount_literals {text : String} (filled : text ≠ "")
    (literal : ∀ piece ∈ pieces '/' text, Segment.read piece = .ok (.literal piece)) (settings : MatchSettings)
    (logger : Option Logger) (inner : Endpoint) :
    ∃ parent route, (fresh settings logger).mount text (.handler (.endpoint inner)) = .ok parent ∧
      parent = { fresh settings logger with index := parent.index } ∧ parent.index.settings = settings ∧
      parent.routes = [route] ∧ route.pattern.segments = (pieces '/' text).map .literal ++ [.wildcard none] ∧
      route.strip = List.range (pieces '/' text).length ∧
      ∀ method, route.methods.get? Endpoint.headOf method = some inner.adapt := by
  obtain ⟨head, compiled, segments⟩ := Pattern.exists_compile_literals filled literal
  have plain : head.hasWildcard = false := by
    rw [Pattern.hasWildcard_eq_false_iff, segments]
    simp [Segment.isWildcard]
  have sound := (segmentFault?_literals (pieces '/' text)).2
  obtain ⟨pattern, joined⟩ : ∃ pattern, head.join restPattern = .ok pattern :=
    Pattern.exists_ofSegments_iff.mpr (by rw [segments]; exact sound)
  have behind : pattern.segments = (pieces '/' text).map .literal ++ [.wildcard none] := by
    rw [(Pattern.ofSegments_eq_ok.mp joined).2, segments]
    rfl
  let route : Route Endpoint :=
    ⟨pattern, { catchAll := some inner.adapt }, 0, none, none, head.hidden true []⟩
  obtain ⟨index, added⟩ : ∃ index, (fresh settings logger).index.add [route] = .ok index :=
    ⟨_, RouteIndex.add_eq_ok.mpr ⟨rfl, rfl, rfl⟩⟩
  have mounted : (fresh settings logger).mount text (.handler (.endpoint inner)) =
      .ok { fresh settings logger with index } :=
    mount_eq_ok.mpr ⟨head, mountPoint_eq_ok.mpr ⟨rfl, compiled, plain⟩,
      mountOn_handler_eq_ok.mpr ⟨pattern, Pattern.under_eq_ok.mpr joined, add_eq_ok.mpr ⟨index, added, rfl⟩⟩⟩
  obtain ⟨_, _, rfl⟩ := RouteIndex.add_eq_ok.mp added
  refine ⟨_, route, mounted, rfl, RouteIndex.settings_foldl_insert _ _, rfl, behind, ?_, ?_⟩
  · change head.hidden true [] = _
    simp [Pattern.hidden, Pattern.positions, segments]
  · have lawful : route.methods.Lawful := ⟨List.nodup_nil, fun _ => rfl⟩
    exact MethodTable.get?_of_catchAll lawful Endpoint.headOf rfl

/-- Mounting an endpoint under a prefix of literals, in a router that tells letter case apart, and stripping the
prefix hide it alike. A request whose path is written plainly and does not begin with the segments of the prefix is
answered by both with the same 404, and the endpoint is not called; any other both send to the endpoint once, with
the same path, which is what is left without these segments. The endpoint is one that is not a router itself: of a
mounted router only the routes are copied. -/
theorem mount_eq_stripPrefix {text : String} (filled : text ≠ "")
    (literal : ∀ piece ∈ pieces '/' text, Segment.read piece = .ok (.literal piece)) {settings : MatchSettings}
    (sensitive : settings.ignoreCase = false) (logger : Option Logger) (inner : Endpoint) :
    ∃ parent frozen mounted stripped missing,
      (fresh settings logger).mount text (.handler (.endpoint inner)) = .ok parent ∧
      parent.freeze = .ok frozen ∧ frozen.dispatcher = some mounted ∧
      (stripPrefix text).transform inner = .ok stripped ∧
      Response.notFound = .ok missing ∧ missing.status = 404 ∧
      ∀ request, PlainPath request.path →
        ¬pieces '/' text <+: splitPath request.path ∧
          mounted.call request = pure missing ∧ stripped.call request = pure missing ∨
        pieces '/' text <+: splitPath request.path ∧ ∃ path params source,
          path = handlerPath request.path (splitPath request.path) (List.range (pieces '/' text).length) ∧
          (∀ sites world, ∃ noted, noting request source sites world = (.ok (), noted) ∧
            mounted.call request sites world =
              (Endpoint.guarded inner.adapt.call).call (request.withRoute params path source) sites noted) ∧
          stripped.call request = (Endpoint.guarded inner.call).call (request.withPath path) := by
  obtain ⟨parent, route, placed, bare, alike, sole, segments, strip, gets⟩ :=
    exists_mount_literals filled literal settings logger inner
  obtain ⟨stripped, made, strips⟩ := Middleware.transform_stripPrefix text inner
  obtain ⟨missing, answers, status, unfound⟩ := Endpoint.call_notFound
  have openness : parent.frozen = false := by
    rw [bare]
    rfl
  have unlayered : parent.layers = ([] : List AroundFn).map .around := by
    rw [bare]
    rfl
  have fallback : parent.fallback = .notFound := by
    rw [bare]
    rfl
  refine ⟨parent, _, .guarded parent.dispatch, stripped, missing, placed,
    freeze_of_open openness (chain_eq_nest unlayered), rfl, made, answers, status, fun request plain => ?_⟩
  have dispatched (sites : Sites) (world : World) : (Endpoint.guarded parent.dispatch).call request sites world =
      tryCatch (parent.dispatch request) answerFault sites world := rfl
  have matches_iff := isSome_matchSegments?_literals (pieces '/' text) (splitPath request.path)
  rw [← segments, ← sensitive, ← alike] at matches_iff
  rw [strips, Middleware.strippedPath?_eq_handlerPath plain]
  split_ifs with within
  · obtain ⟨choice, resolved, chosen, endpoint, path⟩ :=
      exists_resolve_of_match sole (gets request.method) (matches_iff.mpr within)
    refine .inr ⟨within, _, choice.params, choice.route.pattern.source, rfl, fun sites world => ?_, rfl⟩
    obtain ⟨noted, notes⟩ := exists_noting request choice.route.pattern.source sites world
    refine ⟨noted, notes, ?_⟩
    rw [dispatched, run_tryCatch, dispatch_of_resolved resolved notes, endpoint, path, strip]
    exact (run_tryCatch ..).symm
  · have lost : parent.resolve request.method request.path = .notFound :=
      resolve_of_miss sole (Option.not_isSome_iff_eq_none.mp (mt matches_iff.mp within))
    have missed : parent.dispatch request = pure missing := by
      rw [dispatch, lost]
      exact (congrArg (Endpoint.call · request) fallback).trans (unfound request)
    refine .inl ⟨within, ?_, unfound request⟩
    funext sites world
    rw [dispatched, missed]
    rfl

theorem mount_eq_stripPrefix_versions : ("/api//v1/" ≠ "" ∧
      (∀ piece ∈ pieces '/' "/api//v1/", Segment.read piece = .ok (.literal piece)) ∧
      ({} : MatchSettings).ignoreCase = false ∧ PlainPath "/api" ∧ PlainPath "/api/v1" ∧ PlainPath "/api/v1/x/") ∧
    ∃ parent frozen mounted stripped missing,
      (fresh {} none).mount "/api//v1/" (.handler (.endpoint steady)) = .ok parent ∧ parent.freeze = .ok frozen ∧
      frozen.dispatcher = some mounted ∧ (stripPrefix "/api//v1/").transform steady = .ok stripped ∧
      missing.status = 404 ∧
      (∀ request, request.path = "/api" →
        mounted.call request = pure missing ∧ stripped.call request = pure missing) ∧
      ∀ request path, (request.path, path) ∈ [("/api/v1", "/"), ("/api/v1/x/", "/x/")] →
        stripped.call request = (Endpoint.guarded steady.call).call (request.withPath path) ∧
        ∀ sites world, ∃ params source noted, mounted.call request sites world =
          (Endpoint.guarded steady.call).call (request.withRoute params path source) sites noted := by
  have literal : ∀ piece ∈ pieces '/' "/api//v1/", Segment.read piece = .ok (.literal piece) := by decide
  have plain : PlainPath "/api" ∧ PlainPath "/api/v1" ∧ PlainPath "/api/v1/x/" := by decide +kernel
  obtain ⟨parent, frozen, mounted, stripped, missing, placed, closed, built, made, _, status, alike⟩ :=
    mount_eq_stripPrefix (by decide : "/api//v1/" ≠ "") literal (rfl : ({} : MatchSettings).ignoreCase = false) none
      steady
  refine ⟨⟨by decide, literal, rfl, plain⟩, parent, frozen, mounted, stripped, missing, placed, closed, built, made,
    status, fun request outside => ?_, fun request path listed => ?_⟩
  · rcases alike request (outside ▸ plain.1) with ⟨_, both⟩ | ⟨within, _⟩
    · exact both
    · rw [outside] at within
      exact absurd within (by decide)
  · have reaches : PlainPath request.path ∧ pieces '/' "/api//v1/" <+: splitPath request.path ∧
        handlerPath request.path (splitPath request.path) (List.range (pieces '/' "/api//v1/").length) = path := by
      simp only [List.mem_cons, Prod.mk.injEq, List.not_mem_nil, or_false] at listed
      rcases listed with ⟨same, rfl⟩ | ⟨same, rfl⟩ <;> rw [same]
      · exact ⟨plain.2.1, by decide +kernel⟩
      · exact ⟨plain.2.2, by decide +kernel⟩
    rcases alike request reaches.1 with ⟨outside, _⟩ | ⟨_, _, params, source, rfl, sends, hands⟩
    · exact absurd reaches.2.1 outside
    · refine ⟨reaches.2.2 ▸ hands, fun sites world => ?_⟩
      obtain ⟨noted, _, sent⟩ := sends sites world
      rw [Endpoint.adapt_of_composable (rfl : steady.composable = true)] at sent
      exact ⟨params, source, noted, reaches.2.2 ▸ sent⟩

/-- A router without routes, with a fallback of its own. -/
def fallbackRouter : Router :=
  { Router.fresh with fallback := steady }

private theorem call_fallbackRouter (request : Request) (sites : Sites) (world : World) : ∃ answer,
    (Endpoint.guarded fallbackRouter.dispatch).call request sites world = (.ok answer, world) ∧
      answer.status = 200 := by
  have missing : fallbackRouter.resolve request.method request.path = .notFound :=
    RouteIndex.resolve_of_unanswered rfl
  have dispatched : fallbackRouter.dispatch request = steady.call request := by
    rw [dispatch, missing]
    rfl
  change ∃ answer, tryCatch (fallbackRouter.dispatch request) answerFault sites world = _ ∧ _
  rw [dispatched]
  exact ⟨_, rfl, rfl⟩

/-- A router that is mounted is not asked about a path that none of its routes matches, so that its fallback does not
answer, as it does when the prefix is stripped for the router as an endpoint. -/
theorem mount_router_ne_stripPrefix : ∃ child own parent frozen mounted stripped missing,
    Router.fresh.withFallback (.endpoint steady) = .ok child ∧ child.chain = .ok own ∧
    Router.fresh.mount "/v" (.router child) = .ok parent ∧ parent.freeze = .ok frozen ∧
    frozen.dispatcher = some mounted ∧ (stripPrefix "/v").transform own = .ok stripped ∧
    Response.notFound = .ok missing ∧ missing.status = 404 ∧
    ("/v" ≠ "" ∧ (∀ piece ∈ pieces '/' "/v", Segment.read piece = .ok (.literal piece)) ∧ PlainPath "/v/nope") ∧
    ∀ request, request.path = "/v/nope" → ∀ sites world,
      mounted.call request sites world = (.ok missing, world) ∧
      ∃ answer, stripped.call request sites world = (.ok answer, world) ∧ answer.status = 200 := by
  obtain ⟨parent, placed, bare⟩ : ∃ parent, Router.fresh.mount "/v" (.router fallbackRouter) = .ok parent ∧
      parent = Router.fresh := ⟨_, rfl, rfl⟩
  obtain ⟨stripped, made, strips⟩ :=
    Middleware.transform_stripPrefix "/v" (.guarded fallbackRouter.dispatch)
  obtain ⟨missing, answers, status, unfound⟩ := Endpoint.call_notFound
  have plain : PlainPath "/v/nope" := by decide +kernel
  refine ⟨fallbackRouter, .guarded fallbackRouter.dispatch, parent, { parent with dispatcher := _ },
    .guarded parent.dispatch, stripped, missing, rfl, rfl, placed, by rw [bare]; rfl, rfl, made, answers, status,
    ⟨by decide, by decide, plain⟩, fun request path sites world => ⟨?_, ?_⟩⟩
  · have lost : parent.resolve request.method request.path = .notFound := by
      rw [bare]
      exact RouteIndex.resolve_of_unanswered rfl
    have missed : parent.dispatch request = pure missing := by
      rw [dispatch, lost, bare]
      exact unfound request
    change tryCatch (parent.dispatch request) answerFault sites world = _
    rw [missed]
    rfl
  · have within : pieces '/' "/v" <+: splitPath "/v/nope" := by decide
    rw [strips, path, Middleware.strippedPath?_eq_handlerPath plain, if_pos within]
    obtain ⟨answer, answered, ok⟩ := call_fallbackRouter
      (request.withPath (handlerPath "/v/nope" (splitPath "/v/nope") (List.range (pieces '/' "/v").length))) sites world
    exact ⟨answer, Endpoint.call_guarded_of_ok answered, ok⟩

end Router

end HttpRouting

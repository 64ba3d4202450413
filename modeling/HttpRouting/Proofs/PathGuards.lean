import HttpRouting.Proofs.Bindings
import HttpRouting.Proofs.MethodGuards
import HttpRouting.Proofs.PathText

/-! # Middleware below a path

A middleware for the paths below a prefix compares texts, while a router compares lists of segments and drops
empty pieces. Of the paths that a router sends to a route below the prefix, the middleware sees those that spell
the prefix plainly: with one slash at the beginning, and no doubled one before the prefix ends. A doubled slash
in that place leads to the same route and past the middleware.
-/

namespace HttpRouting

open Text

namespace Text

variable {separator : Char}

/-- A text that goes on behind a piece that is not empty has no empty piece at its beginning. -/
theorem head_cut_ne_empty {piece rest first : String} (filled : piece ≠ "") (plain : separator ∉ piece.toList)
    (head : (cut separator (piece ++ rest)).head? = some first) : first ≠ "" := by
  rintro rfl
  obtain ⟨others, split⟩ := List.head?_eq_some_iff.mp head
  have whole : join (String.singleton separator) (cut separator (piece ++ rest)) = piece ++ rest := join_cut _
  rw [split] at whole
  obtain ⟨char, chars, spelled⟩ := List.exists_cons_of_ne_nil (show piece.toList ≠ [] by simpa using filled)
  have begins : (piece ++ rest).toList.head? = some char := by simp [spelled]
  cases others with
  | nil =>
    rw [← whole] at begins
    cases begins
  | cons =>
    rw [← whole, join_cons (List.cons_ne_nil _ _)] at begins
    have same : separator = char := by simpa using begins
    exact plain (spelled ▸ same ▸ List.mem_cons_self ..)

/-- Texts that were joined are cut apart again, whatever follows them, and no piece on the way is empty. -/
theorem empty_not_mem_take_cut {texts : List String} (solid : Solid separator texts) (rest : String) :
    "" ∉ (cut separator (join (String.singleton separator) texts ++ rest)).take texts.length := by
  induction texts with
  | nil => simp
  | cons text texts ih =>
    obtain ⟨⟨filled, plain⟩, later⟩ := List.forall_mem_cons.mp solid
    by_cases last : texts = []
    · subst last
      intro member
      obtain ⟨first, others, split⟩ := List.exists_cons_of_ne_nil (cut_ne_nil separator (text ++ rest))
      rw [join, String.intercalate_singleton, split] at member
      exact head_cut_ne_empty filled plain (by rw [split]; rfl) (List.mem_singleton.mp member).symm
    · rw [join_cons last, String.append_assoc, cut_append, cut_plain plain]
      simp only [List.singleton_append, List.length_cons, List.take_succ_cons, List.mem_cons, not_or]
      exact ⟨Ne.symm filled, ih later⟩

/-- A text without a sign begins a text exactly when it begins what stands before the first sign. -/
theorem startsWith_before {stop : Char} {head : String} (plain : stop ∉ head.toList) (text : String) :
    startsWith head (before stop text) = true ↔ startsWith head text = true := by
  rw [startsWith_iff, startsWith_iff, toList_before]
  constructor
  · exact fun begins => begins.trans (List.takeWhile_prefix _)
  · rintro ⟨rest, split⟩
    have kept : ∀ char ∈ head.toList, decide (char ≠ stop) = true := by
      intro char member
      simpa using fun same : char = stop => plain (same ▸ member)
    rw [← split, List.takeWhile_append_of_pos kept]
    exact List.prefix_append _ _

/-- What texts are joined to begins what they and more are joined to. -/
theorem startsWith_join_append (glue : String) (texts more : List String) :
    startsWith (join glue texts) (join glue (texts ++ more)) = true := by
  rw [startsWith_iff_exists]
  by_cases none : texts = []
  · exact ⟨join glue more, by simp [none, join]⟩
  · by_cases last : more = []
    · exact ⟨"", by simp [last]⟩
    · have split : join glue (texts ++ more) = join glue texts ++ glue ++ join glue more :=
        String.intercalate_append_of_ne_nil none last
      exact ⟨_, split.trans (String.append_assoc ..)⟩

end Text

/-- Items that are kept up to a number are those at the beginning, if the kept ones begin with so many. -/
theorem take_eq_of_prefix_filter {α : Type} {keep : α → Bool} {items front : List α}
    (kept : ∀ item ∈ items.take front.length, keep item = true) (begins : front <+: items.filter keep) :
    items.take front.length = front := by
  have split : items.filter keep = items.take front.length ++ (items.drop front.length).filter keep := by
    conv_lhs => rw [← List.take_append_drop front.length items]
    rw [List.filter_append, List.filter_eq_self.mpr kept]
  rw [split] at begins
  -- both are beginnings of what is kept, so they differ at most in length
  have short : (items.take front.length).length ≤ front.length := List.length_take_le _ _
  have within := List.prefix_of_prefix_length_le (List.prefix_append _ _) begins short
  refine within.eq_of_length_le ?_
  by_cases enough : front.length ≤ items.length
  · rw [List.length_take, Nat.min_eq_left enough]
  · have all : items.drop front.length = [] := List.drop_eq_nil_of_le (by omega)
    simpa [all] using begins.length_le

/-- Whether a path has a slash at its beginning and no empty piece among the first ones behind it. -/
def SpelledPlainly (count : Nat) (path : String) : Prop :=
  startsWith "/" path = true ∧ "" ∉ ((cut '/' (before '?' path)).drop 1).take count

instance (count : Nat) (path : String) : Decidable (SpelledPlainly count path) :=
  inferInstanceAs (Decidable (_ ∧ _))

private theorem cut_slash (rest : String) : cut '/' ("/" ++ rest) = "" :: cut '/' rest := by
  have front := cut_append '/' "" rest
  rw [String.empty_append] at front
  exact front

/-- A text whose first pieces are given begins with them joined exactly when none of the pieces is empty that stand
so far behind its first slash. -/
theorem startsWith_slash_join_iff {literals : List String} {text : String} (solid : Solid '/' literals)
    (begins : literals <+: pieces '/' text) :
    startsWith ("/" ++ join "/" literals) text = true ↔
      startsWith "/" text = true ∧ "" ∉ ((cut '/' text).drop 1).take literals.length := by
  constructor
  · intro starts
    obtain ⟨rest, rfl⟩ := startsWith_iff_exists.mp starts
    rw [String.append_assoc, cut_slash]
    exact ⟨startsWith_iff_exists.mpr ⟨_, rfl⟩, empty_not_mem_take_cut solid rest⟩
  · rintro ⟨starts, filled⟩
    obtain ⟨rest, rfl⟩ := startsWith_iff_exists.mp starts
    rw [cut_slash, List.drop_succ_cons, List.drop_zero] at filled
    rw [pieces, cut_slash, List.filter_cons_of_neg (by simp)] at begins
    have same := take_eq_of_prefix_filter (fun piece member => by simpa using ne_of_mem_of_not_mem member filled) begins
    obtain ⟨more, split⟩ := startsWith_iff_exists.mp
      (startsWith_join_append "/" literals ((cut '/' rest).drop literals.length))
    refine startsWith_iff_exists.mpr ⟨more, ?_⟩
    have whole : join "/" (cut '/' rest) = rest := join_cut rest
    rw [← List.take_append_drop literals.length (cut '/' rest), same] at whole
    rw [String.append_assoc, ← split]
    exact congrArg _ whole.symm

/-- A path whose first segments are given begins with their text exactly when it spells them plainly. -/
theorem startsWith_join_iff {literals : List String} {path : String} (begins : literals <+: splitPath path) :
    startsWith ("/" ++ join "/" literals) path = true ↔ SpelledPlainly literals.length path := by
  obtain ⟨solid, unasked⟩ := solid_splitPath path
  have plain : '?' ∉ (join (String.singleton '/') literals).toList :=
    not_mem_join (by decide) fun literal member => unasked literal (begins.subset member)
  have slash : '?' ∉ "/".toList := by decide
  have both : '?' ∉ ("/" ++ join "/" literals).toList := by
    rw [String.toList_append, List.mem_append, not_or]
    exact ⟨slash, plain⟩
  rw [SpelledPlainly, ← startsWith_before both, ← startsWith_before slash]
  exact startsWith_slash_join_iff (fun literal member => solid literal (begins.subset member)) begins

/-- Literals at the beginning of a pattern stand at the beginning of the raw segments that it matches in their
own letter case. -/
theorem literals_prefix_of_matchSegments? {literals : List String} {segments : List Segment}
    {raw captured : List String} (begins : literals.map Segment.literal <+: segments)
    (matched : matchSegments? false segments raw = some captured) : literals <+: raw := by
  induction literals generalizing segments raw captured with
  | nil => exact List.nil_prefix
  | cons literal literals ih =>
    obtain ⟨behind, rfl⟩ := begins
    rcases matchSegments?_cases matched with
      ⟨wrong, _⟩ | ⟨_, wrong, _⟩ | ⟨segment, later, first, rest, found, gained, same, rfl, first?, later?, _⟩
    · cases wrong
    · cases wrong
    · cases same
      rw [Segment.matches?] at first?
      split_ifs at first? with key
      have same : literal = first := by simpa [literalKey] using key
      exact List.cons_prefix_cons.mpr ⟨same, ih (List.prefix_append _ _) later?⟩

namespace Middleware

/-- A list of middleware is put around an endpoint from its end. -/
theorem transformAll_append_eq_ok {outer inner : List Middleware} {endpoint result : Endpoint} :
    transformAll (outer ++ inner) endpoint = .ok result ↔
      ∃ middle, transformAll inner endpoint = .ok middle ∧ transformAll outer middle = .ok result := by
  induction outer generalizing result with
  | nil => simp [transformAll]
  | cons layer outer ih =>
    simp only [List.cons_append, transformAll, bind_eq_ok, ih]
    constructor
    · rintro ⟨between, ⟨middle, first, second⟩, third⟩
      exact ⟨middle, first, between, second, third⟩
    · rintro ⟨middle, first, between, second, third⟩
      exact ⟨between, ⟨middle, first, second⟩, third⟩

end Middleware

namespace Router

variable {router : Router}

private theorem literals_prefix_of_resolve (sensitive : router.index.settings.ignoreCase = false) {method path : String}
    {choice : Resolved Endpoint} (resolved : router.resolve method path = .resolved choice)
    {literals : List String} (begins : literals.map Segment.literal <+: choice.route.pattern.segments) :
    literals <+: splitPath path := by
  obtain ⟨_, _, values, matched⟩ := RouteIndex.of_resolve resolved
  rw [sensitive] at matched
  exact literals_prefix_of_matchSegments? begins matched

/-- What a middleware for the paths below a prefix of literals does in a router that compares them in their own
letter case: a request that the router resolves to a route below the prefix goes through the middleware exactly
when its path spells the prefix plainly. -/
theorem forPath_call {outer inner : List Middleware} {literals : List String} {layer : Middleware}
    {dispatcher : Endpoint} (sensitive : router.index.settings.ignoreCase = false)
    (layered : router.layers = outer ++ Middleware.forPath ("/" ++ join "/" literals) layer :: inner)
    (built : router.chain = .ok dispatcher) :
    ∃ inside wrapped guard, Middleware.transformAll inner (.guarded router.dispatch) = .ok inside ∧
      layer.transform inside = .ok wrapped ∧ (Middleware.stack outer).transform guard = .ok dispatcher ∧
      ∀ request choice, router.resolve request.method request.path = .resolved choice →
        literals.map Segment.literal <+: choice.route.pattern.segments →
          guard.call request = (Endpoint.guarded
            (if SpelledPlainly literals.length request.path then wrapped.call else inside.call)).call request := by
  rw [chain, layered, Middleware.transform] at built
  obtain ⟨whole, stacked, same⟩ := bind_eq_ok.mp built
  obtain ⟨guard, within, around⟩ := Middleware.transformAll_append_eq_ok.mp stacked
  rw [Middleware.transformAll] at within
  obtain ⟨inside, innermost, wraps⟩ := bind_eq_ok.mp within
  obtain ⟨wrapped, made, chooses⟩ := Middleware.transform_conditional_eq_ok.mp wraps
  refine ⟨inside, wrapped, guard, innermost, made, ?_, ?_⟩
  · rw [Middleware.transform]
    exact bind_eq_ok.mpr ⟨whole, around, same⟩
  · intro request choice resolved begins
    rw [chooses, Middleware.call_choose]
    simp only [startsWith_join_iff (literals_prefix_of_resolve sensitive resolved begins)]

/-- A router with a route below `/admin`, where a middleware leaves a mark when it sees a request. -/
def adminRouter : Outcome Router := do
  let router ← Router.fresh.use (.forPath "/admin" .watching)
  router.route "/admin/stats" [("GET", some (.endpoint Middleware.steady))]

def segmentsRequest (segments : List String) : Request :=
  .ofMessage ⟨"GET", { scheme := "http", hostName := some "localhost", path := .segments segments }, {}, none⟩ 0

/-- A path that spells the prefix plainly is guarded, whatever else is doubled in it. -/
theorem forPath_call_adminRouter : ∃ router dispatcher choice inside wrapped guard, adminRouter = .ok router ∧
    router.index.settings.ignoreCase = false ∧
    router.layers = [] ++ Middleware.forPath ("/" ++ join "/" ["admin"]) .watching :: [] ∧
    router.chain = .ok dispatcher ∧ router.resolve "GET" "/admin//stats/" = .resolved choice ∧
    ["admin"].map Segment.literal <+: choice.route.pattern.segments ∧
    Middleware.transformAll [] (.guarded router.dispatch) = .ok inside ∧
    Middleware.watching.transform inside = .ok wrapped ∧ (Middleware.stack []).transform guard = .ok dispatcher ∧
    guard.call (segmentsRequest ["admin", "", "stats", ""]) =
      (Endpoint.guarded wrapped.call).call (segmentsRequest ["admin", "", "stats", ""]) := by
  have known : ∃ router dispatcher choice, adminRouter = .ok router ∧ router.index.settings.ignoreCase = false ∧
      router.layers = [] ++ Middleware.forPath ("/" ++ join "/" ["admin"]) .watching :: [] ∧
      router.chain = .ok dispatcher ∧ router.resolve "GET" "/admin//stats/" = .resolved choice ∧
      choice.route.pattern.segments = [.literal "admin", .literal "stats"] :=
    ⟨_, _, _, rfl, rfl, rfl, rfl, rfl, rfl⟩
  obtain ⟨router, dispatcher, choice, made, sensitive, layered, built, resolved, segments⟩ := known
  have path : (segmentsRequest ["admin", "", "stats", ""]).path = "/admin//stats/" := by decide +kernel
  have plain : SpelledPlainly ["admin"].length "/admin//stats/" := by decide +kernel
  have begins : ["admin"].map Segment.literal <+: choice.route.pattern.segments := by
    rw [segments]
    exact ⟨[.literal "stats"], rfl⟩
  obtain ⟨inside, wrapped, guard, innermost, wraps, around, called⟩ := forPath_call sensitive layered built
  have guarded := called (segmentsRequest ["admin", "", "stats", ""]) choice (path ▸ resolved) begins
  rw [path, if_pos plain] at guarded
  exact ⟨router, dispatcher, choice, inside, wrapped, guard, made, sensitive, layered, built, resolved, begins,
    innermost, wraps, around, guarded⟩

/-- A request for a path with a doubled slash at its beginning is dispatched to the same route as one without, and
goes past the middleware. -/
theorem forPath_passes_doubled_slash : ∃ router dispatcher choice, adminRouter = .ok router ∧
    router.index.settings.ignoreCase = false ∧ router.layers = [.forPath "/admin" .watching] ∧
    router.chain = .ok dispatcher ∧ (segmentsRequest ["", "admin", "stats"]).path = "//admin/stats" ∧
    router.resolve "GET" "//admin/stats" = .resolved choice ∧
    choice.route.pattern.segments = [.literal "admin", .literal "stats"] ∧
    ∀ sites,
      (∃ final, dispatcher.call (segmentsRequest ["admin", "stats"]) sites {} = (.ok { status := 200 }, final) ∧
        final.events = [.mark "seen"]) ∧
      ∃ final, dispatcher.call (segmentsRequest ["", "admin", "stats"]) sites {} = (.ok { status := 200 }, final) ∧
        final.events = [] := by
  refine ⟨_, _, _, rfl, rfl, rfl, rfl, by decide +kernel, rfl, rfl, fun sites => ⟨⟨_, rfl, ?_⟩, ⟨_, rfl, ?_⟩⟩⟩
  · rfl
  · rfl

end Router

end HttpRouting

import HttpRouting.Middleware.Adjustments
import HttpRouting.Proofs.Composition
import HttpRouting.Proofs.PathText

/-! # Prefixes stripped one after the other

What a stripped prefix does to a path is `strippedPath?`: nothing when the prefix has no piece, and otherwise it
leaves what stands behind the base of the prefix, if the path lies there. The base of a prefix that goes on with
another one is the two bases written one after the other, so stripping one prefix inside the other leaves what
stripping both at once does, on every path.
-/

namespace HttpRouting.Middleware

open Text

variable {base path left : String}

/-- Whether a path is a base or lies below it, and what is left of it behind the base, which is the root for the
base itself. -/
def Below (base path left : String) : Prop :=
  path = base ∧ left = "/" ∨ ∃ rest, path = base ++ ("/" ++ rest) ∧ left = "/" ++ rest

private theorem skip_append (front rest : String) : skip front.toList.length (front ++ rest) = rest := by
  rw [skip, String.toList_append, List.drop_left, String.ofList_toList]

private theorem append_slash_ne (base rest : String) : base ++ ("/" ++ rest) ≠ base := by
  intro same
  have lengths := congrArg (fun text : String => text.toList.length) same
  simp at lengths

theorem pathBelow?_eq_some_iff : pathBelow? base path = some left ↔ Below base path left := by
  rw [pathBelow?]
  constructor
  · intro below
    split_ifs at below with same starts
    · exact .inl ⟨same, (Option.some.inj below).symm⟩
    · obtain ⟨rest, rfl⟩ := startsWith_iff_exists.mp starts
      rw [String.append_assoc, skip_append] at below
      exact .inr ⟨rest, String.append_assoc .., (Option.some.inj below).symm⟩
  · rintro (⟨rfl, rfl⟩ | ⟨rest, rfl, rfl⟩)
    · rw [if_pos rfl]
    · have starts : startsWith (base ++ "/") (base ++ ("/" ++ rest)) = true :=
        startsWith_iff_exists.mpr ⟨rest, (String.append_assoc ..).symm⟩
      rw [if_neg (append_slash_ne base rest), if_pos starts, skip_append]

/-- A path lies below two bases written one after the other when it lies below the first and what is left lies
below the second. -/
theorem below_append_iff {first second : String} (filled : second ≠ "") :
    Below (first ++ ("/" ++ second)) path left ↔
      ∃ middle, Below first path middle ∧ Below ("/" ++ second) middle left := by
  constructor
  · rintro (⟨rfl, rfl⟩ | ⟨rest, rfl, rfl⟩)
    · exact ⟨_, .inr ⟨second, rfl, rfl⟩, .inl ⟨rfl, rfl⟩⟩
    · refine ⟨"/" ++ (second ++ ("/" ++ rest)), .inr ⟨second ++ ("/" ++ rest), ?_, rfl⟩, .inr ⟨rest, ?_, rfl⟩⟩
      · simp only [String.append_assoc]
      · rw [String.append_assoc]
  · rintro ⟨_, ⟨rfl, rfl⟩ | ⟨between, rfl, rfl⟩, ⟨same, rfl⟩ | ⟨rest, same, rfl⟩⟩
    -- what is left of the first base itself is the root, which lies below no base with a piece
    · exact absurd ((String.append_right_inj "/").mp (String.append_empty.trans same)).symm filled
    · have lengths := congrArg (fun text : String => text.toList.length) same
      simp [filled] at lengths
    · rw [same]
      exact .inl ⟨rfl, rfl⟩
    · rw [same]
      exact .inr ⟨rest, (String.append_assoc ..).symm, rfl⟩

private theorem join_pieces_ne_empty {text : String} (some : pieces '/' text ≠ []) :
    join "/" (pieces '/' text) ≠ "" := by
  obtain ⟨last, _, ends⟩ := getLast?_join some (solid_pieces '/' text)
  intro empty
  change (join "/" _).toList.getLast? = _ at ends
  rw [empty] at ends
  cases ends

private theorem prefixBase_eq_root_iff {text : String} : prefixBase text = "/" ↔ pieces '/' text = [] := by
  constructor
  · intro root
    by_contra some
    exact join_pieces_ne_empty some ((String.append_right_inj "/").mp (root.trans String.append_empty.symm))
  · intro none
    rw [prefixBase, none]
    rfl

private theorem prefixBase_append {first second : String} (some : pieces '/' first ≠ [])
    (some' : pieces '/' second ≠ []) :
    prefixBase (first ++ "/" ++ second) = prefixBase first ++ prefixBase second := by
  have both : pieces '/' (first ++ "/" ++ second) = pieces '/' first ++ pieces '/' second :=
    pieces_append '/' first second
  rw [prefixBase, both, join, String.intercalate_append_of_ne_nil some some', prefixBase, prefixBase, join, join]
  simp only [String.append_assoc]

/-- The path that a stripped prefix leaves, if the path lies below the prefix. -/
def strippedPath? (text path : String) : Option String :=
  if prefixBase text = "/" then some path else pathBelow? (prefixBase text) path

theorem strippedPath?_of_empty {text : String} (none : pieces '/' text = []) : strippedPath? text = some := by
  funext path
  rw [strippedPath?, if_pos (prefixBase_eq_root_iff.mpr none)]

theorem strippedPath?_of_filled {text : String} (some : pieces '/' text ≠ []) :
    strippedPath? text = pathBelow? (prefixBase text) := by
  funext path
  rw [strippedPath?, if_neg (mt prefixBase_eq_root_iff.mp some)]

private theorem strippedPath?_congr {text other : String} (same : pieces '/' text = pieces '/' other) :
    strippedPath? text = strippedPath? other := by
  funext path
  rw [strippedPath?, strippedPath?, prefixBase, prefixBase, same]

/-- Stripping two prefixes that are joined by a slash is stripping the second behind the first. -/
theorem strippedPath?_append (first second path : String) :
    strippedPath? (first ++ "/" ++ second) path = (strippedPath? first path).bind (strippedPath? second) := by
  have both : pieces '/' (first ++ "/" ++ second) = pieces '/' first ++ pieces '/' second :=
    pieces_append '/' first second
  by_cases none : pieces '/' first = []
  · have same : strippedPath? (first ++ "/" ++ second) = strippedPath? second :=
      strippedPath?_congr (by rw [both, none, List.nil_append])
    rw [same, strippedPath?_of_empty none, Option.bind_some]
  by_cases none' : pieces '/' second = []
  · have same : strippedPath? (first ++ "/" ++ second) = strippedPath? first :=
      strippedPath?_congr (by rw [both, none', List.append_nil])
    rw [same, strippedPath?_of_empty none', Option.bind_fun_some]
  · rw [strippedPath?_of_filled (by simp [both, none]), strippedPath?_of_filled none, strippedPath?_of_filled none',
      prefixBase_append none none']
    refine Option.ext fun left => ?_
    simp only [Option.bind_eq_some_iff, pathBelow?_eq_some_iff]
    exact below_append_iff (join_pieces_ne_empty none')

variable {inner : Endpoint}

/-- A stripped prefix answers a request outside it with a 404, and hands any other on with what is left of its
path. -/
theorem transform_stripPrefix (text : String) (inner : Endpoint) :
    ∃ outer, (stripPrefix text).transform inner = .ok outer ∧ ∀ request, outer.call request =
      (strippedPath? text request.path).elim (Endpoint.notFound.call request)
        fun path => (Endpoint.guarded inner.call).call (request.withPath path) := by
  refine ⟨_, rfl, fun request => ?_⟩
  rw [strippedPath?]
  by_cases root : prefixBase text = "/"
  · simp only [Endpoint.around, Endpoint.guarded, if_pos root]
    rfl
  · simp only [Endpoint.around, Endpoint.guarded, if_neg root]
    cases pathBelow? (prefixBase text) request.path <;> rfl

/-- Two prefixes stripped one inside the other, the first outermost, do what both do when they are stripped at
once: the path that the second leaves of what the first leaves is the one that both leave. For a request without
such a path both answer with the same 404 and the endpoint inside is not called; for any other both call it once,
with that path. The one stripped inside the other deals a second time with what is thrown, which makes a difference
only for a fault that cannot be turned into a response. -/
theorem stripPrefix_twice (first second : String) (inner : Endpoint) :
    ∃ twice once missing, (Middleware.compose [stripPrefix first, stripPrefix second]).transform inner = .ok twice ∧
      (stripPrefix (first ++ "/" ++ second)).transform inner = .ok once ∧
      Response.notFound = .ok missing ∧ missing.status = 404 ∧
      ∀ request : Request,
        strippedPath? (first ++ "/" ++ second) request.path =
          (strippedPath? first request.path).bind (strippedPath? second) ∧
        (strippedPath? (first ++ "/" ++ second) request.path = none →
          twice.call request = pure missing ∧ once.call request = pure missing) ∧
        ∀ path, strippedPath? (first ++ "/" ++ second) request.path = some path →
          twice.call request = (Endpoint.guarded (Endpoint.guarded inner.call).call).call (request.withPath path) ∧
          once.call request = (Endpoint.guarded inner.call).call (request.withPath path) := by
  obtain ⟨middle, made, inside⟩ := transform_stripPrefix second inner
  obtain ⟨twice, made', outside⟩ := transform_stripPrefix first middle
  obtain ⟨once, made'', both⟩ := transform_stripPrefix (first ++ "/" ++ second) inner
  obtain ⟨missing, answers, status⟩ : ∃ missing, Response.notFound = .ok missing ∧ missing.status = 404 :=
    ⟨_, rfl, rfl⟩
  have unfound (request : Request) : Endpoint.notFound.call request = pure missing := by
    rw [Endpoint.notFound, Endpoint.guarded, answers]
    rfl
  have composed : (Middleware.compose [stripPrefix first, stripPrefix second]).transform inner = .ok twice := by
    rw [transform, transformAll, transformAll, transformAll]
    exact bind_eq_ok.mpr ⟨middle, made, made'⟩
  refine ⟨twice, once, missing, composed, made'', answers, status, fun request =>
    ⟨strippedPath?_append .., fun outside' => ?_, fun path below => ?_⟩⟩
  · rw [outside, both, outside']
    rw [strippedPath?_append] at outside'
    refine ⟨?_, unfound request⟩
    cases below : strippedPath? first request.path with
    | none => exact unfound request
    | some path =>
      rw [below, Option.bind_some] at outside'
      have within : (Endpoint.guarded middle.call).call (request.withPath path) =
          tryCatch (middle.call (request.withPath path)) answerFault := rfl
      have seen : (request.withPath path).path = path := rfl
      rw [Option.elim_some, within, inside, seen, outside', Option.elim_none, unfound]
      rfl
  · rw [outside, both, below]
    rw [strippedPath?_append] at below
    obtain ⟨middlePath, below, below'⟩ := Option.bind_eq_some_iff.mp below
    have within : (Endpoint.guarded middle.call).call (request.withPath middlePath) =
        tryCatch (middle.call (request.withPath middlePath)) answerFault := rfl
    have seen : (request.withPath middlePath).path = middlePath := rfl
    refine ⟨?_, rfl⟩
    rw [below, Option.elim_some, within, inside, seen, below']
    rfl

end HttpRouting.Middleware

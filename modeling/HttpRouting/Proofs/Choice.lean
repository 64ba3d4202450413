import HttpRouting.Proofs.Parameters
import HttpRouting.Proofs.Ranking
import HttpRouting.Route.Resolution

/-! # The choice among contenders

The running maximum over the contenders keeps the first of the most specific ones that answer the method.
`Leads` says so of any part of the list already seen; one step keeps it, and so does the whole fold. With
the contenders known to be the routes that match the path, in the order of the look-up, this is what a
router decides.
-/

namespace HttpRouting

/-- Decisions of one kind, with the same methods, or with related choices. -/
inductive Resolution.Rel {ε : Type} (R : Resolved ε → Resolved ε → Prop) :
    Resolution ε → Resolution ε → Prop
  | notFound : Rel R .notFound .notFound
  | methodNotAllowed (allowed : List Method) :
    Rel R (.methodNotAllowed allowed) (.methodNotAllowed allowed)
  | resolved {choice other : Resolved ε} (related : R choice other) :
    Rel R (.resolved choice) (.resolved other)

theorem Resolution.rel_unanswered {ε : Type} (R : Resolved ε → Resolved ε → Prop)
    (allowed : List Method) : Rel R (.unanswered allowed) (.unanswered allowed) := by
  cases allowed with
  | nil => exact .notFound
  | cons method rest => exact .methodNotAllowed (method :: rest)

namespace RouteIndex

variable {ε : Type}

/-- What a contender is ranked by. -/
def standing (index : RouteIndex ε) (contender : Contender ε) : ℕ ×ₗ Bool ×ₗ ℤ ×ₗ ℕ :=
  contender.route.pattern.specificity.key index.settings.precedence

/-- Whether a choice is right for some contenders: the leader answers, those before it that answer are
ranked lower, and those after it that answer are not ranked higher. -/
def Leads (index : RouteIndex ε) (contenders : List (Contender ε)) :
    Option (Contender ε × ε) → Prop
  | none => ∀ other ∈ contenders, other.endpoint = none
  | some (leader, endpoint) => leader.endpoint = some endpoint ∧
      ∃ before after, contenders = before ++ leader :: after ∧
        (∀ other ∈ before, other.endpoint.isSome → index.standing other < index.standing leader) ∧
        ∀ other ∈ after, other.endpoint.isSome → index.standing other ≤ index.standing leader

/-- Of contenders that have a right choice none that answers is ranked higher than the leader. -/
theorem Leads.le {index : RouteIndex ε} {contenders : List (Contender ε)} {leader : Contender ε}
    {endpoint : ε} (leads : index.Leads contenders (some (leader, endpoint))) :
    ∀ other ∈ contenders, other.endpoint.isSome → index.standing other ≤ index.standing leader := by
  obtain ⟨_, before, after, rfl, lower, rest⟩ := leads
  intro other member answers
  rcases List.mem_append.mp member with early | late
  · exact (lower other early answers).le
  · rcases List.mem_cons.mp late with rfl | late
    · exact le_rfl
    · exact rest other late answers

/-- One more contender leaves the choice right. -/
theorem Leads.better {index : RouteIndex ε} {contenders : List (Contender ε)}
    {best : Option (Contender ε × ε)} (leads : index.Leads contenders best) (contender : Contender ε) :
    index.Leads (contenders ++ [contender]) (index.better best contender) := by
  cases answer : contender.endpoint with
  | none =>
    have kept : index.better best contender = best := by simp only [RouteIndex.better, answer]
    rw [kept]
    cases best with
    | none =>
      intro other member
      rcases List.mem_append.mp member with early | last
      · exact leads other early
      · rw [List.mem_singleton.mp last, answer]
    | some choice =>
      obtain ⟨leading, before, after, rfl, lower, rest⟩ := leads
      refine ⟨leading, before, after ++ [contender], by simp, lower, ?_⟩
      intro other member answers
      rcases List.mem_append.mp member with early | last
      · exact rest other early answers
      · rw [List.mem_singleton.mp last, answer] at answers
        cases answers
  | some endpoint =>
    cases best with
    | none =>
      have taken : index.better none contender = some (contender, endpoint) := by
        simp only [RouteIndex.better, answer]
      rw [taken]
      refine ⟨answer, contenders, [], rfl, ?_, by simp⟩
      intro other member answers
      rw [leads other member] at answers
      cases answers
    | some choice =>
      obtain ⟨leader, chosen⟩ := choice
      by_cases higher : index.standing leader < index.standing contender
      · have taken : index.better (some (leader, chosen)) contender = some (contender, endpoint) := by
          simp only [RouteIndex.better, answer]
          exact if_pos (Specificity.compare_pos_iff.mpr higher)
        rw [taken]
        refine ⟨answer, contenders, [], rfl, ?_, by simp⟩
        exact fun other member answers => (leads.le other member answers).trans_lt higher
      · have kept : index.better (some (leader, chosen)) contender = some (leader, chosen) := by
          simp only [RouteIndex.better, answer]
          exact if_neg (mt Specificity.compare_pos_iff.mp higher)
        rw [kept]
        obtain ⟨leading, before, after, rfl, lower, rest⟩ := leads
        refine ⟨leading, before, after ++ [contender], by simp, lower, ?_⟩
        intro other member answers
        rcases List.mem_append.mp member with early | last
        · exact rest other early answers
        · rw [List.mem_singleton.mp last]
          exact not_lt.mp higher

/-- The running maximum over all contenders is a right choice. -/
theorem leads_foldl (index : RouteIndex ε) (contenders : List (Contender ε)) :
    index.Leads contenders (contenders.foldl index.better none) := by
  induction contenders using List.reverseRecOn with
  | nil => simp [Leads]
  | append_singleton contenders contender ih =>
    rw [List.foldl_append]
    exact ih.better contender

/-- The leader of all contenders is one of them, and its endpoint is the one that was chosen. -/
theorem of_foldl_better {index : RouteIndex ε} {contenders : List (Contender ε)} {leader : Contender ε}
    {endpoint : ε} (best : contenders.foldl index.better none = some (leader, endpoint)) :
    leader ∈ contenders ∧ leader.endpoint = some endpoint := by
  have leads := index.leads_foldl contenders
  rw [best] at leads
  obtain ⟨chosen, before, after, rfl, _⟩ := leads
  exact ⟨by simp, chosen⟩

/-- Contenders that are related one by one, with the same endpoints and the same ranks among themselves,
are led by related ones, or by none on both sides. -/
theorem leaders_related (index other : RouteIndex ε) {T : Contender ε → Contender ε → Prop}
    (endpoints : ∀ {left right}, T left right → right.endpoint = left.endpoint)
    (ranks : ∀ {left right left' right'}, T left right → T left' right' →
      right.route.pattern.specificity.compare other.settings.precedence right'.route.pattern.specificity =
        left.route.pattern.specificity.compare index.settings.precedence left'.route.pattern.specificity)
    {contenders others : List (Contender ε)} (related : List.Forall₂ T contenders others) :
    (contenders.foldl index.better none = none ∧ others.foldl other.better none = none) ∨
      ∃ leader leader' endpoint, contenders.foldl index.better none = some (leader, endpoint) ∧
        others.foldl other.better none = some (leader', endpoint) ∧ T leader leader' := by
  have led : Option.Rel (fun best best' => T best.1 best'.1 ∧ best'.2 = best.2)
      (contenders.foldl index.better none) (others.foldl other.better none) := by
    refine List.rel_foldl ?_ .none related
    rintro best best' led left right holds
    cases answer : left.endpoint with
    | none => simpa only [better, endpoints holds, answer] using led
    | some endpoint =>
      cases led with
      | none =>
        simp only [better, endpoints holds, answer]
        exact .some ⟨holds, rfl⟩
      | @some choice choice' chosen =>
        obtain ⟨leader, kept⟩ := choice
        obtain ⟨leader', kept'⟩ := choice'
        obtain ⟨leaders, rfl⟩ := chosen
        simp only [better, endpoints holds, answer, ranks holds leaders]
        split_ifs
        · exact .some ⟨holds, rfl⟩
        · exact .some ⟨leaders, rfl⟩
  generalize contenders.foldl index.better none = best at led ⊢
  generalize others.foldl other.better none = best' at led ⊢
  cases led with
  | none => exact .inl ⟨rfl, rfl⟩
  | @some choice choice' chosen =>
    obtain ⟨leader, endpoint⟩ := choice
    obtain ⟨leader', endpoint'⟩ := choice'
    obtain ⟨leaders, rfl⟩ := chosen
    exact .inr ⟨leader, leader', endpoint', rfl, rfl, leaders⟩

/-- With a leader among the contenders, the leader is chosen. -/
theorem resolve_of_some {index : RouteIndex ε} {headOf : ε → ε} {method path : String}
    {leader : Contender ε} {endpoint : ε}
    (best : (index.contenders headOf method (splitPath path)).foldl index.better none =
      some (leader, endpoint)) :
    index.resolve headOf method path = .resolved
      { endpoint
        params := Params.ofCaptures leader.route.pattern.captureNames leader.values
        route := leader.route
        path := handlerPath path (splitPath path) leader.route.strip } := by
  simp only [resolve, choose, best]

/-- Without one, the methods of the contenders are told, if there are any. -/
theorem resolve_of_none {index : RouteIndex ε} {headOf : ε → ε} {method path : String}
    (best : (index.contenders headOf method (splitPath path)).foldl index.better none = none) :
    index.resolve headOf method path =
      .unanswered (allowedAmong (index.contenders headOf method (splitPath path))) := by
  simp only [resolve, choose, best]

/-- The routes of the contenders are those of the candidates, in their order. -/
theorem map_route_contenders (index : RouteIndex ε) (headOf : ε → ε) (method : String)
    (raw : List String) :
    (index.contenders headOf method raw).map (·.route) = (index.collect raw).flatMap (·.routes) := by
  simp [contenders, List.map_flatMap, Function.comp_def]

/-- A contender is a route of the index that matches, with its values and its endpoint. -/
theorem of_mem_contenders {index : RouteIndex ε} {headOf : ε → ε} {method : String}
    {raw : List String} {contender : Contender ε}
    (member : contender ∈ index.contenders headOf method raw) :
    contender.route ∈ index.routes ∧
      contender.route.pattern.captures? index.settings.ignoreCase raw = some contender.values ∧
      contender.endpoint = contender.route.methods.get? headOf method := by
  obtain ⟨found, foundMem, member⟩ := List.mem_flatMap.mp member
  obtain ⟨route, routeMem, rfl⟩ := List.mem_map.mp member
  obtain ⟨inside, matched⟩ := captures?_of_mem_collect index foundMem routeMem
  exact ⟨inside, matched, rfl⟩

/-- Every route that matches is a contender. -/
theorem exists_contender {index : RouteIndex ε} (headOf : ε → ε) (method : String)
    {raw : List String} {route : Route ε} (member : route ∈ index.routes)
    (matched : (route.pattern.captures? index.settings.ignoreCase raw).isSome) :
    ∃ contender ∈ index.contenders headOf method raw, contender.route = route := by
  obtain ⟨found, foundMem, inside⟩ := index.exists_mem_collect member matched
  exact ⟨⟨route, found.values, route.methods.get? headOf method⟩,
    List.mem_flatMap.mpr ⟨found, foundMem, List.mem_map.mpr ⟨route, inside, rfl⟩⟩, rfl⟩

end RouteIndex

end HttpRouting

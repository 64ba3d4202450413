import HttpRouting.Proofs.Resolution

/-! # The methods that a path allows

A table tells the methods that it answers apart from answering them, with the catch-all and the fallback of
`HEAD` to `GET` in both places. The two agree, so the methods that are told when none of the routes of a path
answers are just those for which the path would have been resolved.
-/

namespace HttpRouting

namespace Method

theorem parse?_name (method : Method) : parse? method.name = some method := by
  cases method <;> decide

end Method

namespace MethodTable

variable {ε : Type}

theorem mem_allowed {table : MethodTable ε} {method : Method} :
    method ∈ table.allowed ↔
      table.catchAll.isSome ∨ table.binds method ∨ method = .head ∧ table.binds .get := by
  rw [allowed]
  split_ifs with taken
  · simp [taken, Method.mem_all]
  · simp [taken, Method.mem_all]

/-- A method is answered exactly when it is told among those that are. -/
theorem isSome_get?_iff {table : MethodTable ε} (headOf : ε → ε) {text : String} {method : Method}
    (parsed : Method.parse? text = some method) :
    (table.get? headOf text).isSome ↔ method ∈ table.allowed := by
  rw [mem_allowed, get?, parsed, Option.bind_some]
  cases own : table.bound? method with
  | some endpoint => simp [binds, own]
  | none =>
    cases every : table.catchAll with
    | some endpoint => simp
    | none =>
      by_cases head : method = .head
      · subst head
        simp [binds, own]
      · simp [head, own, binds]

end MethodTable

def Resolution.isResolved {ε : Type} : Resolution ε → Bool
  | .resolved _ => true
  | .notFound | .methodNotAllowed _ => false

theorem Resolution.isResolved_unanswered {ε : Type} (allowed : List Method) :
    (unanswered allowed : Resolution ε).isResolved = false := by
  cases allowed <;> rfl

namespace RouteIndex

variable {ε : Type} {index : RouteIndex ε}

/-- A path is resolved exactly when some route answers. -/
theorem isResolved_resolve_iff (headOf : ε → ε) (method path : String) :
    (index.resolve headOf method path).isResolved ↔
      index.answering headOf method (splitPath path) ≠ [] := by
  constructor
  · intro resolved unanswered
    rw [resolve_of_unanswered unanswered, Resolution.isResolved_unanswered] at resolved
    cases resolved
  · intro answered
    obtain ⟨choice, _, resolved, _⟩ := resolve_of_answered answered
    rw [resolved]
    rfl

/-- A method is told for a path exactly when the path is resolved for it. -/
theorem mem_allowedAt_iff (headOf : ε → ε) {method : Method} {path : String} :
    method ∈ index.allowedAt (splitPath path) ↔
      (index.resolve headOf method.name path).isResolved := by
  have tells (route : Route ε) : route.answers headOf method.name ↔ method ∈ route.methods.allowed :=
    MethodTable.isSome_get?_iff headOf method.parse?_name
  rw [isResolved_resolve_iff, allowedAt, List.mem_filter, List.any_eq_true]
  constructor
  · rintro ⟨_, route, member, allowed⟩
    refine List.ne_nil_of_mem (mem_answering.mpr ⟨member, (tells route).mpr ?_⟩)
    simpa using allowed
  · intro answered
    obtain ⟨route, answers⟩ := List.exists_mem_of_ne_nil _ answered
    obtain ⟨member, answers⟩ := mem_answering.mp answers
    exact ⟨method.mem_all, route, member, by simpa using (tells route).mp answers⟩

/-- The methods told for a path are those for which it is resolved, in canonical order. -/
theorem allowedAt_eq_filter (headOf : ε → ε) (path : String) :
    index.allowedAt (splitPath path) =
      Method.all.filter fun known => (index.resolve headOf known.name path).isResolved := by
  have same : ∀ known ∈ Method.all,
      (index.matching (splitPath path)).any (fun route => route.methods.allowed.contains known) =
        (index.resolve headOf known.name path).isResolved := by
    intro known member
    rw [Bool.eq_iff_iff, ← mem_allowedAt_iff, allowedAt, List.mem_filter]
    exact (and_iff_right member).symm
  exact List.filter_congr same

/-- A decision that is not for a route does not depend on the method beyond that. -/
theorem resolve_of_not_resolved {headOf : ε → ε} {method path : String}
    (refused : (index.resolve headOf method path).isResolved = false) :
    index.resolve headOf method path = .unanswered (index.allowedAt (splitPath path)) := by
  refine resolve_of_unanswered (Decidable.byContradiction fun answered => ?_)
  rw [(isResolved_resolve_iff headOf method path).mpr answered] at refused
  cases refused

end RouteIndex

namespace Router

/-- When routes match a path but none answers the method, the methods told are some, and they are those known
ones for which the path is resolved, in canonical order. A path that is not found for one method is not found
for any. -/
theorem Reachable.resolve_methodNotAllowed {router : Router} (reached : Reachable router) (path : String) :
    (∀ method allowed, router.resolve method path = .methodNotAllowed allowed → allowed ≠ [] ∧
      allowed = Method.all.filter fun known => (router.resolve known.name path).isResolved) ∧
    ∀ method, router.resolve method path = .notFound →
      ∀ other, router.resolve other path = .notFound := by
  have decided : ∀ {method}, (router.resolve method path).isResolved = false →
      router.resolve method path = .unanswered (router.index.allowedAt (splitPath path)) :=
    RouteIndex.resolve_of_not_resolved
  constructor
  · intro method allowed refused
    have told := decided (by rw [refused]; rfl)
    rw [refused] at told
    cases known : router.index.allowedAt (splitPath path) with
    | nil =>
      rw [known] at told
      cases told
    | cons first rest =>
      rw [known] at told
      cases told
      refine ⟨List.cons_ne_nil _ _, ?_⟩
      rw [← known]
      exact RouteIndex.allowedAt_eq_filter Endpoint.headOf path
  · intro method missing other
    have told := decided (by rw [missing]; rfl)
    have nothing : router.index.matching (splitPath path) = [] := by
      by_contra some
      rw [missing, Resolution.unanswered_of_ne_nil (reached.sound.allowedAt_ne_nil some)] at told
      cases told
    have unanswered : router.index.answering Endpoint.headOf other (splitPath path) = [] := by
      rw [RouteIndex.answering, nothing]
      rfl
    have none : router.index.allowedAt (splitPath path) = [] := by simp [RouteIndex.allowedAt, nothing]
    rw [resolve, RouteIndex.resolve_of_unanswered unanswered, none]
    rfl

/-- A router with two routes that match one path, one for `GET` and one for `DELETE`. -/
def accountRouter : Outcome Router := do
  let router ← Router.fresh.route "/users/:id" [("GET", some (.endpoint .notFound))]
  router.route "/users/me" [("DELETE", some (.endpoint .notFound))]

private theorem reachable_accountRouter {router : Router} (made : accountRouter = .ok router) :
    Reachable router := by
  obtain ⟨first, registered, rest⟩ := bind_eq_ok.mp made
  exact .route (.route (.fresh {} none) registered) rest

theorem resolve_methodNotAllowed_accountRouter : ∃ router, accountRouter = .ok router ∧ Reachable router ∧
    router.resolve "PUT" "/users/me" = .methodNotAllowed [.get, .delete, .head] ∧
    [Method.get, .delete, .head] =
      (Method.all.filter fun known => (router.resolve known.name "/users/me").isResolved) ∧
    router.resolve "PUT" "/users" = .notFound ∧ router.resolve "GET" "/users" = .notFound := by
  have known : ∃ router, accountRouter = .ok router ∧
      router.resolve "PUT" "/users/me" = .methodNotAllowed [.get, .delete, .head] ∧
      router.resolve "PUT" "/users" = .notFound := ⟨_, rfl, rfl, rfl⟩
  obtain ⟨router, made, refused, missing⟩ := known
  have reached := reachable_accountRouter made
  exact ⟨router, made, reached, refused,
    ((reached.resolve_methodNotAllowed "/users/me").1 "PUT" _ refused).2, missing,
    (reached.resolve_methodNotAllowed "/users").2 "PUT" missing "GET"⟩

end Router

end HttpRouting

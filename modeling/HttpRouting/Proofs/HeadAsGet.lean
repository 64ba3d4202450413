import HttpRouting.Proofs.HeadRequests
import HttpRouting.Proofs.HeaderCopies

/-! # `HEAD` in the place of `GET`

Where no route of a path binds `HEAD` itself, the routes that answer `HEAD` are those that answer `GET`. There
is only one winner among them, so both are decided alike; only the endpoints differ, and that only by the body
of the answer, which also has its headers copied.
-/

namespace HttpRouting

theorem Resolution.Rel.imp {ε : Type} {R S : Resolved ε → Resolved ε → Prop} {one other : Resolution ε}
    (related : Resolution.Rel R one other) (weaker : ∀ choice choice', R choice choice' → S choice choice') :
    Resolution.Rel S one other := by
  cases related with
  | notFound => exact .notFound
  | methodNotAllowed allowed => exact .methodNotAllowed allowed
  | resolved chosen => exact .resolved (weaker _ _ chosen)

namespace Response

/-- Dropping the body fails for no status that a response may be made with. -/
theorem withoutBody_eq_ok {response : Response} (proper : isStatus response.status) :
    response.withoutBody =
      .ok { response with headers := response.headers.copied, body := none, bodyUsed := false } := by
  rw [withoutBody, recast, proper]
  rfl

end Response

namespace Endpoint

/-- Whether an endpoint answers as `inner` does but without a body: it calls `inner` once, takes on whatever
that did to the world and threw, and else answers with its status and status text and a copy of its headers. -/
def DropsBodyOf (outer inner : Endpoint) : Prop :=
  ∀ request sites world,
    match inner.call request sites world with
    | (.ok response, final) => Response.isStatus response.status → ∃ answer,
        outer.call request sites world = (.ok answer, final) ∧ answer.status = response.status ∧
          answer.statusText = response.statusText ∧ answer.body = none ∧
          ∀ name, answer.headers.values name = Headers.copiedValues name (response.headers.values name)
    | (.error fault, final) => outer.call request sites world = (.error fault, final)

theorem dropsBodyOf_headOf (inner : Endpoint) : inner.headOf.DropsBodyOf inner := by
  intro request sites world
  have ran := call_after inner (fun response => ofViolation response.withoutBody) request sites world
  rw [headOf]
  rcases called : inner.call request sites world with ⟨result, final⟩
  rw [called] at ran
  cases result with
  | error fault => exact ran
  | ok response =>
    intro proper
    dsimp only at ran
    rw [ran, Response.withoutBody_eq_ok proper]
    exact ⟨_, rfl, rfl, rfl, rfl, Headers.values_copied response.headers⟩

end Endpoint

namespace MethodTable

variable {ε : Type} {table : MethodTable ε}

theorem get?_of_catchAll (lawful : table.Lawful) (headOf : ε → ε) {endpoint : ε}
    (every : table.catchAll = some endpoint) (method : String) :
    table.get? headOf method = some endpoint := by
  have unbound : table.bound = [] := lawful.alone (by rw [every]; rfl)
  cases parsed : Method.parse? method <;> simp [get?, bound?, parsed, unbound, every]

/-- Without a catch-all, `GET` is answered by what is bound to it. -/
theorem get?_of_get {method : String} (parsed : Method.parse? method = some .get) (headOf : ε → ε)
    (alone : table.catchAll = none) : table.get? headOf method = table.bound? .get := by
  cases bound : table.bound? .get <;> simp [get?, parsed, alone, bound]

/-- A table that does not bind `HEAD` answers it and `GET` by its catch-all, or `GET` by what is bound to that
and `HEAD` in its place, or neither of them. -/
theorem get?_head_or_get (lawful : table.Lawful) (headOf : ε → ε) (unbound : table.binds .head = false) :
    (∃ endpoint, table.catchAll = some endpoint ∧ table.get? headOf "GET" = some endpoint ∧
      table.get? headOf "HEAD" = some endpoint) ∨
    (table.get? headOf "GET" = table.bound? .get ∧
      table.get? headOf "HEAD" = (table.bound? .get).map headOf) := by
  have head : Method.parse? "HEAD" = some .head := by decide
  have get : Method.parse? "GET" = some .get := by decide
  cases every : table.catchAll with
  | some endpoint =>
    exact .inl ⟨endpoint, rfl, get?_of_catchAll lawful headOf every _, get?_of_catchAll lawful headOf every _⟩
  | none =>
    have nothing : table.bound? .head = none := by
      rwa [binds, Option.isSome_eq_false_iff, Option.isNone_iff_eq_none] at unbound
    exact .inr ⟨get?_of_get get headOf every, get?_of_unbound_head head nothing every⟩

end MethodTable

namespace RouteIndex

variable {ε : Type} {index : RouteIndex ε} {headOf : ε → ε} {method other : String} {raw : List String}

/-- No two routes win: of two that answer the one found first is not ranked lower, and ranked higher it would
leave the other one no winner. -/
theorem Wins.unique {winner rival : Route ε} (wins : index.Wins headOf method raw winner)
    (wins' : index.Wins headOf method raw rival) : winner = rival := by
  have lower {low high : Route ε} (highest : index.Wins headOf method raw low)
      (answers : high ∈ index.answering headOf method raw) :
      ¬low.pattern.specificity.compare index.settings.precedence high.pattern.specificity < 0 := by
    have rank := highest.highest high answers
    rw [Specificity.compare_swap] at rank
    omega
  obtain ⟨before, after, split, first⟩ := wins.first
  obtain ⟨before', after', split', first'⟩ := wins'.first
  rcases List.append_eq_append_iff.mp (split.symm.trans split') with
    ⟨between, early, late⟩ | ⟨between, early, late⟩
  · cases between with
    | nil => exact (List.cons.inj late).1
    | cons head between =>
      -- the winner is found before its rival
      obtain rfl := (List.cons.inj late).1
      exact (lower wins wins'.answers (first' winner (by simp [early]) wins.answers)).elim
  · cases between with
    | nil => exact (List.cons.inj late).1.symm
    | cons head between =>
      obtain rfl := (List.cons.inj late).1
      exact (lower wins' wins.answers (first rival (by simp [early]) wins'.answers)).elim

/-- Who wins depends on the method only through who answers it. -/
theorem Wins.congr {winner : Route ε}
    (same : index.answering headOf other raw = index.answering headOf method raw)
    (wins : index.Wins headOf method raw winner) : index.Wins headOf other raw winner := by
  constructor
  · rw [same]
    exact wins.answers
  · rw [same]
    exact wins.highest
  · rw [same]
    exact wins.first

theorem path_of_resolve {path : String} {choice : Resolved ε}
    (resolved : index.resolve headOf method path = .resolved choice) :
    choice.path = handlerPath path (splitPath path) choice.route.strip := by
  simp only [resolve, choose] at resolved
  split at resolved
  · cases resolved
    rfl
  · generalize allowedAmong _ = allowed at resolved
    cases allowed <;> cases resolved

/-- Methods that are answered by the same routes are decided alike, up to the endpoints. -/
theorem resolve_rel_of_answering_eq {path : String}
    (same : index.answering headOf other (splitPath path) = index.answering headOf method (splitPath path)) :
    Resolution.Rel
      (fun choice choice' => choice.route ∈ index.matching (splitPath path) ∧ choice'.route = choice.route ∧
        choice'.params = choice.params ∧ choice'.path = choice.path ∧
        choice.route.methods.get? headOf method = some choice.endpoint ∧
        choice.route.methods.get? headOf other = some choice'.endpoint)
      (index.resolve headOf method path) (index.resolve headOf other path) := by
  by_cases unanswered : index.answering headOf method (splitPath path) = []
  · rw [resolve_of_unanswered unanswered, resolve_of_unanswered (same.trans unanswered)]
    exact Resolution.rel_unanswered _ _
  · obtain ⟨choice, values, resolved, wins, gets, captured, params⟩ := resolve_of_answered unanswered
    have answered' : index.answering headOf other (splitPath path) ≠ [] :=
      fun nothing => unanswered (same.symm.trans nothing)
    obtain ⟨choice', values', resolved', wins', gets', captured', params'⟩ := resolve_of_answered answered'
    have routes : choice'.route = choice.route := wins'.unique (wins.congr same)
    have paths : choice'.path = choice.path := by
      rw [path_of_resolve resolved, path_of_resolve resolved', routes]
    rw [routes] at gets' captured' params'
    obtain rfl : values = values' := Option.some.inj (captured.symm.trans captured')
    rw [resolved, resolved']
    exact .resolved ⟨(mem_answering.mp wins.answers).1, routes, params'.trans params.symm, paths, gets, gets'⟩

end RouteIndex

namespace Router

/-- Where no route that matches a path binds `HEAD` itself, `HEAD` is decided as `GET` is: the path is not
found for either, or the same methods are told, or the same route is chosen with the same parameters and the
same path for its handler. Then both are answered by its catch-all, or `GET` by what is bound to it and `HEAD`
by an endpoint that calls that one once and drops the body. -/
theorem Reachable.resolve_head_as_get {router : Router} (reached : Reachable router) {path : String}
    (unbound : ∀ route ∈ router.index.matching (splitPath path), route.methods.binds .head = false) :
    Resolution.Rel
      (fun get head => head.route = get.route ∧ head.params = get.params ∧ head.path = get.path ∧
        (get.route.methods.catchAll = some get.endpoint ∧ head.endpoint = get.endpoint ∨
          get.route.methods.bound? .get = some get.endpoint ∧ head.endpoint.DropsBodyOf get.endpoint))
      (router.resolve "GET" path) (router.resolve "HEAD" path) := by
  have answered : ∀ route ∈ router.index.matching (splitPath path),
      (∃ endpoint, route.methods.catchAll = some endpoint ∧
        route.methods.get? Endpoint.headOf "GET" = some endpoint ∧
        route.methods.get? Endpoint.headOf "HEAD" = some endpoint) ∨
      (route.methods.get? Endpoint.headOf "GET" = route.methods.bound? .get ∧
        route.methods.get? Endpoint.headOf "HEAD" = (route.methods.bound? .get).map Endpoint.headOf) := by
    intro route member
    have lawful := (reached.sound.lawful route (RouteIndex.mem_matching.mp member).1).1
    exact MethodTable.get?_head_or_get lawful Endpoint.headOf (unbound route member)
  have same : router.index.answering Endpoint.headOf "HEAD" (splitPath path) =
      router.index.answering Endpoint.headOf "GET" (splitPath path) := by
    refine List.filter_congr fun route member => ?_
    rw [Route.answers, Route.answers]
    rcases answered route member with ⟨endpoint, _, get, head⟩ | ⟨get, head⟩
    · rw [get, head]
    · rw [get, head, Option.isSome_map]
  refine (RouteIndex.resolve_rel_of_answering_eq same).imp ?_
  rintro get head ⟨member, routes, params, paths, gets, heads⟩
  refine ⟨routes, params, paths, ?_⟩
  rcases answered get.route member with ⟨endpoint, every, byGet, byHead⟩ | ⟨byGet, byHead⟩
  · obtain rfl : endpoint = get.endpoint := Option.some.inj (byGet.symm.trans gets)
    exact .inl ⟨every, Option.some.inj (heads.symm.trans byHead)⟩
  · have bound := byGet.symm.trans gets
    rw [bound, heads] at byHead
    refine .inr ⟨bound, ?_⟩
    rw [Option.some.inj byHead]
    exact get.endpoint.dropsBodyOf_headOf

/-- A router whose one route was mounted, with the endpoints of its table wrapped by middleware. -/
def mirroredRouter : Outcome Router := do
  let child ← Router.fresh.route "/users/:id" [("GET", some (.endpoint .notFound))]
  let child ← child.use (.after fun response => return response)
  Router.fresh.mount "/api" (.router child)

private theorem reachable_mirroredRouter {router : Router} (made : mirroredRouter = .ok router) :
    Reachable router := by
  obtain ⟨bare, registered, rest⟩ := bind_eq_ok.mp made
  obtain ⟨child, used, mounted⟩ := bind_eq_ok.mp rest
  exact .mountRouter (.fresh {} none) (.use (.route (.fresh {} none) registered) used) mounted

theorem resolve_head_as_get_mirroredRouter : ∃ router get head, mirroredRouter = .ok router ∧
    Reachable router ∧
    (∀ route ∈ router.index.matching (splitPath "/api/users/7"), route.methods.binds .head = false) ∧
    router.resolve "GET" "/api/users/7" = .resolved get ∧
    router.resolve "HEAD" "/api/users/7" = .resolved head ∧ head.route = get.route ∧
    head.params = get.params ∧ head.path = get.path ∧
    get.route.methods.bound? .get = some get.endpoint ∧ head.endpoint.DropsBodyOf get.endpoint := by
  have known : ∃ router get head, mirroredRouter = .ok router ∧
      (router.index.matching (splitPath "/api/users/7")).all (fun route => !route.methods.binds .head) ∧
      router.resolve "GET" "/api/users/7" = .resolved get ∧
      router.resolve "HEAD" "/api/users/7" = .resolved head ∧ get.route.methods.catchAll = none :=
    ⟨_, _, _, rfl, rfl, rfl, rfl, rfl⟩
  obtain ⟨router, get, head, made, unbound, resolved, resolved', alone⟩ := known
  have reached := reachable_mirroredRouter made
  have unbound : ∀ route ∈ router.index.matching (splitPath "/api/users/7"),
      route.methods.binds .head = false := by simpa using unbound
  have decided := reached.resolve_head_as_get unbound
  rw [resolved, resolved'] at decided
  cases decided with
  | resolved alike =>
    obtain ⟨routes, params, paths, every | ⟨bound, drops⟩⟩ := alike
    · rw [alone] at every
      cases every.1
    · exact ⟨router, get, head, made, reached, unbound, resolved, resolved', routes, params, paths, bound, drops⟩

/-- A router whose one route answers with one field twice, the second time empty. -/
def repeatingRouter : Outcome Router :=
  Router.fresh.route "/list" [("GET", some (.endpoint .repeating))]

/-- What the two values give when they are joined ends with a blank, and the answer to `HEAD` has not got that. -/
theorem resolve_head_trims_headers : ∃ router get head, repeatingRouter = .ok router ∧ Reachable router ∧
    (∀ route ∈ router.index.matching (splitPath "/list"), route.methods.binds .head = false) ∧
    router.resolve "GET" "/list" = .resolved get ∧ router.resolve "HEAD" "/list" = .resolved head ∧
    ∀ request sites world, ∃ response answer,
      get.endpoint.call request sites world = (.ok response, world) ∧ Response.isStatus response.status ∧
      response.headers.get? "X-A" = some "a, " ∧
      head.endpoint.call request sites world = (.ok answer, world) ∧ answer.headers.get? "X-A" = some "a," := by
  have known : ∃ router get head, repeatingRouter = .ok router ∧
      (router.index.matching (splitPath "/list")).all (fun route => !route.methods.binds .head) ∧
      router.resolve "GET" "/list" = .resolved get ∧ router.resolve "HEAD" "/list" = .resolved head ∧
      get.endpoint = .repeating ∧ head.endpoint = Endpoint.repeating.headOf :=
    ⟨_, _, _, rfl, rfl, rfl, rfl, rfl, rfl⟩
  obtain ⟨router, get, head, made, unbound, resolved, resolved', own, dropping⟩ := known
  refine ⟨router, get, head, made, .route (.fresh {} none) made, by simpa using unbound, resolved, resolved',
    fun request sites world => ?_⟩
  rw [own, dropping]
  obtain ⟨response, called, status, _, held⟩ := Endpoint.call_repeating request sites world
  have proper : Response.isStatus response.status := by
    rw [status]
    decide
  have drops := Endpoint.dropsBodyOf_headOf .repeating request sites world
  rw [called] at drops
  obtain ⟨answer, answered, _, _, _, copied⟩ := drops proper
  have joined : Headers.copiedValues "X-A" (Headers.values ⟨[("x-a", "a"), ("x-a", "")]⟩ "X-A") = ["a,"] := by decide
  rw [held] at copied
  refine ⟨response, answer, called, proper, ?_, answered, Headers.get?_of_singleton ((copied "X-A").trans joined)⟩
  rw [held]
  decide

end Router

end HttpRouting

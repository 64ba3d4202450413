import HttpRouting.Proofs.Resolution

/-! # What the tables of a router bind

What holds of the endpoints of a router's routes, each with the selector that it is bound to. A registration
binds what it was given, wrapped; a mount keeps the selectors and wraps the endpoints once more; and what
answers a request is bound to a selector that serves its method.
-/

namespace HttpRouting

/-- Whether what is bound to a selector may answer a method: `HEAD` is also served by what is bound to `GET`. -/
inductive Selector.Serves : Selector → String → Prop
  | any (text : String) : Serves .any text
  | only {method : Method} {text : String} (parsed : Method.parse? text = some method) :
      Serves (.only method) text
  | head {text : String} (parsed : Method.parse? text = some .head) : Serves (.only .get) text

namespace Fields

variable {α : Type} {pair : String × α}

private theorem mem_of_mem_set {name : String} {value : α} {fields : Fields α} (member : pair ∈ fields.set name value) :
    pair = (name, value) ∨ pair ∈ fields := by
  induction fields with
  | nil => exact .inl (List.mem_singleton.mp member)
  | cons head rest ih =>
    obtain ⟨other, old⟩ := head
    rw [set] at member
    split_ifs at member
    · rcases List.mem_cons.mp member with new | later
      · exact .inl new
      · exact .inr (List.mem_cons_of_mem _ later)
    · rcases List.mem_cons.mp member with new | later
      · exact .inl new
      · exact .inr later
    · rcases List.mem_cons.mp member with rfl | later
      · exact .inr (List.mem_cons_self ..)
      · exact (ih later).imp_right (List.mem_cons_of_mem _)

/-- Fields made from pairs are some of these pairs. -/
theorem mem_of_mem_ofPairs {pairs : List (String × α)} (member : pair ∈ ofPairs pairs) : pair ∈ pairs := by
  induction pairs using List.reverseRecOn with
  | nil => cases member
  | append_singleton pairs last ih =>
    rw [ofPairs, List.foldl_append] at member
    rcases mem_of_mem_set member with rfl | old
    · exact List.mem_append_right _ (List.mem_singleton_self _)
    · exact List.mem_append_left _ (ih old)

end Fields

namespace MethodTable

variable {ε δ : Type} {table after : MethodTable ε} {holds : Selector → ε → Prop}

/-- Whether something holds of all that a table binds. -/
structure All (holds : Selector → ε → Prop) (table : MethodTable ε) : Prop where
  bound : ∀ pair ∈ table.bound, holds (.only pair.1) pair.2
  catchAll : ∀ endpoint, table.catchAll = some endpoint → holds .any endpoint

private theorem all_empty : (empty : MethodTable ε).All holds :=
  ⟨fun _ => by rintro ⟨⟩, fun _ => by rintro ⟨⟩⟩

theorem All.imp {holds' : Selector → ε → Prop} (all : table.All holds)
    (weaker : ∀ selector endpoint, holds selector endpoint → holds' selector endpoint) : table.All holds' :=
  ⟨fun pair member => weaker _ _ (all.bound pair member),
    fun endpoint every => weaker _ _ (all.catchAll endpoint every)⟩

theorem All.set (all : table.All holds) {selector : Selector} {endpoint : ε} {source : String}
    (here : holds selector endpoint) (bound : table.set selector endpoint source = .ok after) :
    after.All holds := by
  simp only [MethodTable.set] at bound
  split at bound
  · cases selector with
    | any =>
      cases bound
      exact ⟨all.bound, fun _ same => Option.some.inj same ▸ here⟩
    | only method =>
      cases bound
      refine ⟨fun pair member => ?_, all.catchAll⟩
      rcases List.mem_append.mp member with old | new
      · exact all.bound pair old
      · cases List.mem_singleton.mp new
        exact here
  · cases bound

/-- What changes the endpoints of a table keeps the selectors that they are bound to. -/
theorem All.mapM {change : ε → Except Fault δ} {changed : MethodTable δ} {holds' : Selector → δ → Prop}
    (all : table.All holds) (ran : table.mapM change = .ok changed)
    (carries : ∀ selector endpoint result, holds selector endpoint → change endpoint = .ok result →
      holds' selector result) : changed.All holds' := by
  obtain ⟨bound, boundOk, rest⟩ := bind_eq_ok.mp ran
  have each : ∀ pair ∈ bound, holds' (.only pair.1) pair.2 := by
    intro pair member
    obtain ⟨origin, originMem, head⟩ := exists_of_mem_right (mapM_eq_ok.mp boundOk) member
    obtain ⟨endpoint, done, same⟩ := bind_eq_ok.mp head
    cases pure_eq_ok.mp same
    exact carries _ _ _ (all.bound origin originMem) done
  split at rest
  · cases pure_eq_ok.mp rest
    exact ⟨each, fun _ => by rintro ⟨⟩⟩
  · rename_i endpoint every
    obtain ⟨result, done, same⟩ := bind_eq_ok.mp rest
    cases pure_eq_ok.mp same
    refine ⟨each, fun _ found => ?_⟩
    cases Option.some.inj found
    exact carries _ _ _ (all.catchAll endpoint every) done

theorem All.of_bound? (all : table.All holds) {method : Method} {endpoint : ε}
    (found : table.bound? method = some endpoint) : holds (.only method) endpoint := by
  obtain ⟨before, after, split, _⟩ := List.lookup_eq_some_iff.mp found
  exact all.bound (method, endpoint) (by simp [split])

/-- What answers a method is bound to a selector that serves it, or answers in the place of what is bound to
`GET`. -/
theorem All.of_get? (all : table.All holds) {headOf : ε → ε} {text : String} {endpoint : ε}
    (found : table.get? headOf text = some endpoint) :
    ∃ selector inner, holds selector inner ∧ selector.Serves text ∧
      (endpoint = inner ∨ selector = .only .get ∧ endpoint = headOf inner) := by
  simp only [get?] at found
  cases own : (Method.parse? text).bind table.bound? with
  | some chosen =>
    obtain ⟨method, parsed, bound⟩ := Option.bind_eq_some_iff.mp own
    rw [own] at found
    cases found
    exact ⟨.only method, _, all.of_bound? bound, .only parsed, .inl rfl⟩
  | none =>
    rw [own, Option.orElse_none] at found
    cases every : table.catchAll with
    | some chosen =>
      rw [every] at found
      cases found
      exact ⟨.any, _, all.catchAll _ every, .any text, .inl rfl⟩
    | none =>
      rw [every] at found
      dsimp only at found
      split_ifs at found with head
      obtain ⟨inner, bound, rfl⟩ := Option.map_eq_some_iff.mp found
      exact ⟨.only .get, inner, all.of_bound? bound, .head head, .inr ⟨rfl, rfl⟩⟩

end MethodTable

/-- The route of a choice is one of the index, its table answers the method with the chosen endpoint, and its
pattern matches the path. -/
theorem RouteIndex.of_resolve {ε : Type} {index : RouteIndex ε} {headOf : ε → ε} {method path : String}
    {choice : Resolved ε} (resolved : index.resolve headOf method path = .resolved choice) :
    choice.route ∈ index.routes ∧ choice.route.methods.get? headOf method = some choice.endpoint ∧
      ∃ values, choice.route.pattern.captures? index.settings.ignoreCase (splitPath path) = some values := by
  by_cases unanswered : index.answering headOf method (splitPath path) = []
  · rw [resolve_of_unanswered unanswered] at resolved
    cases allowed : index.allowedAt (splitPath path) <;> rw [allowed] at resolved <;> cases resolved
  · obtain ⟨found, values, resolved', wins, gets, matched, _⟩ := resolve_of_answered unanswered
    rw [resolved'] at resolved
    cases resolved
    exact ⟨(mem_matching.mp (mem_answering.mp wins.answers).1).1, gets, values, matched⟩

namespace Router

theorem use_eq_ok {router after : Router} {middleware : Middleware} :
    router.use middleware = .ok after ↔
      router.frozen = false ∧ after = { router with layers := router.layers ++ [middleware] } := by
  simp only [Router.use, bind_eq_ok, pure_eq_ok, eq_comm (a := after)]
  constructor
  · rintro ⟨⟨⟩, openness, same⟩
    exact ⟨requireOpen_eq_ok.mp openness, same⟩
  · rintro ⟨openness, same⟩
    exact ⟨(), requireOpen_eq_ok.mpr openness, same⟩

theorem withFallback_eq_ok {router after : Router} {handler : Handler} :
    router.withFallback handler = .ok after ↔
      router.frozen = false ∧ after = { router with fallback := .ofHandler handler } := by
  simp only [Router.withFallback, bind_eq_ok, pure_eq_ok, eq_comm (a := after)]
  constructor
  · rintro ⟨⟨⟩, openness, same⟩
    exact ⟨requireOpen_eq_ok.mp openness, same⟩
  · rintro ⟨openness, same⟩
    exact ⟨(), requireOpen_eq_ok.mpr openness, same⟩

theorem dispatcher_of_open {router : Router} (openness : router.frozen = false) : router.dispatcher = none :=
  Option.isNone_iff_eq_none.mp (Option.isSome_eq_false_iff.mp openness)

/-- A batch that is added stands behind the other routes, up to its numbers, and changes nothing else. -/
theorem routes_of_add {router after : Router} {batch : List (Route Endpoint)}
    (added : router.add batch = .ok after) :
    after = { router with index := after.index } ∧ ∃ copies, after.routes = router.routes ++ copies ∧
      List.Forall₂ (fun route copy => ∃ order, copy = { route with order }) batch copies := by
  obtain ⟨index, indexed, rfl⟩ := add_eq_ok.mp added
  obtain ⟨_, _, rfl⟩ := RouteIndex.add_eq_ok.mp indexed
  exact ⟨rfl, router.index.numbered batch, RouteIndex.routes_foldl_insert _ _,
    router.index.forall₂_numbered batch⟩

/-- A registered route binds to its selectors what was given for them, wrapped by its middleware. -/
theorem all_of_prepare {path : String} {bound : List (Selector × Option Handler)} {options : RouteOptions}
    {route : Route Endpoint} (prepared : prepare path bound options = .ok route) :
    route.methods.All fun selector endpoint => ∃ handler, (selector, some handler) ∈ bound ∧
      wrapped options.middleware (.ofHandler handler) = .ok endpoint := by
  obtain ⟨pattern, methods, _, ran, _, rfl⟩ := prepare_eq_ok.mp prepared
  refine foldlM_ok_induction_mem (fun methods given member after all done => ?_) MethodTable.all_empty ran
  rw [bindHandler] at done
  split at done
  · cases done
    exact all
  · rename_i handler some
    obtain ⟨endpoint, made, done⟩ := bind_eq_ok.mp done
    refine all.set ⟨handler, ?_, made⟩ (Outcome.lift_eq_ok.mp done)
    rwa [← some]

/-- A copied route binds to the same selectors what its mounted router carries there. -/
theorem all_of_copied {child : Router} {head : Pattern} {strip : Bool} {route copy : Route Endpoint}
    {holds : Selector → Endpoint → Prop} (all : route.methods.All holds)
    (copied : child.copied head strip route = .ok copy) :
    copy.methods.All fun selector endpoint =>
      ∃ inner, holds selector inner ∧ child.carried inner = .ok endpoint := by
  obtain ⟨pattern, methods, _, carried, rfl⟩ := copied_eq_ok.mp copied
  exact all.mapM carried fun _ inner _ known made => ⟨inner, known, made⟩

end Router

end HttpRouting

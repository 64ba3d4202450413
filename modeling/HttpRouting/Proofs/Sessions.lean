import HttpRouting.Deployment
import HttpRouting.Proofs.Contracts
import HttpRouting.Proofs.Outcomes

/-! # What sessions do to a deployment

Beside their own changes operations do two things to a deployment: they write to the world, and they close
the routers that the world notes as closed. Closing a router gives it a dispatcher and changes nothing else.
A deployment is quiet when its world notes no router, which it does between two operations.
-/

namespace HttpRouting

namespace Deployment

variable {deployment : Deployment}

/-- Whether no router is noted as closed. -/
def Quiet (deployment : Deployment) : Prop :=
  deployment.world.closed = []

theorem registryAt?_eq_some {number : Nat} {registry : Registry} :
    deployment.registryAt? number = some registry ↔ deployment.sites[number]? = some (.paths registry) := by
  rw [registryAt?]
  constructor
  · intro found
    split at found
    · rename_i same
      cases found
      exact same
    · cases found
  · intro found
    rw [found]

theorem mem_of_registryAt? {number : Nat} {registry : Registry}
    (found : deployment.registryAt? number = some registry) : .paths registry ∈ deployment.sites :=
  List.mem_of_getElem? (registryAt?_eq_some.mp found)

theorem lt_of_registryAt? {number : Nat} {registry : Registry}
    (found : deployment.registryAt? number = some registry) : number < deployment.sites.length :=
  (List.getElem?_eq_some_iff.mp (registryAt?_eq_some.mp found)).1

theorem registryAt?_congr {other : Deployment} {number : Nat}
    (same : other.sites[number]? = deployment.sites[number]?) :
    other.registryAt? number = deployment.registryAt? number := by
  rw [registryAt?, registryAt?, same]

theorem registryAt?_setSite_self {number : Nat} {before : Registry}
    (found : deployment.registryAt? number = some before) (registry : Registry) :
    (deployment.setSite number (.paths registry)).registryAt? number = some registry := by
  rw [registryAt?_eq_some, setSite, List.getElem?_set_self (lt_of_registryAt? found)]

/-- Putting the registry of a number in its place changes nothing. -/
theorem setSite_registry {number : Nat} {registry : Registry}
    (found : deployment.registryAt? number = some registry) :
    deployment.setSite number (.paths registry) = deployment := by
  obtain ⟨within, same⟩ := List.getElem?_eq_some_iff.mp (registryAt?_eq_some.mp found)
  rw [setSite, ← same, List.set_getElem_self]

theorem sites_setSite_of_ne {number other : Nat} (differs : other ≠ number) (site : Site) :
    (deployment.setSite number site).sites[other]? = deployment.sites[other]? :=
  List.getElem?_set_ne differs.symm

/-- Closing a router gives it a dispatcher, if its chain can be built. -/
theorem close_cases (deployment : Deployment) (number : Nat) :
    deployment.close number = deployment ∨ ∃ registry dispatcher,
      deployment.registryAt? number = some registry ∧
        deployment.close number = deployment.setSite number (.paths { registry with dispatcher }) := by
  rw [close]
  cases found : deployment.registryAt? number with
  | none => exact .inl rfl
  | some registry =>
    dsimp only
    split
    · exact .inl rfl
    · rename_i frozen _
      exact .inr ⟨registry, frozen.dispatcher, rfl, rfl⟩

private theorem world_close (deployment : Deployment) (number : Nat) :
    (deployment.close number).world = deployment.world := by
  rcases deployment.close_cases number with same | ⟨_, _, _, same⟩ <;> rw [same]
  rfl

theorem pipelines_close (deployment : Deployment) (number : Nat) :
    (deployment.close number).pipelines = deployment.pipelines := by
  rcases deployment.close_cases number with same | ⟨_, _, _, same⟩ <;> rw [same]
  rfl

theorem sites_close_of_ne {number other : Nat} (differs : other ≠ number) :
    (deployment.close number).sites[other]? = deployment.sites[other]? := by
  rcases deployment.close_cases number with same | ⟨_, _, _, same⟩ <;> rw [same]
  exact sites_setSite_of_ne differs _

theorem quiet_commit (deployment : Deployment) : deployment.commit.Quiet := by
  have kept : ∀ (numbers : List Nat) (start : Deployment),
      (numbers.foldl close start).world = start.world := by
    intro numbers
    induction numbers with
    | nil => exact fun _ => rfl
    | cons number numbers ih => exact fun start => (ih _).trans (start.world_close number)
  rw [Quiet, commit, kept]

theorem Quiet.commit (quiet : deployment.Quiet) : deployment.commit = deployment := by
  obtain ⟨world, sites, pipelines⟩ := deployment
  obtain ⟨events, logger, tracer, activeSpan, spanCount, cells, closed, time, identifiers⟩ := world
  cases (quiet : closed = [])
  rfl

/-- The registry of a site when it has been frozen, if it can be. -/
def frozenAt (deployment : Deployment) (number : Nat) : Outcome Registry :=
  match deployment.registryAt? number with
  | none => .error (.violation .wrongSort)
  | some registry => do
    return { registry with dispatcher := (← (registry.settled deployment.layers).freeze).dispatcher }

theorem frozenAt_congr {other : Deployment} {number : Nat}
    (site : other.registryAt? number = deployment.registryAt? number)
    (pipelines : other.pipelines = deployment.pipelines) :
    other.frozenAt number = deployment.frozenAt number := by
  rw [frozenAt, frozenAt, site, layers, layers, pipelines]

theorem frozenAt_of_none {number : Nat} (absent : deployment.registryAt? number = none) :
    deployment.frozenAt number = .error (.violation .wrongSort) := by
  rw [frozenAt, absent]

/-- A router that is frozen stays as it is. -/
theorem frozenAt_of_closed {number : Nat} {registry : Registry} {endpoint : Endpoint}
    (site : deployment.registryAt? number = some registry) (closed : registry.dispatcher = some endpoint) :
    deployment.frozenAt number = .ok registry := by
  have kept : (registry.settled deployment.layers).freeze = .ok (registry.settled deployment.layers) := by
    rw [Router.freeze, Router.settled]
    dsimp only
    rw [closed]
  rw [frozenAt, site]
  dsimp only
  rw [kept]
  rfl

theorem frozenAt_of_open {number : Nat} {registry : Registry}
    (site : deployment.registryAt? number = some registry) (unfrozen : registry.dispatcher = none) :
    deployment.frozenAt number = (registry.settled deployment.layers).chain.map fun endpoint =>
      { registry with dispatcher := some endpoint } := by
  have built : (registry.settled deployment.layers).freeze = (do
      let endpoint ← (registry.settled deployment.layers).chain
      return { registry.settled deployment.layers with dispatcher := some endpoint }) := by
    rw [Router.freeze]
    have same : (registry.settled deployment.layers).dispatcher = none := unfrozen
    rw [same]
  rw [frozenAt, site]
  dsimp only
  rw [built]
  cases (registry.settled deployment.layers).chain <;> rfl

/-- Closing a router leaves it frozen, if it can be. -/
theorem registryAt?_close {number : Nat} {frozen : Registry} (done : deployment.frozenAt number = .ok frozen) :
    (deployment.close number).registryAt? number = some frozen := by
  cases site : deployment.registryAt? number with
  | none =>
    rw [frozenAt_of_none site] at done
    cases done
  | some registry =>
    rw [frozenAt, site] at done
    obtain ⟨closed, closing, same⟩ := bind_eq_ok.mp done
    cases pure_eq_ok.mp same
    rw [close, site]
    dsimp only
    rw [closing]
    exact registryAt?_setSite_self site _

end Deployment

theorem World.closed_log (world : World) (logger : Logger) (level : Level) (message : String)
    (context : LogContext) : (world.log logger level message context).closed = world.closed := by
  rw [log]
  split
  · rfl
  · split <;> rfl

namespace Session

variable {α β : Type} {deployment : Deployment}

private theorem run_eq (work : Act α) (deployment : Deployment) : run work deployment =
    ((work (deployment.visit visitDepth) deployment.world).1, { deployment with
      world := (work (deployment.visit visitDepth) deployment.world).2 }.commit) :=
  rfl

/-- A log entry is written to the world and changes nothing else. -/
theorem log_eq (quiet : deployment.Quiet) (logger : Option Logger) (level : Level) (message : String)
    (context : LogContext) : ∃ world, world.closed = [] ∧
      log logger level message context deployment = (.ok (), { deployment with world }) := by
  let world := deployment.world.log (logger.getD deployment.world.logger) level message context
  have closed : world.closed = [] := (World.closed_log ..).trans quiet
  refine ⟨world, closed, ?_⟩
  have ran : log logger level message context deployment =
      (.ok (), { deployment with world }.commit) := rfl
  have noted : { deployment with world }.Quiet := closed
  rw [ran, noted.commit]

theorem registry_eq (number : Nat) : registry number deployment =
    (match deployment.registryAt? number with
      | some registry => .ok registry
      | none => .error (.violation .wrongSort), deployment) := by
  have steps : registry number deployment =
      (match deployment.registryAt? number with
        | some registry => pure registry
        | none => throw (.violation .wrongSort) : Session Registry) deployment := rfl
  rw [steps]
  cases deployment.registryAt? number <;> rfl

theorem registry_of_some {number : Nat} {found : Registry}
    (site : deployment.registryAt? number = some found) :
    registry number deployment = (.ok found, deployment) := by
  rw [registry_eq, site]

theorem registry_of_none {number : Nat} (absent : deployment.registryAt? number = none) :
    registry number deployment = (.error (.violation .wrongSort), deployment) := by
  rw [registry_eq, absent]

theorem router_of_some {number : Nat} {found : Registry}
    (site : deployment.registryAt? number = some found) :
    router number deployment = (.ok found.toRouter, deployment) :=
  run_bind_of_ok (registry_of_some site)

private theorem router_of_none {number : Nat} (absent : deployment.registryAt? number = none) :
    router number deployment = (.error (.violation .wrongSort), deployment) :=
  run_bind_of_error (registry_of_none absent)

/-- Whether an operation changes nothing. -/
def Looks (work : Session α) : Prop :=
  ∀ deployment, (work deployment).2 = deployment

theorem Looks.meets {work : Session α} (looks : Looks work) {before failed : Deployment → Prop}
    (weaker : ∀ deployment, before deployment → failed deployment) :
    Meets before work (fun _ => before) failed := by
  intro deployment holds
  have same := looks deployment
  generalize work deployment = run at same ⊢
  obtain ⟨result, after⟩ := run
  obtain rfl : after = deployment := same
  cases result with
  | ok value => exact holds
  | error fault => exact weaker _ holds

theorem Looks.bind {work : Session α} {next : α → Session β} (first : Looks work)
    (second : ∀ value, Looks (next value)) : Looks (work >>= next) := by
  intro deployment
  have same := first deployment
  rw [run_bind]
  generalize work deployment = run at same ⊢
  obtain ⟨result, middle⟩ := run
  cases result with
  | ok value => exact (second value middle).trans same
  | error fault => exact same

theorem looks_lift (outcome : Outcome α) : Looks (lift outcome) := by
  cases outcome <;> exact fun _ => rfl

theorem looks_registry (number : Nat) : Looks (registry number) := by
  intro deployment
  rw [registry_eq]

theorem looks_router (number : Nat) : Looks (router number) := by
  intro deployment
  cases site : deployment.registryAt? number with
  | none => rw [router_of_none site]
  | some registry => rw [router_of_some site]

/-- A dispatcher that is built for the first time is noted in the world, and told to the logger. -/
theorem dispatcher_of_built {router : Router} {endpoint : Endpoint} {number : Nat} {world : World}
    (fresh : router.dispatcher = none) (built : (router.settled deployment.layers).chain = .ok endpoint)
    (unnoted : world.closed = []) (sites : Sites) : ∃ final, final.closed = [number] ∧
      deployment.dispatcher number router sites world = (.ok endpoint, final) := by
  let noted := { world with closed := world.closed ++ [number] }
  refine ⟨noted.log (router.logger.getD world.logger) .debug "Router frozen" router.frozenContext, ?_, ?_⟩
  · rw [World.closed_log]
    change world.closed ++ [number] = [number]
    rw [unnoted, List.nil_append]
  · have steps : deployment.dispatcher number router sites world =
        (do
          unless world.closed.contains number do
            set noted
            logTo (router.logger.getD world.logger) .debug "Router frozen" router.frozenContext
          return endpoint : Act Endpoint) sites world := by
      rw [Deployment.dispatcher, fresh]
      dsimp only
      rw [built]
      rfl
    have open? : ¬world.closed.contains number = true := by rw [unnoted]; simp
    rw [steps, if_neg open?]
    rfl

/-- What freezing a site leaves: the site frozen, or as it was when it cannot be frozen, and everything else
but the world as it was. -/
structure Freezes (deployment : Deployment) (number : Nat) (after : Deployment) : Prop where
  quiet : after.Quiet
  pipelines : after.pipelines = deployment.pipelines
  others : ∀ other, other ≠ number → after.sites[other]? = deployment.sites[other]?
  done : ∀ registry, deployment.frozenAt number = .ok registry → after.registryAt? number = some registry
  refused : ∀ fault, deployment.frozenAt number = .error fault → after = deployment

private theorem freezes_self (quiet : deployment.Quiet) {number : Nat}
    (same : ∀ registry, deployment.frozenAt number = .ok registry →
      deployment.registryAt? number = some registry) : Freezes deployment number deployment :=
  ⟨quiet, rfl, fun _ _ => rfl, same, fun _ _ => rfl⟩

private theorem freezes_close {number : Nat} {world : World} (noted : world.closed = []) {frozen : Registry}
    (done : deployment.frozenAt number = .ok frozen) :
    Freezes deployment number ({ deployment with world }.close number) := by
  constructor
  · exact (congrArg World.closed ({ deployment with world }.world_close number)).trans noted
  · exact { deployment with world }.pipelines_close number
  · exact fun other differs => { deployment with world }.sites_close_of_ne differs
  · intro other same
    have unchanged : { deployment with world }.frozenAt number = deployment.frozenAt number :=
      Deployment.frozenAt_congr rfl rfl
    exact Deployment.registryAt?_close (unchanged.trans same)
  · intro fault same
    rw [done] at same
    cases same

/-- The dispatcher of a router is built unless its chain cannot be, and its router frozen by that. -/
theorem run_dispatcher_eq (quiet : deployment.Quiet) {number : Nat} {registry : Registry}
    (site : deployment.registryAt? number = some registry) : ∃ outcome after,
      run (deployment.dispatcher number registry.toRouter) deployment = (outcome, after) ∧
        outcome.map (fun _ => ()) = (deployment.frozenAt number).map (fun _ => ()) ∧
        Freezes deployment number after := by
  cases frozen : registry.dispatcher with
  | some endpoint =>
    have done := Deployment.frozenAt_of_closed site frozen
    rw [Deployment.dispatcher, frozen, done]
    refine ⟨_, _, (run_eq _ _).trans (congrArg _ quiet.commit), rfl, freezes_self quiet fun other same => ?_⟩
    cases done.symm.trans same
    exact site
  | none =>
    have done := Deployment.frozenAt_of_open site frozen
    cases built : (registry.settled deployment.layers).chain with
    | error fault =>
      rw [built] at done
      rw [Deployment.dispatcher, frozen, done]
      dsimp only
      rw [built]
      refine ⟨_, _, (run_eq _ _).trans (congrArg _ quiet.commit), rfl, freezes_self quiet fun other same => ?_⟩
      cases done.symm.trans same
    | ok endpoint =>
      rw [built] at done
      obtain ⟨world, noted, dispatched⟩ := dispatcher_of_built frozen built quiet
        (deployment.visit visitDepth)
      have closed : { deployment with world }.commit =
          { deployment with world := { world with closed := [] } }.close number := by
        rw [Deployment.commit, noted]
        rfl
      rw [run_eq, dispatched, closed, done]
      exact ⟨_, _, rfl, rfl, freezes_close rfl done⟩

/-- Freezing a site gives no value, or the fault that keeps it from being frozen. -/
theorem freeze_eq (quiet : deployment.Quiet) (number : Nat) : ∃ after,
    freeze number deployment = ((deployment.frozenAt number).map fun _ => (), after) ∧
      Freezes deployment number after := by
  have steps : freeze number deployment =
      (router number >>= fun router => discard (run (deployment.dispatcher number router))) deployment := rfl
  rw [steps]
  cases site : deployment.registryAt? number with
  | none =>
    have refused := Deployment.frozenAt_of_none site
    rw [refused]
    refine ⟨deployment, run_bind_of_error (router_of_none site), freezes_self quiet fun registry done => ?_⟩
    rw [refused] at done
    cases done
  | some registry =>
    rw [run_bind_of_ok (router_of_some site)]
    obtain ⟨outcome, after, ran, same, freezes⟩ := run_dispatcher_eq quiet site
    refine ⟨after, ?_, freezes⟩
    rw [← same]
    cases outcome with
    | error fault => exact run_bind_of_error ran
    | ok endpoint => exact run_bind_of_ok ran

private theorem announce_eq (quiet : deployment.Quiet) (before after : Router) : ∃ world, world.closed = [] ∧
    announce before after deployment = (.ok (), { deployment with world }) := by
  rw [announce]
  generalize after.routes.drop before.routes.length = routes
  induction routes generalizing deployment with
  | nil => exact ⟨deployment.world, quiet, rfl⟩
  | cons route routes ih =>
    obtain ⟨middle, unnoted, first⟩ := log_eq quiet after.logger .debug "Route registered"
      (Router.routeContext route)
    have between : { deployment with world := middle }.Quiet := unnoted
    obtain ⟨world, closed, rest⟩ := ih between
    exact ⟨world, closed, (run_bind_of_ok first).trans rest⟩

/-- A program leaves its registry at the number that it was run on, and changes nothing else but the world. -/
theorem change_eq (quiet : deployment.Quiet) {number : Nat} {before : Registry}
    (site : deployment.registryAt? number = some before) (program : Registering Unit) :
    ∃ world, world.closed = [] ∧ change number program deployment =
      ((program before).1.map fun _ => (program before).2.toRouter,
        { deployment with world }.setSite number (.paths (program before).2)) := by
  rcases ran : program before with ⟨result, after⟩
  let changed := deployment.setSite number (.paths after)
  have steps : change number program deployment =
      (lift result >>= fun _ => announce before.toRouter after.toRouter >>= fun _ =>
        pure after.toRouter : Session Router) changed := by
    refine (run_bind_of_ok (registry_of_some site)).trans ?_
    rw [ran]
    rfl
  rw [steps]
  cases result with
  | error fault => exact ⟨deployment.world, quiet, rfl⟩
  | ok =>
    have still : changed.Quiet := quiet
    obtain ⟨world, closed, announced⟩ := announce_eq still before.toRouter after.toRouter
    exact ⟨world, closed, run_bind_of_ok announced⟩

/-- Resolving asks the router as it is when it has been frozen. -/
theorem resolve_eq (quiet : deployment.Quiet) (number : Nat) (method path : String) :
    (resolve number method path deployment).1 =
      (deployment.frozenAt number).map fun registry => registry.toRouter.resolve method path := by
  obtain ⟨after, froze, freezes⟩ := freeze_eq quiet number
  cases done : deployment.frozenAt number with
  | error fault =>
    rw [done] at froze
    rw [resolve, run_bind_of_error froze]
    rfl
  | ok registry =>
    rw [done] at froze
    rw [resolve, run_bind_of_ok froze, run_bind_of_ok (router_of_some (freezes.done registry done))]
    rfl

end Session

end HttpRouting

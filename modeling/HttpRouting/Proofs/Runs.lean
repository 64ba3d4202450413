import HttpRouting.Proofs.Sessions
import HttpRouting.Proofs.ShapeKeys
import HttpRouting.Proofs.Upkeep

/-! # What holds of every router of a deployment

`Deployment.Reached` are the deployments that operations lead to, accepted or refused, in any order and on any
site. Whatever an operation does, it leaves every registry as registrations keep it; so all that a regular
registry says about its routes holds of every router at any time.
-/

namespace HttpRouting

/-- What every operation keeps: no router is noted as closed, and every registry is as registrations keep
it. -/
structure Deployment.Regular (deployment : Deployment) : Prop where
  quiet : deployment.Quiet
  registries : ∀ registry, .paths registry ∈ deployment.sites → registry.Regular

/-- Giving a router a dispatcher changes nothing that registrations keep. -/
theorem Registry.Regular.withDispatcher {registry : Registry} (regular : registry.Regular)
    (dispatcher : Option Endpoint) : { registry with dispatcher }.Regular := by
  refine ⟨?_, regular.index⟩
  rw [regular.agrees]
  rfl

namespace Deployment

variable {deployment : Deployment}

theorem regular_setSite {site : Site}
    (others : ∀ registry, .paths registry ∈ deployment.sites → registry.Regular)
    (here : ∀ registry, site = .paths registry → registry.Regular) (number : Nat) :
    ∀ registry, .paths registry ∈ (deployment.setSite number site).sites → registry.Regular := by
  intro registry member
  rcases List.mem_or_eq_of_mem_set member with old | new
  · exact others registry old
  · exact here registry new.symm

private theorem regular_close (others : ∀ registry, .paths registry ∈ deployment.sites → registry.Regular)
    (number : Nat) : ∀ registry, .paths registry ∈ (deployment.close number).sites → registry.Regular := by
  rcases deployment.close_cases number with same | ⟨registry, dispatcher, found, same⟩ <;> rw [same]
  · exact others
  · refine regular_setSite others (fun closed same => ?_) number
    cases same
    exact (others registry (mem_of_registryAt? found)).withDispatcher dispatcher

private theorem regular_commit (others : ∀ registry, .paths registry ∈ deployment.sites → registry.Regular) :
    deployment.commit.Regular := by
  refine ⟨deployment.quiet_commit, ?_⟩
  rw [commit]
  generalize deployment.world.closed = numbers
  have start : ∀ registry, .paths registry ∈
      { deployment with world := { deployment.world with closed := [] } }.sites → registry.Regular := others
  generalize { deployment with world := { deployment.world with closed := [] } } = first at start ⊢
  induction numbers generalizing first with
  | nil => exact start
  | cons number numbers ih => exact ih _ (regular_close start number)

theorem Regular.registry (regular : deployment.Regular) {number : Nat} {found : Registry}
    (site : deployment.registryAt? number = some found) : found.Regular :=
  regular.registries found (mem_of_registryAt? site)

end Deployment

namespace Session

open Deployment

/-- Whether an operation keeps every registry as it should be, whether it throws or not. -/
def Keeps {α : Type} (work : Session α) : Prop :=
  Meets Deployment.Regular work (fun _ => Deployment.Regular) Deployment.Regular

theorem Keeps.bind {α β : Type} {work : Session α} {next : α → Session β} (first : Keeps work)
    (second : ∀ value, Keeps (next value)) : Keeps (work >>= next) :=
  Meets.bind first second

theorem keeps_run {α : Type} (work : Act α) : Keeps (run work) := by
  intro deployment regular
  let world := (work (deployment.visit visitDepth) deployment.world).2
  have committed : { deployment with world }.commit.Regular := regular_commit regular.registries
  exact ended_const_iff.mpr committed

theorem keeps_log (logger : Option Logger) (level : Level) (message : String) (context : LogContext) :
    Keeps (log logger level message context) :=
  keeps_run _

/-- A value that was checked passed its check. -/
theorem lift_meets {α : Type} (outcome : Outcome α) :
    Meets Deployment.Regular (lift outcome)
      (fun value deployment => deployment.Regular ∧ outcome = .ok value) Deployment.Regular := by
  cases outcome with
  | ok value => exact .of_pure fun _ regular => ⟨regular, rfl⟩
  | error fault => exact .of_throw fun _ regular => regular

theorem keeps_lift {α : Type} (outcome : Outcome α) : Keeps (lift outcome) :=
  (looks_lift outcome).meets fun _ regular => regular

theorem keeps_modify {change : Deployment → Deployment}
    (keeps : ∀ deployment, deployment.Regular → (change deployment).Regular) :
    Keeps (modify change) :=
  .of_modify keeps

/-- The registry of a number is as it should be. -/
theorem registry_meets (number : Nat) :
    Meets Deployment.Regular (registry number) (fun found deployment => deployment.Regular ∧ found.Regular)
      Deployment.Regular := by
  intro deployment regular
  rw [registry_eq]
  cases site : deployment.registryAt? number with
  | none => exact regular
  | some found => exact ⟨regular, regular.registry site⟩

private theorem router_meets (number : Nat) :
    Meets Deployment.Regular (router number)
      (fun found deployment => deployment.Regular ∧ found.index.Regular) Deployment.Regular :=
  (registry_meets number).bind fun _ => .of_pure fun _ ⟨regular, found⟩ => ⟨regular, found.index⟩

theorem keeps_router (number : Nat) : Keeps (router number) :=
  (looks_router number).meets fun _ regular => regular

private theorem keeps_setRegistry (number : Nat) {registry : Registry} (regular : registry.Regular) :
    Keeps (setRegistry number registry) := by
  refine keeps_modify fun deployment kept => ⟨kept.quiet, ?_⟩
  refine regular_setSite kept.registries (fun other same => ?_) number
  cases same
  exact regular

private theorem keeps_announce (before after : Router) : Keeps (announce before after) :=
  Meets.of_forM fun _ _ => keeps_log _ _ _ _

/-- A program that keeps a registry as it should be may be run on any router. -/
theorem keeps_change (number : Nat) {program : Registering Unit}
    (keeps : ∀ registry : Registry, registry.Regular → (program registry).2.Regular) :
    Keeps (change number program) := by
  refine (registry_meets number).bind fun before => .assuming fun regular => ?_
  have after := keeps before regular
  generalize program before = ended at after ⊢
  obtain ⟨result, final⟩ := ended
  refine (keeps_setRegistry number after).bind fun _ => (keeps_lift result).bind fun _ => ?_
  exact (keeps_announce before.toRouter final.toRouter).bind fun _ => .of_pure fun _ kept => kept

theorem keeps_get : Keeps get :=
  .of_get fun _ regular => regular

theorem keeps_freeze (number : Nat) : Keeps (freeze number) :=
  keeps_get.bind fun _ => (keeps_router number).bind fun _ => (keeps_run _).bind fun _ =>
    .of_pure fun _ regular => regular

private theorem keeps_resolve (number : Nat) (method path : String) : Keeps (resolve number method path) :=
  (keeps_freeze number).bind fun _ => (keeps_router number).bind fun _ => .of_pure fun _ regular => regular

/-- A router that is to be mounted has an index as it should be. -/
theorem childRouter?_meets (parent : Router) (head : Pattern) (number : Nat) :
    Meets Deployment.Regular (childRouter? parent head number)
      (fun found deployment => deployment.Regular ∧ ∀ child ∈ found, child.index.Regular)
      Deployment.Regular := by
  refine Meets.bind keeps_get fun deployment => ?_
  split
  · exact .of_pure fun _ regular => ⟨regular, by simp⟩
  · refine Meets.bind (keeps_lift _) fun _ => Meets.bind (keeps_freeze number) fun _ => ?_
    refine (router_meets number).bind fun child => .assuming fun inner => ?_
    refine Meets.bind keeps_get fun _ => .of_pure fun _ regular => ⟨regular, fun settled same => ?_⟩
    cases Option.some.inj same
    exact inner

private theorem keeps_mountHandler (number : Nat) {head : Pattern} (plain : head.hasWildcard = false)
    (strip : Bool) (handler : Handler) : Keeps (mountHandler number head strip handler) := by
  refine Keeps.bind (keeps_change number fun registry regular => ?_) fun after => keeps_log _ _ _ _
  exact Registering.regular_mountOn regular plain strip trivial

private theorem keeps_mountSite (number : Nat) (parent : Router) {head : Pattern} (plain : head.hasWildcard = false)
    (strip : Bool) (other : Nat) : Keeps (mountSite number parent head strip other) := by
  refine Meets.bind (childRouter?_meets parent head other) fun found => .assuming fun inner => ?_
  split
  · exact keeps_mountHandler number plain strip _
  · rename_i child
    refine Keeps.bind (keeps_change number fun registry regular => ?_) fun after => keeps_log _ _ _ _
    exact Registering.regular_mountOn regular plain strip (inner child rfl)

private theorem keeps_mount (number : Nat) (path : String) (child : Child) (strip : Bool) :
    Keeps (mount number path child strip) := by
  refine (keeps_router number).bind fun parent => (keeps_lift _).bind fun _ => ?_
  have unlike : Keeps (requireOther number path child) := by
    cases child with
    | handler => exact .of_pure fun _ regular => regular
    | site other =>
      rw [requireOther]
      split_ifs
      · exact .of_throw fun _ regular => regular
      · exact .of_pure fun _ regular => regular
  -- only a pattern without a wildcard gets past the next step
  refine unlike.bind fun _ => Meets.bind (lift_meets _) fun head => .assuming fun point => ?_
  have plain := (Router.mountPoint_eq_ok.mp point).2.2
  cases child with
  | handler handler => exact keeps_mountHandler number plain strip handler
  | site other => exact keeps_mountSite number parent plain strip other

private theorem keeps_addSite {site : Site} (here : ∀ registry, site = .paths registry → registry.Regular) :
    Keeps (addSite site) := by
  refine keeps_get.bind fun _ => Keeps.bind (keeps_modify fun deployment kept => ⟨kept.quiet, ?_⟩) fun _ =>
    .of_pure fun _ regular => regular
  intro registry member
  rcases List.mem_append.mp member with old | new
  · exact kept.registries registry old
  · exact here registry (List.mem_singleton.mp new).symm

/-- A router that holds nothing yet has a registry as it should be. -/
theorem regular_fresh (settings : MatchSettings) (logger : Option Logger) :
    Registry.Regular { toRouter := .fresh settings logger } :=
  ⟨rfl, RouteIndex.regular_empty settings⟩

private theorem keeps_startGroup (number : Nat) : Keeps (startGroup number) := by
  refine (keeps_router number).bind fun parent => keeps_addSite fun registry same => ?_
  cases same
  exact regular_fresh parent.index.settings parent.logger

private theorem keeps_route (number : Nat) (path : String) (handlers : Fields (Option Handler))
    (options : RouteOptions) : Keeps (route number path handlers options) :=
  keeps_get.bind fun _ => Keeps.bind
    (keeps_change number fun _ regular => Registering.regular_route regular path handlers _)
    fun _ => .of_pure fun _ regular => regular

private theorem keeps_register (number : Nat) (selectors : List String) (path : String) (handler : Handler)
    (options : RouteOptions) : Keeps (register number selectors path handler options) :=
  keeps_get.bind fun _ => Keeps.bind
    (keeps_change number fun _ regular => Registering.regular_register regular selectors path handler _)
    fun _ => .of_pure fun _ regular => regular

private theorem keeps_use (number : Nat) (middleware : Middleware) : Keeps (use number middleware) :=
  Keeps.bind (keeps_change number fun _ regular => Registering.regular_use regular middleware)
    fun _ => .of_pure fun _ regular => regular

/-- Sites of another kind have no registry. -/
theorem keeps_setSite (number : Nat) {site : Site} (other : ∀ registry, site ≠ .paths registry) :
    Keeps (modify fun deployment => deployment.setSite number site) :=
  keeps_modify fun _ kept => ⟨kept.quiet,
    regular_setSite kept.registries (fun registry same => (other registry same).elim) number⟩

private theorem keeps_changeSchemes (number : Nat)
    (operation : SchemeRouter Endpoint → Except RegistrationError (SchemeRouter Endpoint)) :
    Keeps (changeSchemes number operation) := by
  refine keeps_get.bind fun _ => ?_
  split
  · exact (keeps_lift _).bind fun _ => keeps_setSite number (by simp)
  · exact .of_throw fun _ regular => regular

private theorem keeps_setFallback (number : Nat) (handler : Handler) : Keeps (setFallback number handler) := by
  refine keeps_get.bind fun _ => ?_
  split
  · exact Keeps.bind (keeps_change number fun _ regular => Registering.regular_withFallback regular handler)
      fun _ => .of_pure fun _ regular => regular
  · exact keeps_changeSchemes number _

private theorem keeps_registerHost (number : Nat) (pattern : String) (handler : Handler) :
    Keeps (registerHost number pattern handler) := by
  refine keeps_get.bind fun _ => ?_
  split
  · rename_i router _ _
    -- what registering on the host router gives does not matter, and is slow to unfold
    rcases router.register pattern (.ofHandler handler) with ⟨result, after⟩
    refine (keeps_setSite number (by simp)).bind fun _ => ?_
    exact (keeps_lift _).bind fun _ => keeps_log _ _ _ _
  · exact .of_throw fun _ regular => regular

private theorem keeps_callSite (number : Nat) (request : Request) : Keeps (callSite number request) := by
  refine keeps_get.bind fun _ => ?_
  split_ifs
  · exact (keeps_freeze number).bind fun _ => keeps_run _
  · exact keeps_run _

private theorem keeps_changePipeline (number : Nat) (change : List PipelineEntry → List PipelineEntry) :
    Keeps (changePipeline number change) :=
  keeps_modify fun _ kept => ⟨kept.quiet, kept.registries⟩

private theorem keeps_addPipeline : Keeps addPipeline :=
  keeps_get.bind fun _ => Keeps.bind (keeps_modify fun _ kept => ⟨kept.quiet, kept.registries⟩)
    fun _ => .of_pure fun _ regular => regular

/-- What may be done to a deployment. A group is begun by one step and mounted by another one, with whatever
steps its routes take in between. -/
inductive Step where
  | addRouter (settings : MatchSettings) (logger : Option Logger)
  | addHosts (router : HostRouter Endpoint) (logger : Logger)
  | addSchemes (router : SchemeRouter Endpoint)
  | addPipeline
  | changePipeline (number : Nat) (change : List PipelineEntry → List PipelineEntry)
  | route (number : Nat) (path : String) (handlers : Fields (Option Handler)) (options : RouteOptions)
  | register (number : Nat) (selectors : List String) (path : String) (handler : Handler)
    (options : RouteOptions)
  | mount (number : Nat) (path : String) (child : Child) (strip : Bool)
  | startGroup (number : Nat)
  | finishGroup (number : Nat) (path : String) (group : Nat)
  | use (number : Nat) (middleware : Middleware)
  | setFallback (number : Nat) (handler : Handler)
  | registerHost (number : Nat) (pattern : String) (handler : Handler)
  | changeSchemes (number : Nat)
    (operation : SchemeRouter Endpoint → Except RegistrationError (SchemeRouter Endpoint))
  | freeze (number : Nat)
  | resolve (number : Nat) (method path : String)
  | call (number : Nat) (request : Request)
  | act (work : Act Unit)

def Step.run : Step → Session Unit
  | addRouter settings logger => discard (addSite (.paths { toRouter := .fresh settings logger }))
  | addHosts router logger => discard (addSite (.hosts router logger))
  | addSchemes router => discard (addSite (.schemes router))
  | addPipeline => discard Session.addPipeline
  | changePipeline number change => Session.changePipeline number change
  | route number path handlers options => Session.route number path handlers options
  | register number selectors path handler options => Session.register number selectors path handler options
  | mount number path child strip => Session.mount number path child strip
  | startGroup number => discard (Session.startGroup number)
  | finishGroup number path group => Session.finishGroup number path group
  | use number middleware => Session.use number middleware
  | setFallback number handler => Session.setFallback number handler
  | registerHost number pattern handler => Session.registerHost number pattern handler
  | changeSchemes number operation => Session.changeSchemes number operation
  | freeze number => Session.freeze number
  | resolve number method path => discard (Session.resolve number method path)
  | call number request => discard (callSite number request)
  | act work => Session.run work

theorem discard_snd {α : Type} (work : Session α) (deployment : Deployment) :
    ((discard work : Session Unit) deployment).2 = (work deployment).2 := by
  have steps : (discard work : Session Unit) deployment = (work >>= fun _ => pure ()) deployment := rfl
  rw [steps, run_bind]
  generalize work deployment = run
  obtain ⟨result, final⟩ := run
  cases result <;> rfl

theorem Keeps.discard {α : Type} {work : Session α} (keeps : Keeps work) : Keeps (discard work) :=
  keeps.bind fun _ => .of_pure fun _ regular => regular

/-- Every step keeps every registry as it should be. -/
theorem Step.keeps (step : Step) : Keeps step.run := by
  cases step with
  | addRouter settings logger =>
    refine (keeps_addSite fun registry same => ?_).discard
    cases same
    exact regular_fresh settings logger
  | addHosts => exact (keeps_addSite (by simp)).discard
  | addSchemes => exact (keeps_addSite (by simp)).discard
  | addPipeline => exact keeps_addPipeline.discard
  | changePipeline => exact keeps_changePipeline _ _
  | route => exact keeps_route _ _ _ _
  | register => exact keeps_register _ _ _ _ _
  | mount => exact keeps_mount _ _ _ _
  | startGroup => exact (keeps_startGroup _).discard
  | finishGroup => exact keeps_mount _ _ _ _
  | use => exact keeps_use _ _
  | setFallback => exact keeps_setFallback _ _
  | registerHost =>
    rw [Step.run]
    exact keeps_registerHost _ _ _
  | changeSchemes => exact keeps_changeSchemes _ _
  | freeze => exact keeps_freeze _
  | resolve => exact (keeps_resolve _ _ _).discard
  | call => exact (keeps_callSite _ _).discard
  | act => exact keeps_run _

end Session

namespace Deployment

/-- The deployments that steps lead to from one that has no sites yet, whether a step throws or not. -/
inductive Reached : Deployment → Prop
  | start {world : World} (quiet : world.closed = []) : Reached { world }
  | step {deployment : Deployment} (reached : Reached deployment) (step : Session.Step) :
    Reached (step.run deployment).2

theorem Reached.regular {deployment : Deployment} (reached : deployment.Reached) : deployment.Regular := by
  induction reached with
  | start quiet => exact ⟨quiet, by simp⟩
  | step _ step ih =>
    exact ended_const_iff.mp (step.keeps _ ih)

/-- What steps make of a deployment, one after another. -/
def after (deployment : Deployment) (steps : List Session.Step) : Deployment :=
  steps.foldl (fun current step => (step.run current).2) deployment

theorem Reached.after {deployment : Deployment} (reached : deployment.Reached) (steps : List Session.Step) :
    (deployment.after steps).Reached := by
  induction steps generalizing deployment with
  | nil => exact reached
  | cons step steps ih => exact ih (reached.step step)

/-- A group is a run of steps too, if what builds it is one. -/
theorem Reached.group {deployment : Deployment} (reached : deployment.Reached) (number : Nat) (path : String)
    {build : Nat → Session Unit} (builds : ∀ group current, Reached current → Reached (build group current).2) :
    Reached (Session.group number path build deployment).2 := by
  have begun : Reached (Session.startGroup number deployment).2 := by
    have step := reached.step (.startGroup number)
    rwa [Session.Step.run, Session.discard_snd] at step
  rw [Session.group, run_bind]
  generalize Session.startGroup number deployment = run at begun ⊢
  obtain ⟨result, middle⟩ := run
  cases result with
  | error fault => exact begun
  | ok group =>
    have built := builds group middle begun
    change Reached ((build group >>= fun _ => Session.finishGroup number path group) middle).2
    rw [run_bind]
    generalize build group middle = run at built ⊢
    obtain ⟨result, last⟩ := run
    cases result with
    | error fault => exact built
    | ok => exact built.step (.finishGroup number path group)

/-- A router with a named route that is mounted on another one, which then refuses a route of the same
shape. -/
def mountedUsers : Deployment :=
  after {} [.addRouter {} none, .register 0 ["GET"] "/users/:id" (.endpoint .notFound) { name := some "user" },
    .addRouter {} none, .mount 1 "/api" (.site 0) true,
    .register 1 ["GET"] "/api/users/:number" (.endpoint .notFound) {}]

end Deployment

end HttpRouting

import HttpRouting.Proofs.Refusals

/-! # Frozen routers

A router that was frozen never changes again. A call that is to change it is refused at once, or after what
comes before that: wrapping the handler by the middleware of its route, and building a group. All other
operations leave the router as it is: those on other routers touch only these, a mount copies its routes, and all
that requests can do to a router is to close it, which does nothing to a frozen one.

Applying a middleware gives an endpoint or a fault and does nothing else, so no router is frozen in the middle
of a registration on it.
-/

namespace HttpRouting

namespace Registering

variable {registry : Registry}

theorem requireOpen_of_frozen (frozen : registry.frozen = true) (target : String) (method : Option String) :
    requireOpen target method registry = (.error (.registration ⟨target, .frozen, method⟩), registry) := by
  have refused : registry.toRouter.requireOpen target method =
      .error (.registration ⟨target, .frozen, method⟩) := if_pos frozen
  have steps : requireOpen target method registry =
      (liftM (registry.toRouter.requireOpen target method) : Registering Unit) registry := rfl
  rw [steps, refused]
  rfl

/-- Whether a program throws on a registry before it changes anything. -/
def Refused (program : Registering Unit) (registry : Registry) : Prop :=
  ∃ fault, program registry = (.error fault, registry)

theorem route_of_frozen (frozen : registry.frozen = true) (path : String) (handlers : Fields (Option Handler))
    (options : RouteOptions) : ∃ methods, route path handlers options registry =
      (.error (.registration ⟨path, .frozen, some methods⟩), registry) :=
  ⟨_, run_bind_of_error (requireOpen_of_frozen frozen path _)⟩

/-- The handler is wrapped first, which may throw. -/
theorem register_of_frozen (frozen : registry.frozen = true) (selectors : List String) (path : String)
    (handler : Handler) (options : RouteOptions) : ∃ fault,
      register selectors path handler options registry = (.error fault, registry) ∧
      (Router.wrapped options.middleware (.ofHandler handler) = .error fault ∨
        ∃ methods, fault = .registration ⟨path, .frozen, some methods⟩) := by
  rw [register, run_lift_bind]
  cases wrapped : Router.wrapped options.middleware (.ofHandler handler) with
  | error fault => exact ⟨fault, rfl, .inl rfl⟩
  | ok endpoint =>
    obtain ⟨methods, refused⟩ := route_of_frozen frozen path
      (.ofPairs (selectors.map fun name => (name, some (.endpoint endpoint))))
      { name := options.name, info := options.info }
    exact ⟨_, refused, .inr ⟨methods, rfl⟩⟩

private theorem use_of_frozen (frozen : registry.frozen = true) (middleware : Middleware) :
    use middleware registry = (.error (.registration ⟨"use", .frozen, none⟩), registry) :=
  run_bind_of_error (requireOpen_of_frozen frozen "use" none)

private theorem withFallback_of_frozen (frozen : registry.frozen = true) (handler : Handler) :
    withFallback handler registry = (.error (.registration ⟨"fallback", .frozen, none⟩), registry) :=
  run_bind_of_error (requireOpen_of_frozen frozen "fallback" none)

end Registering

namespace Deployment

variable {deployment : Deployment} {number : Nat} {registry : Registry}

def Holds (number : Nat) (registry : Registry) (deployment : Deployment) : Prop :=
  deployment.registryAt? number = some registry

theorem Holds.setSite (holds : deployment.Holds number registry) {other : Nat} (differs : number ≠ other)
    (site : Site) : (deployment.setSite other site).Holds number registry :=
  (registryAt?_congr (sites_setSite_of_ne differs site)).trans holds

/-- A site of another kind is not the router. -/
theorem Holds.ne_of_site (holds : deployment.Holds number registry) {other : Nat} {site : Site}
    (found : deployment.sites[other]? = some site) (unlike : ∀ registry, site ≠ .paths registry) :
    number ≠ other := by
  rintro rfl
  exact unlike registry (Option.some.inj (found.symm.trans (registryAt?_eq_some.mp holds)))

theorem Holds.addSite (holds : deployment.Holds number registry) (site : Site) :
    { deployment with sites := deployment.sites ++ [site] }.Holds number registry :=
  (registryAt?_congr (List.getElem?_append_left (lt_of_registryAt? holds))).trans holds

/-- Closing a frozen router does nothing to it. -/
theorem Holds.close (holds : deployment.Holds number registry) (frozen : registry.frozen = true) (other : Nat) :
    (deployment.close other).Holds number registry := by
  by_cases same : number = other
  · subst same
    obtain ⟨endpoint, closed⟩ := Option.isSome_iff_exists.mp frozen
    exact registryAt?_close (frozenAt_of_closed holds closed)
  · exact (registryAt?_congr (sites_close_of_ne same)).trans holds

theorem Holds.closeAll (holds : deployment.Holds number registry) (frozen : registry.frozen = true)
    (numbers : List Nat) : (numbers.foldl Deployment.close deployment).Holds number registry := by
  induction numbers generalizing deployment with
  | nil => exact holds
  | cons other numbers ih => exact ih (holds.close frozen other)

theorem Holds.commit (holds : deployment.Holds number registry) (frozen : registry.frozen = true) :
    deployment.commit.Holds number registry := by
  have start : { deployment with world := { deployment.world with closed := [] } }.Holds number registry := holds
  exact start.closeAll frozen _

end Deployment

namespace Session

open Deployment

variable {α β : Type} {deployment : Deployment} {number : Nat} {registry : Registry}

/-- A program that is refused before it changes anything leaves no trace. -/
theorem change_of_refused (holds : deployment.Holds number registry) {program : Registering Unit} {fault : Fault}
    (refused : program registry = (.error fault, registry)) :
    change number program deployment = (.error fault, deployment) := by
  have steps : change number program deployment =
      (.error fault, deployment.setSite number (.paths registry)) := by
    refine (run_bind_of_ok (registry_of_some holds)).trans ?_
    rw [refused]
    rfl
  rw [steps, setSite_registry holds]

theorem discard_change_of_refused (holds : deployment.Holds number registry) {program : Registering Unit}
    {fault : Fault} (refused : program registry = (.error fault, registry)) :
    (discard (change number program) : Session Unit) deployment = (.error fault, deployment) :=
  run_bind_of_error (change_of_refused holds refused)

private theorem route_of_frozen (holds : deployment.Holds number registry) (frozen : registry.frozen = true)
    (path : String) (handlers : Fields (Option Handler)) (options : RouteOptions) :
    ∃ methods, route number path handlers options deployment =
      (.error (.registration ⟨path, .frozen, some methods⟩), deployment) := by
  have looked : (get : Session Deployment) deployment = (.ok deployment, deployment) := rfl
  obtain ⟨methods, refused⟩ := Registering.route_of_frozen frozen path handlers
    { options with middleware := options.middleware.map (.expand deployment.layers) }
  refine ⟨methods, ?_⟩
  rw [route, run_bind_of_ok looked]
  exact discard_change_of_refused holds refused

private theorem register_of_frozen (holds : deployment.Holds number registry) (frozen : registry.frozen = true)
    (selectors : List String) (path : String) (handler : Handler) (options : RouteOptions) :
    ∃ fault, register number selectors path handler options deployment = (.error fault, deployment) ∧
      (Router.wrapped (options.middleware.map (.expand deployment.layers)) (.ofHandler handler) =
          .error fault ∨
        ∃ methods, fault = .registration ⟨path, .frozen, some methods⟩) := by
  have looked : (get : Session Deployment) deployment = (.ok deployment, deployment) := rfl
  obtain ⟨fault, refused, cause⟩ := Registering.register_of_frozen frozen selectors path handler
    { options with middleware := options.middleware.map (.expand deployment.layers) }
  refine ⟨fault, ?_, cause⟩
  rw [register, run_bind_of_ok looked]
  exact discard_change_of_refused holds refused

/-- Nothing is mounted on a frozen router. -/
theorem mount_of_frozen (holds : deployment.Holds number registry) (frozen : registry.frozen = true)
    (path : String) (child : Child) (strip : Bool) :
    mount number path child strip deployment =
      (.error (.registration ⟨path, .frozen, none⟩), deployment) := by
  have refused : registry.toRouter.requireOpen path = .error (.registration ⟨path, .frozen, none⟩) :=
    if_pos frozen
  refine (run_bind_of_ok (router_of_some holds)).trans (run_bind_of_error ?_)
  rw [refused]
  rfl

private theorem looks_requireOther (number : Nat) (path : String) (child : Child) :
    Looks (requireOther number path child) := by
  rcases requireOther_cases number path child with refused | ⟨_, passed⟩
  · rw [refused]
    exact fun _ => rfl
  · rw [passed]
    exact fun _ => rfl

/-- Whether an operation leaves the router of a number as it is, whether it throws or not. -/
def Preserves (number : Nat) (registry : Registry) (work : Session α) : Prop :=
  Meets (Holds number registry) work (fun _ => Holds number registry) (Holds number registry)

theorem Preserves.bind {work : Session α} {next : α → Session β} (first : Preserves number registry work)
    (second : ∀ value, Preserves number registry (next value)) : Preserves number registry (work >>= next) :=
  Meets.bind first second

theorem preserves_pure (value : α) : Preserves number registry (pure value) :=
  .of_pure fun _ holds => holds

theorem Preserves.discard {work : Session α} (preserves : Preserves number registry work) :
    Preserves number registry (discard work) :=
  preserves.bind fun _ => preserves_pure ()

theorem Looks.preserves {work : Session α} (looks : Looks work) : Preserves number registry work :=
  looks.meets fun _ holds => holds

theorem preserves_get : Preserves number registry get :=
  .of_get fun _ holds => holds

theorem preserves_get_bind {next : Deployment → Session α}
    (each : ∀ found, found.Holds number registry → Preserves number registry (next found)) :
    Preserves number registry (get >>= next) := by
  have looked : Meets (Holds number registry) (get : Session Deployment)
      (fun found deployment => deployment.Holds number registry ∧ found.Holds number registry)
      (Holds number registry) := .of_get fun _ holds => ⟨holds, holds⟩
  exact looked.bind fun found => .assuming fun held => each found held

theorem preserves_modify {change : Deployment → Deployment}
    (keeps : ∀ deployment, deployment.Holds number registry → (change deployment).Holds number registry) :
    Preserves number registry (modify change) :=
  .of_modify keeps

section Frozen

variable (frozen : registry.frozen = true)
include frozen

theorem preserves_run (work : Act α) : Preserves number registry (run work) := by
  intro deployment holds
  let world := (work (deployment.visit visitDepth) deployment.world).2
  have written : { deployment with world }.Holds number registry := holds
  exact ended_const_iff.mpr (written.commit frozen)

theorem preserves_log (logger : Option Logger) (level : Level) (message : String) (context : LogContext) :
    Preserves number registry (log logger level message context) :=
  preserves_run frozen _

/-- A change of another router is none of this one, and one of this router must be refused. -/
theorem preserves_change (other : Nat) {program : Registering Unit}
    (refused : number = other → program.Refused registry) :
    Preserves number registry (change other program) := by
  by_cases same : number = other
  · obtain ⟨fault, threw⟩ := refused same
    subst same
    intro deployment holds
    rw [change_of_refused holds threw]
    exact holds
  · refine (looks_registry other).preserves.bind fun before => ?_
    generalize program before = ended
    obtain ⟨result, after⟩ := ended
    have replaced : Preserves number registry (setRegistry other after) :=
      preserves_modify fun _ holds => holds.setSite same _
    have announced : Preserves number registry (announce before.toRouter after.toRouter) :=
      Meets.of_forM fun _ _ => preserves_log frozen _ _ _ _
    exact replaced.bind fun _ => (looks_lift result).preserves.bind fun _ => announced.bind fun _ =>
      preserves_pure _

theorem preserves_freeze (other : Nat) : Preserves number registry (freeze other) :=
  preserves_get.bind fun _ => (looks_router other).preserves.bind fun _ => (preserves_run frozen _).discard

private theorem preserves_resolve (other : Nat) (method path : String) :
    Preserves number registry (resolve other method path) :=
  (preserves_freeze frozen other).bind fun _ => (looks_router other).preserves.bind fun _ => preserves_pure _

private theorem preserves_callSite (other : Nat) (request : Request) :
    Preserves number registry (callSite other request) := by
  refine preserves_get.bind fun _ => ?_
  split_ifs
  · exact (preserves_freeze frozen other).bind fun _ => preserves_run frozen _
  · exact preserves_run frozen _

private theorem preserves_childRouter? (parent : Router) (head : Pattern) (other : Nat) :
    Preserves number registry (childRouter? parent head other) := by
  refine preserves_get.bind fun deployment => ?_
  split
  · exact preserves_pure none
  · refine (looks_lift _).preserves.bind fun _ => (preserves_freeze frozen other).bind fun _ => ?_
    exact (looks_router other).preserves.bind fun _ => preserves_get.bind fun _ => preserves_pure _

theorem preserves_mountHandler {other : Nat} (differs : number ≠ other) (head : Pattern) (strip : Bool)
    (handler : Handler) : Preserves number registry (mountHandler other head strip handler) :=
  (preserves_change frozen other fun same => (differs same).elim).bind fun _ => preserves_log frozen _ _ _ _

private theorem preserves_mountSite {other : Nat} (differs : number ≠ other) (parent : Router) (head : Pattern)
    (strip : Bool) (child : Nat) : Preserves number registry (mountSite other parent head strip child) := by
  refine (preserves_childRouter? frozen parent head child).bind fun found => ?_
  split
  · exact preserves_mountHandler frozen differs head strip _
  · exact (preserves_change frozen other fun same => (differs same).elim).bind fun _ =>
      preserves_log frozen _ _ _ _

private theorem preserves_mount (other : Nat) (path : String) (child : Child) (strip : Bool) :
    Preserves number registry (mount other path child strip) := by
  by_cases same : number = other
  · subst same
    intro deployment holds
    rw [mount_of_frozen holds frozen]
    exact holds
  · refine (looks_router other).preserves.bind fun parent => (looks_lift _).preserves.bind fun _ => ?_
    refine (looks_requireOther other path child).preserves.bind fun _ => ?_
    refine (looks_lift _).preserves.bind fun head => ?_
    cases child with
    | handler handler => exact preserves_mountHandler frozen same head strip handler
    | site child => exact preserves_mountSite frozen same parent head strip child

private theorem preserves_route (other : Nat) (path : String) (handlers : Fields (Option Handler))
    (options : RouteOptions) : Preserves number registry (route other path handlers options) := by
  refine preserves_get.bind fun _ => (preserves_change frozen other fun _ => ?_).discard
  obtain ⟨_, refused⟩ := Registering.route_of_frozen frozen path handlers _
  exact ⟨_, refused⟩

private theorem preserves_register (other : Nat) (selectors : List String) (path : String) (handler : Handler)
    (options : RouteOptions) : Preserves number registry (register other selectors path handler options) := by
  refine preserves_get.bind fun _ => (preserves_change frozen other fun _ => ?_).discard
  obtain ⟨fault, refused, _⟩ := Registering.register_of_frozen frozen selectors path handler _
  exact ⟨fault, refused⟩

private theorem preserves_use (other : Nat) (middleware : Middleware) :
    Preserves number registry (use other middleware) :=
  (preserves_change frozen other fun _ => ⟨_, Registering.use_of_frozen frozen middleware⟩).discard

end Frozen

private theorem preserves_addSite (site : Site) : Preserves number registry (addSite site) :=
  preserves_get.bind fun _ => (preserves_modify fun _ holds => holds.addSite site).bind fun _ =>
    preserves_pure _

private theorem preserves_startGroup (other : Nat) : Preserves number registry (startGroup other) :=
  (looks_router other).preserves.bind fun _ => preserves_addSite _

private theorem preserves_changeSchemes (other : Nat)
    (operation : SchemeRouter Endpoint → Except RegistrationError (SchemeRouter Endpoint)) :
    Preserves number registry (changeSchemes other operation) := by
  refine preserves_get_bind fun found held => ?_
  split
  · rename_i router site
    have differs : number ≠ other := held.ne_of_site site (by simp)
    exact (looks_lift _).preserves.bind fun _ => preserves_modify fun _ holds => holds.setSite differs _
  · exact .of_throw fun _ holds => holds

private theorem preserves_setFallback (frozen : registry.frozen = true) (other : Nat) (handler : Handler) :
    Preserves number registry (setFallback other handler) := by
  refine preserves_get_bind fun found held => ?_
  split
  · exact (preserves_change frozen other fun _ =>
      ⟨_, Registering.withFallback_of_frozen frozen handler⟩).discard
  · exact preserves_changeSchemes other _

private theorem preserves_registerHost (frozen : registry.frozen = true) (other : Nat) (pattern : String)
    (handler : Handler) : Preserves number registry (registerHost other pattern handler) := by
  refine preserves_get_bind fun found held => ?_
  split
  · rename_i router logger site
    have differs : number ≠ other := held.ne_of_site site (by simp)
    -- what registering on the host router gives does not matter, and is slow to unfold
    rcases router.register pattern (.ofHandler handler) with ⟨result, after⟩
    have replaced : Preserves number registry
        (modify fun deployment => deployment.setSite other (.hosts after logger)) :=
      preserves_modify fun _ holds => holds.setSite differs _
    refine replaced.bind fun _ => ?_
    exact (looks_lift _).preserves.bind fun _ => preserves_log frozen _ _ _ _
  · exact .of_throw fun _ holds => holds

private theorem preserves_addPipeline : Preserves number registry addPipeline :=
  preserves_get.bind fun _ => Preserves.bind (preserves_modify fun _ holds => holds) fun _ =>
    preserves_pure _

/-- No step changes a frozen router. -/
theorem Step.preserves (frozen : registry.frozen = true) (step : Step) :
    Preserves number registry step.run := by
  cases step with
  | addRouter => exact (preserves_addSite _).discard
  | addHosts => exact (preserves_addSite _).discard
  | addSchemes => exact (preserves_addSite _).discard
  | addPipeline => exact preserves_addPipeline.discard
  | changePipeline => exact preserves_modify fun _ holds => holds
  | route => exact preserves_route frozen _ _ _ _
  | register => exact preserves_register frozen _ _ _ _ _
  | mount => exact preserves_mount frozen _ _ _ _
  | startGroup => exact (preserves_startGroup _).discard
  | finishGroup => exact preserves_mount frozen _ _ _ _
  | use => exact preserves_use frozen _ _
  | setFallback => exact preserves_setFallback frozen _ _
  | registerHost =>
    rw [Step.run]
    exact preserves_registerHost frozen _ _ _
  | changeSchemes => exact preserves_changeSchemes _ _
  | freeze => exact preserves_freeze frozen _
  | resolve => exact (preserves_resolve frozen _ _ _).discard
  | call => exact (preserves_callSite frozen _ _).discard
  | act => exact preserves_run frozen _

end Session

namespace Deployment

variable {deployment : Deployment} {number : Nat} {registry : Registry}

private theorem after_append (deployment : Deployment) (steps later : List Session.Step) :
    deployment.after (steps ++ later) = (deployment.after steps).after later :=
  List.foldl_append

/-- No run of steps changes a frozen router. -/
theorem Holds.after (holds : deployment.Holds number registry) (frozen : registry.frozen = true)
    (steps : List Session.Step) : (deployment.after steps).Holds number registry := by
  induction steps generalizing deployment with
  | nil => exact holds
  | cons step steps ih => exact ih (ended_const_iff.mp (step.preserves frozen deployment holds))

end Deployment

namespace Session

open Deployment

variable {α β : Type} {deployment : Deployment} {number : Nat} {registry : Registry}

/-- Whether an operation does to every deployment what some run of steps does. -/
def Scripted (work : Session α) : Prop :=
  ∀ deployment, ∃ steps, (work deployment).2 = deployment.after steps

theorem Scripted.bind {work : Session α} {next : α → Session β} (first : Scripted work)
    (second : ∀ value, Scripted (next value)) : Scripted (work >>= next) := by
  intro deployment
  obtain ⟨steps, same⟩ := first deployment
  rw [run_bind]
  generalize work deployment = run at same ⊢
  obtain ⟨result, middle⟩ := run
  cases result with
  | error fault => exact ⟨steps, same⟩
  | ok value =>
    obtain ⟨later, same'⟩ := second value middle
    refine ⟨steps ++ later, same'.trans ?_⟩
    rw [after_append, ← same]

namespace Call

/-- Whether what builds the group of a call is a run of steps. -/
def Scripted : Call → Prop
  | group _ build => ∀ group, Session.Scripted (build group)
  | _ => True

/-- What a refusal of a call names. -/
def target : Call → String
  | route path _ _ | register _ path _ _ | mount path _ _ | group path _ => path
  | use _ => "use"
  | fallback _ => "fallback"

end Call

end Session

end HttpRouting

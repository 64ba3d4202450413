import HttpRouting.Proofs.Registering
import HttpRouting.Proofs.Runs

/-! # What a refused call leaves

A call on a router may write to the world and freeze other routers before it is refused. `Deployment.Alike`
says that two deployments agree on one router, and on other routers up to their being frozen, which is as
much as the next call on that router can tell. A refused call leads to an alike deployment, and from alike
deployments the same call gives the same result.
-/

namespace HttpRouting

namespace Deployment

/-- Whether two deployments have the same router at a number, and whether the first `count` sites beside it
would be mounted alike. -/
structure Alike (number count : Nat) (one other : Deployment) : Prop where
  quiet : one.Quiet
  quiet' : other.Quiet
  registered : ∃ registry, one.registryAt? number = some registry
  same : other.registryAt? number = one.registryAt? number
  pipelines : other.pipelines = one.pipelines
  settings : ∀ site < count, site ≠ number →
    (other.registryAt? site).map (·.index.settings) = (one.registryAt? site).map (·.index.settings)
  frozen : ∀ site < count, site ≠ number → other.frozenAt site = one.frozenAt site

namespace Alike

variable {number count : Nat} {first second third : Deployment}

theorem refl (quiet : first.Quiet) {registry : Registry}
    (site : first.registryAt? number = some registry) : Alike number count first first :=
  ⟨quiet, quiet, ⟨registry, site⟩, rfl, rfl, fun _ _ _ => rfl, fun _ _ _ => rfl⟩

theorem symm (alike : Alike number count first second) : Alike number count second first :=
  ⟨alike.quiet', alike.quiet, alike.same ▸ alike.registered, alike.same.symm, alike.pipelines.symm,
    fun site within differs => (alike.settings site within differs).symm,
    fun site within differs => (alike.frozen site within differs).symm⟩

theorem trans (alike : Alike number count first second) (alike' : Alike number count second third) :
    Alike number count first third :=
  ⟨alike.quiet, alike'.quiet', alike.registered, alike'.same.trans alike.same,
    alike'.pipelines.trans alike.pipelines,
    fun site within differs => (alike'.settings site within differs).trans (alike.settings site within differs),
    fun site within differs => (alike'.frozen site within differs).trans (alike.frozen site within differs)⟩

theorem self (alike : Alike number count first second) : Alike number count second second :=
  alike.symm.trans alike

theorem layers (alike : Alike number count first second) : second.layers = first.layers := by
  rw [Deployment.layers, Deployment.layers, alike.pipelines]

/-- What is written to the world makes no difference. -/
theorem withWorld (alike : Alike number count first second) {world : World} (unnoted : world.closed = []) :
    Alike number count first { second with world } :=
  ⟨alike.quiet, unnoted, alike.registered, alike.same, alike.pipelines, alike.settings, alike.frozen⟩

/-- Deployments stay alike when they are given the same router. -/
theorem setSite (alike : Alike number count first second) (registry : Registry) :
    Alike number count (first.setSite number (.paths registry))
      (second.setSite number (.paths registry)) := by
  obtain ⟨before, site⟩ := alike.registered
  have placed := registryAt?_setSite_self site registry
  have placed' := registryAt?_setSite_self (alike.same.trans site) registry
  have kept : ∀ (deployment : Deployment) {other : Nat}, other ≠ number →
      (deployment.setSite number (.paths registry)).registryAt? other = deployment.registryAt? other :=
    fun deployment _ differs => registryAt?_congr (sites_setSite_of_ne differs _)
  have kept' : ∀ (deployment : Deployment) {other : Nat}, other ≠ number →
      (deployment.setSite number (.paths registry)).frozenAt other = deployment.frozenAt other :=
    fun deployment _ differs => frozenAt_congr (kept deployment differs) rfl
  refine ⟨alike.quiet, alike.quiet', ⟨registry, placed⟩, placed'.trans placed.symm, alike.pipelines, ?_, ?_⟩
  · intro other within differs
    rw [kept first differs, kept second differs]
    exact alike.settings other within differs
  · intro other within differs
    rw [kept' first differs, kept' second differs]
    exact alike.frozen other within differs

end Alike

variable {deployment : Deployment}

/-- A router that has been frozen has the settings that it had before. -/
theorem frozenAt_eq_ok {number : Nat} {frozen : Registry} (done : deployment.frozenAt number = .ok frozen) :
    ∃ registry endpoint, deployment.registryAt? number = some registry ∧
      frozen = { registry with dispatcher := some endpoint } := by
  cases site : deployment.registryAt? number with
  | none =>
    rw [frozenAt_of_none site] at done
    cases done
  | some registry =>
    cases closed : registry.dispatcher with
    | some endpoint =>
      rw [frozenAt_of_closed site closed] at done
      cases done
      exact ⟨frozen, endpoint, rfl, by rw [← closed]⟩
    | none =>
      rw [frozenAt_of_open site closed] at done
      cases built : (registry.settled deployment.layers).chain with
      | error fault =>
        rw [built] at done
        cases done
      | ok endpoint =>
        rw [built] at done
        cases done
        exact ⟨registry, endpoint, rfl, rfl⟩

/-- Freezing a site again changes nothing. -/
theorem frozenAt_of_freezes {number : Nat} {after : Deployment}
    (freezes : Session.Freezes deployment number after) : after.frozenAt number = deployment.frozenAt number := by
  cases done : deployment.frozenAt number with
  | error fault =>
    rw [freezes.refused fault done]
    exact done
  | ok frozen =>
    have placed := freezes.done frozen done
    obtain ⟨before, endpoint, _, rfl⟩ := frozenAt_eq_ok done
    exact frozenAt_of_closed placed rfl

/-- Freezing another router makes no difference to a mount: what is mounted is the frozen router. -/
theorem alike_of_freezes {number count other : Nat} {registry : Registry} {after : Deployment}
    (quiet : deployment.Quiet) (site : deployment.registryAt? number = some registry) (differs : other ≠ number)
    (freezes : Session.Freezes deployment other after) : Alike number count deployment after := by
  have elsewhere : ∀ {place}, place ≠ other → after.registryAt? place = deployment.registryAt? place :=
    fun differs => registryAt?_congr (freezes.others _ differs)
  have here : (after.registryAt? other).map (·.index.settings) =
      (deployment.registryAt? other).map (·.index.settings) := by
    cases done : deployment.frozenAt other with
    | error fault => rw [freezes.refused fault done]
    | ok frozen =>
      have placed := freezes.done frozen done
      obtain ⟨before, endpoint, held, rfl⟩ := frozenAt_eq_ok done
      rw [placed, held]
      rfl
  refine ⟨quiet, freezes.quiet, ⟨registry, site⟩, elsewhere differs.symm, freezes.pipelines, ?_, ?_⟩
  · intro place _ _
    by_cases same : place = other
    · exact same ▸ here
    · rw [elsewhere same]
  · intro place _ _
    by_cases same : place = other
    · exact same ▸ frozenAt_of_freezes freezes
    · exact frozenAt_congr (elsewhere same) freezes.pipelines

/-- Whether the router of a number is one that has been continued by new routes. -/
def Continued (number : Nat) (before : Registry) (deployment : Deployment) : Prop :=
  deployment.Quiet ∧ ∃ after, deployment.registryAt? number = some after ∧ before.Continues after

/-- The router at a number as it would be mounted, if the site is a router that may be mounted. -/
def childAt (deployment : Deployment) (parent : Router) (head : Pattern) (number : Nat) :
    Outcome (Option Router) :=
  match deployment.registryAt? number with
  | none => .ok none
  | some child => do
    parent.requireAlike child.toRouter head
    return some ((← deployment.frozenAt number).toRouter.settled deployment.layers)

private theorem requireAlike_congr {parent child child' : Router} (same : child'.index.settings = child.index.settings)
    (head : Pattern) : parent.requireAlike child' head = parent.requireAlike child head := by
  rw [Router.requireAlike, Router.requireAlike, Router.settingsDiffer, Router.settingsDiffer, same]

theorem Alike.childAt {number count : Nat} {other : Deployment}
    (alike : Alike number count deployment other) {site : Nat} (within : site < count) (differs : site ≠ number)
    (parent : Router) (head : Pattern) :
    other.childAt parent head site = deployment.childAt parent head site := by
  have settings := alike.settings site within differs
  rw [Deployment.childAt, Deployment.childAt, alike.frozen site within differs, alike.layers]
  cases held : deployment.registryAt? site with
  | none =>
    rw [held] at settings
    rw [Option.map_eq_none_iff.mp settings]
  | some child =>
    rw [held] at settings
    obtain ⟨child', held', settings⟩ := Option.map_eq_some_iff.mp settings
    rw [held']
    dsimp only
    rw [requireAlike_congr settings]

end Deployment

namespace Session

open Deployment

variable {α β : Type} {number count : Nat} {deployment : Deployment}

/-- The router that would be mounted, which is frozen by that if it is not refused before. -/
theorem childRouter?_eq (quiet : deployment.Quiet) (parent : Router) (head : Pattern) (other : Nat) :
    ∃ after, childRouter? parent head other deployment = (deployment.childAt parent head other, after) ∧
      (after = deployment ∨ Freezes deployment other after) := by
  have looked : (get : Session Deployment) deployment = (.ok deployment, deployment) := rfl
  rw [childRouter?, run_bind_of_ok looked, Deployment.childAt]
  cases deployment.registryAt? other with
  | none => exact ⟨deployment, rfl, .inl rfl⟩
  | some child =>
    dsimp only
    cases parent.requireAlike child.toRouter head with
    | error fault => exact ⟨deployment, rfl, .inl rfl⟩
    | ok value =>
      have passed : lift (.ok value) deployment = (.ok value, deployment) := rfl
      rw [run_bind_of_ok passed]
      obtain ⟨after, froze, freezes⟩ := freeze_eq quiet other
      refine ⟨after, ?_, .inr freezes⟩
      cases done : deployment.frozenAt other with
      | error fault =>
        rw [done] at froze
        exact run_bind_of_error froze
      | ok registry =>
        rw [done] at froze
        have layers : after.layers = deployment.layers := by
          rw [Deployment.layers, Deployment.layers, freezes.pipelines]
        refine (run_bind_of_ok froze).trans ?_
        rw [run_bind_of_ok (router_of_some (freezes.done registry done)), ← layers]
        rfl

/-- Whether an operation makes no difference to the router of a number. -/
def Spares (number count : Nat) (work : Session α) : Prop :=
  ∀ start, Meets (Alike number count start) work (fun _ => Alike number count start) (Alike number count start)

/-- Whether an operation makes no difference to the router of a number when it throws, and else has added
no other routes than new ones. -/
def Registers (number count : Nat) (work : Session α) : Prop :=
  ∀ start before, start.registryAt? number = some before →
    Meets (Alike number count start) work (fun _ => Continued number before) (Alike number count start)

/-- Whether an operation does the same on alike deployments, which stay alike. -/
def Local (number count : Nat) (work : Session α) : Prop :=
  ∀ one other, Alike number count one other →
    (work other).1 = (work one).1 ∧ Alike number count (work one).2 (work other).2

theorem Spares.bind {work : Session α} {next : α → Session β} (first : Spares number count work)
    (second : ∀ value, Registers number count (next value)) : Registers number count (work >>= next) :=
  fun start before site => (first start).bind fun value => second value start before site

theorem Registers.discard {work : Session α} (registers : Registers number count work) :
    Registers number count (discard work) :=
  fun start before site => (registers start before site).bind fun _ => .of_pure fun _ continued => continued

/-- What is logged about a change is written to the world. -/
theorem Registers.andLog {work : Session α} (registers : Registers number count work) {logger : α → Option Logger}
    {level : Level} {message : String} {context : α → LogContext} :
    Registers number count (do
      let value ← work
      log (logger value) level message (context value)) := by
  intro start before site
  refine (registers start before site).bind fun value => ?_
  rintro deployment ⟨quiet, after, placed, continues⟩
  obtain ⟨world, unnoted, logged⟩ := log_eq quiet (logger value) level message (context value)
  rw [logged]
  exact ⟨unnoted, after, placed, continues⟩

private theorem spares_lift (outcome : Outcome α) : Spares number count (lift outcome) :=
  fun _ => (looks_lift outcome).meets fun _ alike => alike

private theorem spares_get : Spares number count get :=
  fun _ => .of_get fun _ alike => alike

private theorem spares_router (other : Nat) : Spares number count (router other) :=
  fun _ => (looks_router other).meets fun _ alike => alike

/-- Mounting a router makes no difference to another one before that is changed itself. -/
theorem spares_childRouter? (parent : Router) (head : Pattern) {other : Nat} (differs : other ≠ number) :
    Spares number count (childRouter? parent head other) := by
  intro start deployment alike
  obtain ⟨after, ran, kept⟩ := childRouter?_eq alike.quiet' parent head other
  rw [ran]
  refine ended_const_iff.mpr ?_
  rcases kept with rfl | freezes
  · exact alike
  · obtain ⟨registry, site⟩ := alike.self.registered
    exact alike.trans (alike_of_freezes alike.quiet' site differs freezes)

/-- A program that changes nothing when it throws is refused without a trace. -/
theorem registers_change {program : Registering Unit} (registers : Registering.Registers program) :
    Registers number count (change number program) := by
  intro start before first deployment alike
  have site : deployment.registryAt? number = some before := alike.same.trans first
  obtain ⟨world, unnoted, changed⟩ := change_eq alike.quiet' site program
  have ended := registers before before rfl
  rw [changed]
  have site' : { deployment with world }.registryAt? number = some before := site
  have placed := registryAt?_setSite_self site'
  generalize program before = run at ended ⊢
  obtain ⟨result, final⟩ := run
  cases result with
  | ok => exact ⟨unnoted, final, placed final, ended⟩
  | error fault =>
    obtain rfl : final = before := ended
    have kept : { deployment with world }.setSite number (.paths final) = { deployment with world } :=
      setSite_registry site'
    change Alike number count start ({ deployment with world }.setSite number (.paths final))
    rw [kept]
    exact alike.withWorld unnoted

private theorem registers_route (path : String) (handlers : Fields (Option Handler)) (options : RouteOptions) :
    Registers number count (route number path handlers options) :=
  spares_get.bind fun _ => (registers_change (Registering.registers_route path handlers _)).discard

private theorem registers_register (selectors : List String) (path : String) (handler : Handler)
    (options : RouteOptions) : Registers number count (register number selectors path handler options) :=
  spares_get.bind fun _ => (registers_change (Registering.registers_register selectors path handler _)).discard

private theorem registers_use (middleware : Middleware) : Registers number count (use number middleware) :=
  (registers_change (Registering.registers_use middleware)).discard

theorem setFallback_of_some {registry : Registry} (site : deployment.registryAt? number = some registry)
    (handler : Handler) : setFallback number handler deployment =
      (discard (change number (.withFallback handler)) : Session Unit) deployment := by
  have looked : (get : Session Deployment) deployment = (.ok deployment, deployment) := rfl
  rw [setFallback, run_bind_of_ok looked, site]

private theorem registers_setFallback (handler : Handler) : Registers number count (setFallback number handler) := by
  intro start before first deployment alike
  rw [setFallback_of_some (alike.same.trans first)]
  exact (registers_change (Registering.registers_withFallback handler)).discard start before first deployment
    alike

private theorem registers_mountHandler (head : Pattern) (strip : Bool) (handler : Handler) :
    Registers number count (mountHandler number head strip handler) :=
  (registers_change (Registering.registers_mountOn head strip _)).andLog

private theorem registers_mountSite (parent : Router) (head : Pattern) (strip : Bool) {other : Nat}
    (differs : other ≠ number) : Registers number count (mountSite number parent head strip other) := by
  refine (spares_childRouter? parent head differs).bind fun found => ?_
  split
  · exact registers_mountHandler head strip _
  · exact (registers_change (Registering.registers_mountOn head strip _)).andLog

/-- Only what is not the router itself gets past the check. -/
theorem requireOther_cases (number : Nat) (path : String) (child : Child) :
    requireOther number path child = throw (.registration ⟨path, .selfMount, none⟩) ∨
      child ≠ .site number ∧ requireOther number path child = pure () := by
  cases child with
  | handler handler => exact .inr ⟨Child.noConfusion, rfl⟩
  | site other =>
    rw [requireOther]
    split_ifs with same
    · exact .inl rfl
    · exact .inr ⟨fun equal => same (Child.site.inj equal), rfl⟩

private theorem registers_mount (path : String) (child : Child) (strip : Bool) :
    Registers number count (mount number path child strip) := by
  refine (spares_router number).bind fun parent => (spares_lift _).bind fun _ => ?_
  rcases requireOther_cases number path child with refused | ⟨unlike, passed⟩
  · rw [refused]
    exact fun _ _ _ _ alike => alike
  · rw [passed, pure_bind]
    refine (spares_lift _).bind fun head => ?_
    cases child with
    | handler handler => exact registers_mountHandler head strip handler
    | site other => exact registers_mountSite parent head strip fun same => unlike (same ▸ rfl)

theorem Local.bind {work : Session α} {next : α → Session β} (first : Local number count work)
    (second : ∀ value, Local number count (next value)) : Local number count (work >>= next) := by
  intro one other alike
  obtain ⟨same, alike⟩ := first one other alike
  rw [run_bind, run_bind, same]
  generalize (work one).1 = result
  cases result with
  | ok value => exact second value _ _ alike
  | error fault => exact ⟨rfl, alike⟩

/-- An operation that makes no difference leaves alike deployments alike. -/
theorem local_of_spares {work : Session α} (spares : Spares number count work)
    (same : ∀ one other, Alike number count one other → (work other).1 = (work one).1) :
    Local number count work := by
  have kept : ∀ start, Alike number count start start → Alike number count start (work start).2 :=
    fun start alike => ended_const_iff.mp (spares start start alike)
  intro one other alike
  refine ⟨same one other alike, ?_⟩
  exact (kept one alike.symm.self).symm.trans (alike.trans (kept other alike.self))

private theorem local_lift (outcome : Outcome α) : Local number count (lift outcome) := by
  refine local_of_spares (spares_lift outcome) fun one other _ => ?_
  cases outcome <;> rfl

private theorem local_pure (value : α) : Local number count (pure value : Session α) :=
  fun _ _ alike => ⟨rfl, alike⟩

theorem Local.discard {work : Session α} (same : Local number count work) :
    Local number count (discard work) :=
  same.bind fun _ => local_pure ()

private theorem local_router : Local number count (router number) := by
  refine local_of_spares (spares_router number) fun one other alike => ?_
  obtain ⟨registry, site⟩ := alike.registered
  rw [router_of_some site, router_of_some (alike.same.trans site)]

/-- Looking at a deployment is fine for what looks only at what alike deployments have in common. -/
theorem local_get_bind {next : Deployment → Session α}
    (common : ∀ one other, Alike number count one other → next other = next one ∧ Local number count (next one)) :
    Local number count (get >>= next) := by
  intro one other alike
  obtain ⟨same, each⟩ := common one other alike
  change (next other other).1 = (next one one).1 ∧ Alike number count (next one one).2 (next other other).2
  rw [same]
  exact each one other alike

private theorem local_log (logger : Option Logger) (level : Level) (message : String) (context : LogContext) :
    Local number count (log logger level message context) := by
  intro one other alike
  obtain ⟨world, unnoted, logged⟩ := log_eq alike.quiet logger level message context
  obtain ⟨world', unnoted', logged'⟩ := log_eq alike.quiet' logger level message context
  rw [logged, logged']
  exact ⟨rfl, ((alike.withWorld unnoted').symm.withWorld unnoted).symm⟩

theorem local_change (program : Registering Unit) : Local number count (change number program) := by
  intro one other alike
  obtain ⟨before, site⟩ := alike.registered
  obtain ⟨world, unnoted, changed⟩ := change_eq alike.quiet site program
  obtain ⟨world', unnoted', changed'⟩ := change_eq alike.quiet' (alike.same.trans site) program
  rw [changed, changed']
  exact ⟨rfl, ((alike.withWorld unnoted').symm.withWorld unnoted).symm.setSite _⟩

private theorem local_childRouter? (parent : Router) (head : Pattern) {other : Nat} (within : other < count)
    (differs : other ≠ number) : Local number count (childRouter? parent head other) := by
  refine local_of_spares (spares_childRouter? parent head differs) fun one another alike => ?_
  obtain ⟨after, ran, _⟩ := childRouter?_eq alike.quiet parent head other
  obtain ⟨after', ran', _⟩ := childRouter?_eq alike.quiet' parent head other
  rw [ran, ran']
  exact alike.childAt within differs parent head

private theorem local_route (path : String) (handlers : Fields (Option Handler)) (options : RouteOptions) :
    Local number count (route number path handlers options) := by
  refine local_get_bind fun one other alike => ⟨?_, (local_change _).discard⟩
  rw [alike.layers]

private theorem local_register (selectors : List String) (path : String) (handler : Handler)
    (options : RouteOptions) : Local number count (register number selectors path handler options) := by
  refine local_get_bind fun one other alike => ⟨?_, (local_change _).discard⟩
  rw [alike.layers]

private theorem local_use (middleware : Middleware) : Local number count (use number middleware) :=
  (local_change _).discard

private theorem local_setFallback (handler : Handler) : Local number count (setFallback number handler) := by
  intro one other alike
  obtain ⟨registry, site⟩ := alike.registered
  rw [setFallback_of_some site, setFallback_of_some (alike.same.trans site)]
  exact (local_change _).discard one other alike

private theorem local_mountHandler (head : Pattern) (strip : Bool) (handler : Handler) :
    Local number count (mountHandler number head strip handler) :=
  (local_change _).bind fun _ => local_log _ _ _ _

private theorem local_mountSite (parent : Router) (head : Pattern) (strip : Bool) {other : Nat}
    (within : other < count) (differs : other ≠ number) :
    Local number count (mountSite number parent head strip other) := by
  refine (local_childRouter? parent head within differs).bind fun found => ?_
  split
  · exact local_mountHandler head strip _
  · exact (local_change _).bind fun _ => local_log _ _ _ _

private theorem local_mount (path : String) {child : Child} (within : ∀ other, child = .site other → other < count)
    (strip : Bool) : Local number count (mount number path child strip) := by
  refine local_router.bind fun parent => (local_lift _).bind fun _ => ?_
  rcases requireOther_cases number path child with refused | ⟨unlike, passed⟩
  · rw [refused]
    exact fun _ _ alike => ⟨rfl, alike⟩
  · rw [passed, pure_bind]
    refine (local_lift _).bind fun head => ?_
    cases child with
    | handler handler => exact local_mountHandler head strip handler
    | site other => exact local_mountSite parent head strip (within other rfl) fun same => unlike (same ▸ rfl)

end Session

namespace Deployment

variable {deployment after : Deployment}

/-- What work on one site leaves of the other ones: all of them. Sites may be added. -/
structure KeepsOthers (number : Nat) (deployment after : Deployment) : Prop where
  quiet : after.Quiet
  pipelines : after.pipelines = deployment.pipelines
  others : ∀ place < deployment.sites.length, place ≠ number → after.sites[place]? = deployment.sites[place]?

theorem KeepsOthers.refl (quiet : deployment.Quiet) (number : Nat) : KeepsOthers number deployment deployment :=
  ⟨quiet, rfl, fun _ _ _ => rfl⟩

theorem KeepsOthers.trans {number : Nat} {final : Deployment} (first : KeepsOthers number deployment after)
    (second : KeepsOthers number after final) : KeepsOthers number deployment final := by
  refine ⟨second.quiet, second.pipelines.trans first.pipelines, fun place within differs => ?_⟩
  have same := first.others place within differs
  have within' : place < after.sites.length := by
    rw [List.getElem?_eq_getElem within] at same
    exact (List.getElem?_eq_some_iff.mp same).1
  exact (second.others place within' differs).trans same

/-- Deployments are alike as far as they have the same sites. -/
theorem alike_of_sites {number count : Nat} {registry : Registry} (quiet : deployment.Quiet)
    (quiet' : after.Quiet) (site : deployment.registryAt? number = some registry)
    (pipelines : after.pipelines = deployment.pipelines) (early : number < count)
    (same : ∀ place < count, after.sites[place]? = deployment.sites[place]?) :
    Alike number count deployment after := by
  have registries : ∀ place < count, after.registryAt? place = deployment.registryAt? place :=
    fun place within => registryAt?_congr (same place within)
  refine ⟨quiet, quiet', ⟨registry, site⟩, registries number early, pipelines, ?_, ?_⟩
  · intro place within _
    rw [registries place within]
  · intro place within _
    exact frozenAt_congr (registries place within) pipelines

end Deployment

namespace Session

open Deployment

variable {α β : Type} {number : Nat} {deployment : Deployment}

/-- Whether an operation touches no site but one, beside those that it adds. -/
def TouchesOnly (number : Nat) (work : Session α) : Prop :=
  ∀ deployment : Deployment, deployment.Quiet → KeepsOthers number deployment (work deployment).2

theorem TouchesOnly.bind {work : Session α} {next : α → Session β} (first : TouchesOnly number work)
    (second : ∀ value, TouchesOnly number (next value)) : TouchesOnly number (work >>= next) := by
  intro deployment quiet
  have kept := first deployment quiet
  rw [run_bind]
  generalize work deployment = run at kept ⊢
  obtain ⟨result, middle⟩ := run
  cases result with
  | ok value => exact kept.trans (second value middle kept.quiet)
  | error fault => exact kept

private theorem touchesOnly_pure (value : α) : TouchesOnly number (pure value) :=
  fun _ quiet => .refl quiet number

private theorem touchesOnly_get : TouchesOnly number get :=
  fun _ quiet => .refl quiet number

private theorem touchesOnly_change (program : Registering Unit) : TouchesOnly number (change number program) := by
  intro deployment quiet
  cases site : deployment.registryAt? number with
  | none =>
    rw [change, run_bind_of_error (registry_of_none site)]
    exact .refl quiet number
  | some before =>
    obtain ⟨world, unnoted, changed⟩ := change_eq quiet site program
    rw [changed]
    exact ⟨unnoted, rfl, fun _ _ differs => sites_setSite_of_ne differs _⟩

private theorem touchesOnly_register (selectors : List String) (path : String) (handler : Handler)
    (options : RouteOptions) : TouchesOnly number (register number selectors path handler options) :=
  touchesOnly_get.bind fun _ => (touchesOnly_change _).bind fun _ => touchesOnly_pure ()

/-- A call on a router that is to change it. -/
inductive Call where
  | route (path : String) (handlers : Fields (Option Handler)) (options : RouteOptions)
  | register (selectors : List String) (path : String) (handler : Handler) (options : RouteOptions)
  | mount (path : String) (child : Child) (strip : Bool)
  | group (path : String) (build : Nat → Session Unit)
  | use (middleware : Middleware)
  | fallback (handler : Handler)

namespace Call

def run (number : Nat) : Call → Session Unit
  | route path handlers options => Session.route number path handlers options
  | register selectors path handler options => Session.register number selectors path handler options
  | mount path child strip => Session.mount number path child strip
  | group path build => Session.group number path build
  | use middleware => Session.use number middleware
  | fallback handler => Session.setFallback number handler

/-- Whether what builds the group of a call touches only the group. -/
def Contained : Call → Prop
  | group _ build => ∀ number, TouchesOnly number (build number)
  | _ => True

/-- Whether a call is one of those that do not make a group, and mounts no site but one of the first
`count`. -/
def Direct (count : Nat) : Call → Prop
  | mount _ child _ => ∀ other, child = .site other → other < count
  | group _ _ => False
  | _ => True

end Call

/-- A group is built beside all the sites that there were. -/
theorem group_ended (quiet : deployment.Quiet) {registry : Registry}
    (site : deployment.registryAt? number = some registry) (path : String) {build : Nat → Session Unit}
    (contained : ∀ group, TouchesOnly group (build group)) :
    Ended (fun _ => Continued number registry) (Alike number deployment.sites.length deployment)
      (group number path build deployment) := by
  let place := deployment.sites.length
  let begun : Deployment :=
    { deployment with sites := deployment.sites ++ [.paths { toRouter := registry.sibling }] }
  have early : number < place := lt_of_registryAt? site
  have started : startGroup number deployment = (.ok place, begun) := run_bind_of_ok (router_of_some site)
  have steps : group number path build deployment =
      (build place >>= fun _ => finishGroup number path place) begun := run_bind_of_ok started
  have kept : KeepsOthers place begun (build place begun).2 := contained place begun quiet
  have alike : Alike number place deployment (build place begun).2 := by
    refine alike_of_sites quiet kept.quiet site kept.pipelines early fun other within => ?_
    have longer : other < begun.sites.length := by
      rw [List.length_append]
      exact Nat.lt_add_right 1 within
    exact (kept.others other longer within.ne).trans (List.getElem?_append_left within)
  rw [steps, run_bind]
  generalize build place begun = run at alike ⊢
  obtain ⟨result, built⟩ := run
  cases result with
  | ok => exact registers_mount path (.site place) false deployment registry site built alike
  | error fault => exact alike

/-- A call that is refused leads to an alike deployment, and any other one continues the router. -/
theorem Call.ended {call : Call} (contained : call.Contained) (quiet : deployment.Quiet) {registry : Registry}
    (site : deployment.registryAt? number = some registry) :
    Ended (fun _ => Continued number registry) (Alike number deployment.sites.length deployment)
      (call.run number deployment) := by
  have alike : Alike number deployment.sites.length deployment deployment := .refl quiet site
  have ended : ∀ {work : Session Unit}, Registers number deployment.sites.length work →
      Ended (fun _ => Continued number registry) (Alike number deployment.sites.length deployment)
        (work deployment) := fun registers => registers deployment registry site deployment alike
  cases call with
  | route path handlers options => exact ended (registers_route path handlers options)
  | register selectors path handler options => exact ended (registers_register selectors path handler options)
  | mount path child strip => exact ended (registers_mount path child strip)
  | group path build => exact group_ended quiet site path contained
  | use middleware => exact ended (registers_use middleware)
  | fallback handler => exact ended (registers_setFallback handler)

/-- Refused or not, a call continues the router. -/
theorem Call.continues {call : Call} (contained : call.Contained) (quiet : deployment.Quiet)
    {registry : Registry} (site : deployment.registryAt? number = some registry) :
    ∃ after, (call.run number deployment).2.registryAt? number = some after ∧ registry.Continues after := by
  have ended := Call.ended contained quiet site
  generalize call.run number deployment = run at ended ⊢
  obtain ⟨result, final⟩ := run
  cases result with
  | ok => exact ended.2
  | error fault => exact ⟨registry, ended.same.trans site, Registry.continues_of_routes_eq rfl⟩

/-- A direct call does the same on alike deployments. -/
theorem Call.local_run {count : Nat} {call : Call} (direct : call.Direct count) :
    Local number count (call.run number) := by
  cases call with
  | route path handlers options => exact local_route path handlers options
  | register selectors path handler options => exact local_register selectors path handler options
  | mount path child strip => exact local_mount path direct strip
  | group path build => exact direct.elim
  | use middleware => exact local_use middleware
  | fallback handler => exact local_setFallback handler

end Session

namespace Deployment

variable {deployment after : Deployment}

/-- A call that is refused leaves the router that it was made on as it was: with its routes and their order
numbers, its names, its middleware and its fallback. Its paths are the same for every name and every choice of
values, and it resolves every method and path as before. A later call gives its routes the order numbers that
come next for the router as it was, and a direct one is accepted or refused as if the refused one had not been
made, and makes the same of the router. -/
theorem Reached.call_refused (reached : deployment.Reached) {number : Nat} {registry : Registry}
    (site : deployment.registryAt? number = some registry) {call : Session.Call} (contained : call.Contained)
    {fault : Fault} (refused : call.run number deployment = (.error fault, after)) :
    after.registryAt? number = some registry ∧
    (∀ name params, (Session.url number name params after).1 = (Session.url number name params deployment).1) ∧
    (∀ method path,
      (Session.resolve number method path after).1 = (Session.resolve number method path deployment).1) ∧
    (∀ later : Session.Call, later.Contained → ∀ start, start = deployment ∨ start = after →
      ∃ final, (later.run number start).2.registryAt? number = some final ∧ registry.Continues final) ∧
    ∀ later : Session.Call, later.Direct deployment.sites.length →
      (later.run number after).1 = (later.run number deployment).1 ∧
      (later.run number after).2.registryAt? number = (later.run number deployment).2.registryAt? number := by
  have quiet := reached.regular.quiet
  have ended := call.ended contained quiet site
  rw [refused] at ended
  have alike : Alike number deployment.sites.length deployment after := ended
  have site' : after.registryAt? number = some registry := alike.same.trans site
  refine ⟨site', fun name params => ?_, fun method path => ?_, ?_, fun later direct => ?_⟩
  · rw [Session.url, run_bind_of_ok (Session.registry_of_some site),
      run_bind_of_ok (Session.registry_of_some site')]
    cases registry.url name params <;> rfl
  · rw [Session.resolve_eq alike.quiet', Session.resolve_eq quiet]
    rw [frozenAt_congr alike.same alike.pipelines]
  · rintro later inside start (rfl | rfl)
    · exact later.continues inside quiet site
    · exact later.continues inside alike.quiet' site'
  · obtain ⟨same, alike⟩ := Session.Call.local_run direct deployment after alike
    exact ⟨same, alike.same⟩

/-- A router with a route below a path. -/
def adminRouter : Deployment :=
  Deployment.after {} [.addRouter {} none,
    .register 0 ["GET"] "/admin/stats" (.endpoint .notFound) { name := some "stats" }]

/-- A group under that path whose first route is fit for the router and whose second one is not. -/
def adminGroup : Session.Call :=
  .group "/admin" fun group => do
    Session.register group ["GET"] "/users" (.endpoint .notFound) {}
    Session.register group ["GET"] "/stats" (.endpoint .notFound) {}

theorem call_refused_adminGroup : adminRouter.Reached ∧ adminGroup.Contained ∧ ∃ registry fault after,
    adminRouter.registryAt? 0 = some registry ∧ registry.routes.length = 1 ∧
    adminGroup.run 0 adminRouter = (.error fault, after) ∧ after.registryAt? 0 = some registry ∧
    (∀ method path,
      (Session.resolve 0 method path after).1 = (Session.resolve 0 method path adminRouter).1) ∧
    ∃ final, (Session.register 0 ["GET"] "/admin/users" (.endpoint .notFound) {} after).2.registryAt? 0 =
      some final ∧ registry.Continues final := by
  have reached : adminRouter.Reached := (Reached.start rfl).after _
  have contained : adminGroup.Contained := fun _ =>
    (Session.touchesOnly_register _ _ _ _).bind fun _ => Session.touchesOnly_register _ _ _ _
  have held : (adminRouter.registryAt? 0).map (·.routes.length) = some 1 := by decide +kernel
  have threw : (adminGroup.run 0 adminRouter).1.isOk = false := by decide +kernel
  obtain ⟨registry, site, count⟩ := Option.map_eq_some_iff.mp held
  rcases refused : adminGroup.run 0 adminRouter with ⟨result, after⟩
  rw [refused] at threw
  cases result with
  | ok => cases threw
  | error fault =>
    obtain ⟨same, -, resolved, continued, -⟩ := reached.call_refused site contained refused
    refine ⟨reached, contained, registry, fault, after, site, count, rfl, same, resolved, ?_⟩
    exact continued (.register ["GET"] "/admin/users" (.endpoint .notFound) {}) trivial after (.inr rfl)

end Deployment

end HttpRouting

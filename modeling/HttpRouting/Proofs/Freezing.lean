import HttpRouting.Proofs.FrozenRouters
import HttpRouting.Proofs.Serving

/-! # How routers are frozen

A router is frozen by being told to, by resolving a path, by answering a request and by being mounted. However it
comes about, it gets a dispatcher and keeps all else that it had; so a router decides about a path as it would have
decided if it had been frozen before, and goes on to do so.

Whether a request is then answered does not matter: the dispatcher is there before anything is asked for an answer.
A router that is passed a request in the middle of another one is noted in the world, and frozen when that one has
been answered.
-/

namespace HttpRouting

namespace Deployment

variable {deployment : Deployment} {number : Nat} {registry : Registry}

/-- Whether the router of a number is the given one, but frozen. -/
def Sealed (number : Nat) (registry : Registry) (deployment : Deployment) : Prop :=
  ∃ endpoint, deployment.Holds number { registry with dispatcher := some endpoint }

private theorem frozen_of_frozenAt {frozen : Registry} (done : deployment.frozenAt number = .ok frozen) :
    frozen.frozen = true := by
  obtain ⟨before, endpoint, _, rfl⟩ := frozenAt_eq_ok done
  rfl

private theorem holds_closeAll_of_mem {frozen : Registry} (done : deployment.frozenAt number = .ok frozen)
    {numbers : List Nat} (noted : number ∈ numbers) :
    (numbers.foldl Deployment.close deployment).Holds number frozen := by
  induction numbers generalizing deployment with
  | nil => cases noted
  | cons other numbers ih =>
    by_cases same : number = other
    · subst same
      have closed : (deployment.close number).Holds number frozen := registryAt?_close done
      exact closed.closeAll (frozen_of_frozenAt done) numbers
    · have unchanged : (deployment.close other).frozenAt number = deployment.frozenAt number :=
        frozenAt_congr (registryAt?_congr (sites_close_of_ne same)) (deployment.pipelines_close other)
      exact ih (unchanged.trans done) (List.mem_of_ne_of_mem same noted)

/-- A router that is noted as closed is frozen, if it can be. -/
theorem holds_commit_of_mem {frozen : Registry} {world : World} (done : deployment.frozenAt number = .ok frozen)
    (noted : number ∈ world.closed) : { deployment with world }.commit.Holds number frozen := by
  have start : { deployment with world := { world with closed := [] } }.frozenAt number = .ok frozen :=
    (frozenAt_congr rfl rfl).trans done
  exact holds_closeAll_of_mem start noted

end Deployment

namespace Session

open Deployment

variable {α β : Type} {deployment : Deployment} {number : Nat} {registry : Registry}

/-- The steps that ask a router itself: to be frozen, to resolve a path, to answer a request, or to answer one
that it is passed, of which it is noted in the world. -/
inductive Step.Asks (deployment : Deployment) (number : Nat) : Step → Prop
  | freeze : Asks deployment number (.freeze number)
  | resolve (method path : String) : Asks deployment number (.resolve number method path)
  | call (request : Request) : Asks deployment number (.call number request)
  | passed (work : Act Unit) (noted : number ∈ (work (deployment.visit visitDepth) deployment.world).2.closed) :
    Asks deployment number (.act work)

/-- The steps by which a router is frozen when nothing throws: by itself, by being asked for a route, by answering
a request, and by being mounted, at the end of its group too. -/
inductive Step.Closes (number : Nat) : Step → Prop
  | freeze : Closes number (.freeze number)
  | resolve (method path : String) : Closes number (.resolve number method path)
  | call (request : Request) : Closes number (.call number request)
  | mount (parent : Nat) (path : String) (strip : Bool) : Closes number (.mount parent path (.site number) strip)
  | finishGroup (parent : Nat) (path : String) : Closes number (.finishGroup parent path number)

/-- What freezes a router leaves it frozen, with everything else that it had. -/
def Seals (number : Nat) (registry : Registry) (work : Session α) : Prop :=
  Meets (fun deployment => deployment.Quiet ∧ deployment.Holds number registry) work
    (fun _ => Sealed number registry) fun _ => True

theorem Preserves.sealed {work : Session α}
    (preserves : ∀ closed : Registry, closed.frozen = true → Preserves number closed work) :
    Meets (Sealed number registry) work (fun _ => Sealed number registry) fun _ => True := by
  rintro deployment ⟨endpoint, holds⟩
  have kept := preserves { registry with dispatcher := some endpoint } rfl
  exact kept.mono (fun _ held => held) (fun _ _ held => ⟨endpoint, held⟩) (fun _ _ => trivial) deployment holds

theorem Looks.first {work : Session α} (looks : Looks work) {next : α → Session β}
    (second : ∀ value, Seals number registry (next value)) : Seals number registry (work >>= next) :=
  (looks.meets fun _ _ => trivial).bind second

theorem Seals.discard {work : Session α} (seals : Seals number registry work) :
    Seals number registry (discard work) :=
  seals.bind fun _ => .of_pure fun _ sealed => sealed

theorem seals_freeze : Seals number registry (freeze number) := by
  rintro deployment ⟨quiet, holds⟩
  obtain ⟨after, froze, freezes⟩ := freeze_eq quiet number
  rw [froze]
  cases done : deployment.frozenAt number with
  | error fault => trivial
  | ok frozen =>
    have placed := freezes.done frozen done
    obtain ⟨before, endpoint, site, rfl⟩ := frozenAt_eq_ok done
    obtain rfl : before = registry := Option.some.inj (site.symm.trans holds)
    exact ⟨endpoint, placed⟩

private theorem seals_resolve (method path : String) : Seals number registry (resolve number method path) := by
  refine seals_freeze.bind fun _ => Preserves.sealed fun closed _ => ?_
  exact (looks_router number).preserves.bind fun _ => preserves_pure _

/-- A router is frozen before its routes are copied. -/
theorem seals_childRouter? (parent : Router) (head : Pattern) :
    Seals number registry (childRouter? parent head number) := by
  have looked : Meets (fun deployment => deployment.Quiet ∧ deployment.Holds number registry)
      (get : Session Deployment) (fun found deployment =>
        (deployment.Quiet ∧ deployment.Holds number registry) ∧ found.Holds number registry) (fun _ => True) :=
    .of_get fun _ before => ⟨before, before.2⟩
  refine looked.bind fun found => .assuming fun held => ?_
  rw [show found.registryAt? number = some registry from held]
  refine (looks_lift _).first fun _ => seals_freeze.bind fun _ => Preserves.sealed fun closed _ => ?_
  exact (looks_router number).preserves.bind fun _ => preserves_get.bind fun _ => preserves_pure _

private theorem seals_mount (parent : Nat) (path : String) (strip : Bool) :
    Seals number registry (mount parent path (.site number) strip) := by
  refine (looks_router parent).first fun router => (looks_lift _).first fun _ => ?_
  rcases requireOther_cases parent path (.site number) with refused | ⟨unlike, passed⟩
  · rw [refused]
    exact fun _ _ => trivial
  · rw [passed, pure_bind]
    have differs : number ≠ parent := fun same => unlike (same ▸ rfl)
    refine (looks_lift _).first fun head => (seals_childRouter? router head).bind fun found => ?_
    refine Preserves.sealed fun closed frozen => ?_
    split
    · exact preserves_mountHandler frozen differs head strip _
    · exact (preserves_change frozen parent fun same => (differs same).elim).bind fun _ =>
        preserves_log frozen _ _ _ _

/-- A router answers a request when it has been frozen. -/
theorem callSite_eq (holds : deployment.Holds number registry) (request : Request) :
    callSite number request deployment =
      (freeze number >>= fun _ => call (.site number) request) deployment := by
  have looked : (get : Session Deployment) deployment = (.ok deployment, deployment) := rfl
  have found : (deployment.registryAt? number).isSome = true := Option.isSome_iff_exists.mpr ⟨registry, holds⟩
  rw [callSite, run_bind_of_ok looked, if_pos found]

private theorem seals_callSite (request : Request) : Seals number registry (callSite number request) := by
  have answered : Seals number registry (freeze number >>= fun _ => call (.site number) request) :=
    seals_freeze.bind fun _ => Preserves.sealed fun closed frozen => preserves_run frozen _
  intro deployment before
  rw [callSite_eq before.2]
  exact answered deployment before

/-- A router whose chain can be built can be frozen. -/
theorem exists_frozenAt (holds : deployment.Holds number registry) {endpoint : Endpoint}
    (built : (registry.settled deployment.layers).chain = .ok endpoint) :
    ∃ dispatcher, deployment.frozenAt number = .ok { registry with dispatcher := some dispatcher } := by
  cases closed : registry.dispatcher with
  | some dispatcher =>
    have same : { registry with dispatcher := some dispatcher } = registry := by rw [← closed]
    refine ⟨dispatcher, ?_⟩
    rw [same]
    exact frozenAt_of_closed holds closed
  | none =>
    refine ⟨endpoint, ?_⟩
    rw [frozenAt_of_open holds closed, built]
    rfl

/-- Whatever comes after the freezing of a router, and whether it throws or not, the router is frozen. -/
theorem sealed_freeze_bind (quiet : deployment.Quiet) (holds : deployment.Holds number registry)
    {endpoint : Endpoint} (built : (registry.settled deployment.layers).chain = .ok endpoint)
    {next : Unit → Session β}
    (preserves : ∀ closed : Registry, closed.frozen = true → Preserves number closed (next ())) :
    Sealed number registry ((freeze number >>= next) deployment).2 := by
  obtain ⟨dispatcher, done⟩ := exists_frozenAt holds built
  obtain ⟨after, froze, freezes⟩ := freeze_eq quiet number
  rw [done] at froze
  rw [run_bind_of_ok froze]
  have kept := preserves { registry with dispatcher := some dispatcher } rfl after (freezes.done _ done)
  exact ⟨dispatcher, ended_const_iff.mp kept⟩

/-- A router that is asked is frozen, whether the step throws or not, if only its chain can be built. -/
theorem Step.Asks.sealed (quiet : deployment.Quiet) (holds : deployment.Holds number registry)
    {endpoint : Endpoint} (built : (registry.settled deployment.layers).chain = .ok endpoint) {step : Step}
    (asks : step.Asks deployment number) : Sealed number registry (step.run deployment).2 := by
  cases asks with
  | freeze =>
    have frozen := sealed_freeze_bind quiet holds built fun _ _ => preserves_pure ()
    rwa [bind_pure_unit] at frozen
  | resolve method path =>
    rw [Step.run, discard_snd]
    exact sealed_freeze_bind quiet holds built fun _ _ =>
      (looks_router number).preserves.bind fun _ => preserves_pure _
  | call request =>
    rw [Step.run, discard_snd, callSite_eq holds]
    exact sealed_freeze_bind quiet holds built fun _ frozen => preserves_run frozen _
  | passed work noted =>
    obtain ⟨dispatcher, done⟩ := exists_frozenAt holds built
    exact ⟨dispatcher, holds_commit_of_mem done noted⟩

/-- A step that is to freeze a router does so unless it throws. -/
theorem Step.Closes.ended (quiet : deployment.Quiet) (holds : deployment.Holds number registry) {step : Step}
    (closes : step.Closes number) :
    Ended (fun _ => Sealed number registry) (fun _ => True) (step.run deployment) := by
  have sealed : ∀ {work : Session Unit}, Seals number registry work →
      Ended (fun _ => Sealed number registry) (fun _ => True) (work deployment) :=
    fun seals => seals deployment ⟨quiet, holds⟩
  cases closes with
  | freeze => exact sealed seals_freeze
  | resolve method path => exact sealed ((seals_resolve method path).discard)
  | mount parent path strip => exact sealed (seals_mount parent path strip)
  | finishGroup parent path => exact sealed (seals_mount parent path false)
  | call request => exact sealed (seals_callSite request).discard

end Session

namespace Deployment

variable {deployment : Deployment}

end Deployment

end HttpRouting

import HttpRouting.Proofs.Contracts
import HttpRouting.Proofs.Parameters
import HttpRouting.Proofs.Reachable
import HttpRouting.Registry

/-! # What registering programs do

A registering program that throws leaves the registry as it was, because everything that can be refused is
decided before the first change; one that does not has added routes behind the others, with the next order
numbers. On a registry whose names and counter agree with its routes a program does
what the operation on routers says that it stands for, and the names and the counter agree afterwards.
-/

namespace HttpRouting

/-- Whether a registry holds the routes of another one, and behind them routes with the next order numbers. -/
def Registry.Continues (before after : Registry) : Prop :=
  ∃ added, after.routes = before.routes ++ added ∧
    added.map (·.order) = List.range' before.nextOrder added.length

theorem Registry.continues_of_routes_eq {before after : Registry} (same : after.routes = before.routes) :
    before.Continues after :=
  ⟨[], by rw [same, List.append_nil], rfl⟩

theorem Registry.length_numbered (registry : Registry) (batch : List (Route Endpoint)) :
    (registry.numbered batch).length = batch.length := by
  rw [numbered, List.length_map, List.length_zipIdx]

theorem Registry.map_order_numbered (registry : Registry) (batch : List (Route Endpoint)) :
    (registry.numbered batch).map (·.order) = List.range' registry.nextOrder batch.length := by
  rw [numbered, List.map_map, ← List.zipIdx_map_snd registry.nextOrder batch]
  rfl

namespace Registering

variable {α β : Type}

def Looks (program : Registering α) : Prop :=
  ∀ registry, Meets (· = registry) program (fun _ => (· = registry)) (· = registry)

/-- Whether a program changes nothing when it throws, and else has no other routes than new ones. -/
def Registers (program : Registering α) : Prop :=
  ∀ registry, Meets (· = registry) program (fun _ => registry.Continues) (· = registry)

theorem Looks.bind {program : Registering α} {next : α → Registering β} (first : Looks program)
    (second : ∀ value, Registers (next value)) : Registers (program >>= next) :=
  fun registry => (first registry).bind fun value => second value registry

theorem looks_lift (outcome : Outcome α) : Looks (liftM outcome) :=
  fun _ => .of_lift (fun _ _ _ same => same) fun _ _ _ same => same

private theorem looks_get : Looks get :=
  fun _ => .of_get fun _ same => same

theorem looks_requireOpen (target : String) (method : Option String) :
    Looks (requireOpen target method) :=
  fun registry => (looks_get registry).bind fun value =>
    looks_lift (value.toRouter.requireOpen target method) registry

/-- A change of something else than the routes cannot fail. -/
theorem registers_modify {change : Registry → Registry}
    (kept : ∀ registry, (change registry).routes = registry.routes) : Registers (modify change) := by
  intro registry
  refine .of_modify fun state same => ?_
  rw [same]
  exact Registry.continues_of_routes_eq (kept registry)

/-- A route that was found fit is always inserted. -/
theorem enter_meets (held : List (Route Endpoint)) (route : Route Endpoint) :
    Meets (fun registry => registry.routes = held) (enter route)
      (fun _ registry => registry.routes = held ++ [route]) fun _ => False := by
  have inserted : Meets (fun registry : Registry => registry.routes = held)
      (modify fun registry => { registry with index := registry.index.insert route } : Registering Unit)
      (fun _ registry => registry.routes = held ++ [route]) fun _ => False :=
    .of_modify fun _ same => congrArg (· ++ [route]) same
  refine inserted.bind fun _ => ?_
  split
  · exact .of_modify fun _ same => same
  · exact .of_pure fun _ same => same

private theorem enterAll_meets (held routes : List (Route Endpoint)) :
    Meets (fun registry => registry.routes = held) (enterAll routes)
      (fun _ registry => registry.routes = held ++ routes) fun _ => False := by
  have entered : Meets (fun registry => registry.routes = held) (routes.forM enter)
      (fun _ registry => registry.routes = held ++ routes) fun _ => False := by
    induction routes generalizing held with
    | nil => exact .of_pure fun registry same => same.trans (List.append_nil held).symm
    | cons route routes ih =>
      rw [List.append_cons]
      exact (enter_meets held route).bind fun _ => ih (held ++ [route])
  exact entered.bind fun _ => .of_modify fun _ same => same

/-- A refused batch leaves the registry as it was: names and conflicts are checked first, and insertion
cannot fail. -/
theorem registers_add (batch : List (Route Endpoint)) : Registers (add batch) := by
  intro registry
  have looked : Meets (· = registry) (get : Registering Registry)
      (fun found state => state = registry ∧ found = registry) (· = registry) :=
    .of_get fun _ same => ⟨same, same⟩
  refine looked.bind fun found => .assuming fun same => ?_
  rw [same]
  refine (looks_lift (registry.check (registry.numbered batch)) registry).bind fun _ => ?_
  refine (enterAll_meets registry.routes (registry.numbered batch)).mono ?_ ?_ fun _ => False.elim
  · exact fun _ same => congrArg (·.routes) same
  · intro _ after same
    refine ⟨registry.numbered batch, same, ?_⟩
    rw [registry.length_numbered, registry.map_order_numbered]

theorem registers_route (path : String) (handlers : Fields (Option Handler)) (options : RouteOptions) :
    Registers (route path handlers options) :=
  (looks_requireOpen path _).bind fun _ => (looks_lift _).bind fun route => registers_add [route]

theorem registers_register (selectors : List String) (path : String) (handler : Handler)
    (options : RouteOptions) : Registers (register selectors path handler options) :=
  (looks_lift _).bind fun _ => registers_route path _ _

theorem registers_mountOn (head : Pattern) (strip : Bool) (child : Mountable) :
    Registers (mountOn head strip child) := by
  cases child with
  | handler handler => exact (looks_lift _).bind fun _ => registers_add _
  | router child =>
    refine looks_get.bind fun registry => ?_
    refine (looks_lift (registry.toRouter.requireAlike child head)).bind fun _ => ?_
    exact (looks_lift child.freeze).bind fun _ => (looks_lift _).bind fun copies => registers_add copies

theorem registers_use (middleware : Middleware) : Registers (use middleware) :=
  (looks_requireOpen "use" none).bind fun _ => registers_modify fun _ => rfl

theorem registers_withFallback (handler : Handler) : Registers (withFallback handler) :=
  (looks_requireOpen "fallback" none).bind fun _ => registers_modify fun _ => rfl

end Registering

def namedRoutes (routes : List (Route Endpoint)) : Entries (Route Endpoint) :=
  routes.filterMap fun route => route.name.map (·, route)

theorem map_fst_namedRoutes (routes : List (Route Endpoint)) :
    (namedRoutes routes).map (·.1) = routes.filterMap (·.name) := by
  rw [namedRoutes, List.map_filterMap]
  congr 1
  funext route
  cases route.name <;> rfl

theorem mem_namedRoutes {routes : List (Route Endpoint)} {name : String} {route : Route Endpoint} :
    (name, route) ∈ namedRoutes routes ↔ route ∈ routes ∧ route.name = some name := by
  simp only [namedRoutes, List.mem_filterMap, Option.map_eq_some_iff, Prod.mk.injEq]
  constructor
  · rintro ⟨_, member, _, named, rfl, rfl⟩
    exact ⟨member, named⟩
  · rintro ⟨member, named⟩
    exact ⟨route, member, name, named, rfl, rfl⟩

private theorem namedRoutes_concat (routes : List (Route Endpoint)) (route : Route Endpoint) :
    namedRoutes (routes ++ [route]) = namedRoutes routes ++ (route.name.map (·, route)).toList := by
  rw [namedRoutes, List.filterMap_append, ← namedRoutes]
  cases named : route.name <;> simp [named]

namespace Registry

/-- The registry of a router, with names as its routes have them, and a number for the next route. -/
def counting (next : Nat) (router : Router) : Registry where
  toRouter := router
  named := namedRoutes router.index.routes
  nextOrder := next

/-- The registry of a router, with names and counter as its routes have them. -/
def ofRouter (router : Router) : Registry :=
  counting router.index.routes.length router

/-- What an operation on a router leaves of its registry: that of the router it gives, or the one it found
when it refuses. -/
def settle (router : Router) : Outcome Router → Except Fault Unit × Registry
  | .ok after => (.ok (), ofRouter after)
  | .error fault => (.error fault, ofRouter router)

end Registry

namespace Registering

open Registry

/-- Whether a program does to registries what an operation does to routers. -/
def Performs (program : Registering Unit) (operation : Router → Outcome Router) : Prop :=
  ∀ router, program (ofRouter router) = settle router (operation router)

/-- Inserting a route under a new name keeps the names as the routes have them. -/
theorem enter_counting {router : Router} {route : Route Endpoint}
    (fresh : ∀ name, route.name = some name → name ∉ router.index.names) (next : Nat) :
    enter route (counting next router) =
      (.ok (), counting next { router with index := router.index.insert route }) := by
  have grown := namedRoutes_concat router.index.routes route
  rw [enter]
  cases named : route.name with
  | none =>
    rw [named, Option.map_none, Option.toList_none, List.append_nil] at grown
    change (Except.ok (), Registry.mk _ (namedRoutes router.index.routes) next) = _
    rw [← grown]
    rfl
  | some name =>
    have new : name ∉ (namedRoutes router.index.routes).map (·.1) := by
      rw [map_fst_namedRoutes]
      exact fresh name named
    rw [named, Option.map_some, Option.toList_some, ← Entries.put_of_not_mem new] at grown
    change (Except.ok (), Registry.mk _ ((namedRoutes router.index.routes).put name route) next) = _
    rw [← grown]
    rfl

private theorem names_insert (index : RouteIndex Endpoint) (route : Route Endpoint) :
    (index.insert route).names = index.names ++ route.name.toList := by
  rw [RouteIndex.names, RouteIndex.insert, List.filterMap_append, ← RouteIndex.names]
  cases named : route.name <;> simp [named]

/-- So does inserting routes under new and different names. -/
theorem forM_enter_counting {router : Router} {routes : List (Route Endpoint)}
    (unique : (routes.filterMap (·.name)).Nodup)
    (fresh : ∀ name ∈ routes.filterMap (·.name), name ∉ router.index.names) (next : Nat) :
    routes.forM enter (counting next router) =
      (.ok (), counting next { router with index := routes.foldl RouteIndex.insert router.index }) := by
  induction routes generalizing router with
  | nil => rfl
  | cons route routes ih =>
    have first : ∀ name, route.name = some name → name ∉ router.index.names :=
      fun name named => fresh name (List.mem_filterMap.mpr ⟨route, List.mem_cons_self .., named⟩)
    have later : (routes.filterMap (·.name)).Nodup ∧ ∀ name ∈ routes.filterMap (·.name),
        name ∉ (router.index.insert route).names := by
      rw [names_insert]
      cases named : route.name with
      | none =>
        rw [List.filterMap_cons_none named] at unique fresh
        rw [Option.toList_none, List.append_nil]
        exact ⟨unique, fresh⟩
      | some name =>
        rw [List.filterMap_cons_some named] at unique fresh
        obtain ⟨absent, unique⟩ := List.nodup_cons.mp unique
        refine ⟨unique, fun other member used => ?_⟩
        rcases List.mem_append.mp used with old | new
        · exact fresh other (List.mem_cons_of_mem _ member) old
        · exact absent (List.mem_singleton.mp new ▸ member)
    have entered := enter_counting first next
    exact (run_bind_of_ok entered).trans (ih later.1 later.2)

private theorem check_ofRouter (router : Router) (routes : List (Route Endpoint)) :
    (ofRouter router).check routes =
      match RouteIndex.nameRefusal? router.index.names routes with
      | some refusal => .error (.registration refusal)
      | none => Outcome.lift .registration (router.index.check routes) := by
  rw [Registry.check, ofRouter, counting, map_fst_namedRoutes]
  rfl

/-- A batch is added to a registry as it is added to the router. -/
theorem performs_add (batch : List (Route Endpoint)) : Performs (add batch) (·.add batch) := by
  intro router
  have steps : add batch (ofRouter router) =
      (liftM ((ofRouter router).check (router.index.numbered batch)) >>= fun _ =>
        enterAll (router.index.numbered batch) : Registering Unit) (ofRouter router) := rfl
  rw [steps, run_lift_bind, check_ofRouter]
  change _ = settle router (do
    return { router with index := ← Outcome.lift .registration (router.index.add batch) })
  rw [RouteIndex.add]
  cases refused : RouteIndex.nameRefusal? router.index.names (router.index.numbered batch) with
  | some refusal => rfl
  | none =>
    cases conflicts : router.index.check (router.index.numbered batch) with
    | error refusal => rfl
    | ok =>
      obtain ⟨unique, fresh⟩ := RouteIndex.nameRefusal?_eq_none.mp refused
      have entered := forM_enter_counting unique fresh router.index.routes.length
      have counted : router.index.routes.length + (router.index.numbered batch).length =
          ((router.index.numbered batch).foldl RouteIndex.insert router.index).routes.length := by
        rw [RouteIndex.routes_foldl_insert, List.length_append]
      refine (run_bind_of_ok entered).trans ?_
      change (Except.ok (), counting (router.index.routes.length + (router.index.numbered batch).length) _) = _
      rw [counted]
      rfl

/-- A program that begins with a check does what an operation does that begins with the same check. -/
theorem performs_check {α : Type} (decided : Router → Outcome α) {program : α → Registering Unit}
    {operation : α → Router → Outcome Router} (performs : ∀ value, Performs (program value) (operation value)) :
    Performs (do program (← liftM (decided (← get).toRouter)))
      (fun router => do operation (← decided router) router) := by
  intro router
  have steps : (do program (← liftM (decided (← get).toRouter)) : Registering Unit) (ofRouter router) =
      (liftM (decided router) >>= program : Registering Unit) (ofRouter router) := rfl
  rw [steps, run_lift_bind]
  change _ = settle router (decided router >>= fun value => operation value router)
  cases decided router with
  | ok value => exact performs value router
  | error fault => rfl

theorem performs_route (path : String) (handlers : Fields (Option Handler)) (options : RouteOptions) :
    Performs (route path handlers options) (·.route path handlers options) := by
  refine performs_check (·.requireOpen path _) fun _ => ?_
  exact performs_check (fun _ => Router.prepare path _ _) fun route => performs_add [route]

theorem performs_register (selectors : List String) (path : String) (handler : Handler)
    (options : RouteOptions) :
    Performs (register selectors path handler options) (·.register selectors path handler options) :=
  performs_check (fun _ => Router.wrapped _ _) fun _ => performs_route path _ _

theorem performs_mountOn (head : Pattern) (strip : Bool) (child : Mountable) :
    Performs (mountOn head strip child) (·.mountOn head strip child) := by
  cases child with
  | handler handler => exact performs_check (fun _ => Outcome.lift .registration _) fun _ => performs_add _
  | router child =>
    refine performs_check (·.requireAlike child head) fun _ => ?_
    refine performs_check (fun _ => child.freeze) fun frozen => ?_
    exact performs_check (fun _ => frozen.routes.mapM (frozen.copied head strip)) performs_add

theorem performs_use (middleware : Middleware) : Performs (use middleware) (·.use middleware) :=
  performs_check (·.requireOpen "use") fun _ _ => rfl

theorem performs_withFallback (handler : Handler) :
    Performs (withFallback handler) (·.withFallback handler) :=
  performs_check (·.requireOpen "fallback") fun _ _ => rfl

end Registering

end HttpRouting

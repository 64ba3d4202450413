import HttpRouting.Proofs.Resolution
import HttpRouting.Proofs.Runs
import HttpRouting.Proofs.TableRuns
import Mathlib.Data.Nat.Pairing

/-! # Routers that ask their tables

A table that is asked for `HEAD` may make the endpoint for that, and routers share tables: the copy of a route that
is mounted has the table of the route itself, when nothing is wrapped around its endpoints. So a question to one
router changes what another one holds. What the tables bind is not changed, and what they have made stays made of
that; therefore every router decides as if its tables made nothing, whatever it and others were asked before.
-/

namespace HttpRouting

/-- What each computation of a list gives while it keeps an invariant, all of them give one after another. -/
private theorem mapM_of_forall {σ α β : Type} {invariant : σ → Prop} {work : α → StateM σ β} {value : α → β}
    (items : List α) (each : ∀ item ∈ items, ∀ state, invariant state →
      (work item state).1 = value item ∧ invariant (work item state).2)
    (state : σ) (start : invariant state) :
    (items.mapM work state).1 = items.map value ∧ invariant (items.mapM work state).2 := by
  induction items generalizing state with
  | nil => exact ⟨rfl, start⟩
  | cons item items ih =>
    obtain ⟨first, kept⟩ := each item List.mem_cons_self state start
    obtain ⟨rest, held⟩ := ih (fun other member => each other (List.mem_cons_of_mem _ member)) _ kept
    rw [List.mapM_cons, List.map_cons, ← first, ← rest]
    exact ⟨rfl, held⟩

namespace Tables

variable {ε : Type} {headOf : ε → ε} {bound : Nat → MethodTable ε} {tables : Tables ε}

/-- Whether tables bind what they should, and what they have made is made of that. -/
structure Ready (headOf : ε → ε) (bound : Nat → MethodTable ε) (tables : Tables ε) : Prop where
  binds : ∀ number, (tables number).table = bound number
  current : ∀ number, (tables number).Current headOf

/-- A table that makes nothing but what is current may be asked at any time. -/
theorem Ready.ask (ready : tables.Ready headOf bound) (place : Route ε → Nat) (method : String)
    (values : List String) (route : Route ε) :
    (RouteIndex.ask headOf place method values route tables).1 =
        ⟨route, values, (bound (place route)).get? headOf method⟩ ∧
      (RouteIndex.ask headOf place method values route tables).2.Ready headOf bound := by
  obtain ⟨answers, same, current⟩ := (ready.current (place route)).get method
  rw [ready.binds] at answers same
  refine ⟨congrArg (Contender.mk route values) answers, fun number => ?_, fun number => ?_⟩
  · by_cases asked : number = place route
    · subst asked
      exact (congrArg ServingTable.table (if_pos rfl)).trans same
    · exact (congrArg ServingTable.table (if_neg asked)).trans (ready.binds number)
  · change ServingTable.Current headOf (if number = place route then _ else _)
    split_ifs
    · exact current
    · exact ready.current number

/-- The tables of the routes of one candidate, asked one after another. -/
theorem Ready.askAll (ready : tables.Ready headOf bound) {place : Route ε → Nat} (method : String)
    (candidate : Candidate (Route ε))
    (placed : ∀ route ∈ candidate.routes, bound (place route) = route.methods) :
    (candidate.routes.mapM (RouteIndex.ask headOf place method candidate.values) tables).1 =
        candidate.routes.map (fun route => ⟨route, candidate.values, route.methods.get? headOf method⟩) ∧
      (candidate.routes.mapM (RouteIndex.ask headOf place method candidate.values) tables).2.Ready headOf bound := by
  refine mapM_of_forall candidate.routes (fun route member tables ready => ?_) tables ready
  rw [← placed route member]
  exact ready.ask place method candidate.values route

/-- A router whose tables are ready decides by what its routes bind, and leaves the tables ready. -/
theorem Ready.serve (ready : tables.Ready headOf bound) {index : RouteIndex ε} {place : Route ε → Nat}
    (placed : ∀ route ∈ index.routes, bound (place route) = route.methods) (method path : String) :
    (index.serve headOf place method path tables).1 = index.resolve headOf method path ∧
      (index.serve headOf place method path tables).2.Ready headOf bound := by
  have found (candidate : Candidate (Route ε)) (member : candidate ∈ index.collect (splitPath path))
      (route : Route ε) (listed : route ∈ candidate.routes) : route ∈ index.routes := by
    have among := (index.routes_collect_perm (splitPath path)).mem_iff.mp
      (List.mem_flatMap.mpr ⟨candidate, member, listed⟩)
    exact (RouteIndex.mem_matching.mp among).1
  have asked := mapM_of_forall (index.collect (splitPath path))
    (fun candidate member tables (ready : Ready headOf bound tables) => ready.askAll method candidate
      fun route listed => placed route (found candidate member route listed)) tables ready
  rw [RouteIndex.serve, RouteIndex.resolve, RouteIndex.contenders, List.flatMap_def, ← asked.1]
  -- what asks all tables is slow to unfold
  generalize ((index.collect (splitPath path)).mapM _ : StateM (Tables ε) _) = work at asked ⊢
  exact ⟨rfl, asked.2⟩

end Tables

namespace Deployment

variable {deployment : Deployment} {place : Nat → Route Endpoint → Nat} {bound : Nat → MethodTable Endpoint}

/-- A question to a router. -/
structure Question where
  number : Nat
  method : String
  path : String

/-- What a question makes of the tables. -/
def asked (deployment : Deployment) (place : Nat → Route Endpoint → Nat) (tables : Tables Endpoint)
    (question : Question) : Tables Endpoint :=
  match deployment.registryAt? question.number with
  | none => tables
  | some registry =>
    (registry.index.serve Endpoint.headOf (place question.number) question.method question.path tables).2

/-- Where the tables of routes are when no two routes share one. -/
def apart (number : Nat) (route : Route Endpoint) : Nat :=
  Nat.pair number route.order

end Deployment

end HttpRouting

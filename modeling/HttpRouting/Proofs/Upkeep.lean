import HttpRouting.Proofs.PatternSegments
import HttpRouting.Proofs.Registering
import HttpRouting.Proofs.ShapeKeys

/-! # What every registration keeps up

Beside a sound index, registrations keep of every route that what is hidden from its handlers are segments
that stand before any wildcard, listed in order. A route that is
copied under a pattern gets the positions of that pattern in front of its own, which move to the right by as
many. `Registry.Regular` says all this of a registry, together with the agreement of its names and its
counter with its routes, and every registering program keeps it, whether it throws or not.
-/

namespace HttpRouting

/-- Whether positions are listed in order and hold single segments of the pattern. -/
structure Pattern.Hides (pattern : Pattern) (positions : List Nat) : Prop where
  increasing : positions.Pairwise (· < ·)
  single : ∀ position ∈ positions, ∃ segment, pattern.segments[position]? = some segment ∧
    segment.isWildcard = false

/-- What is hidden of a route stays hidden of its copy under a pattern without a wildcard, behind what is
hidden of that pattern. -/
theorem Pattern.Hides.under {head tail pattern : Pattern} {own : List Nat} (hides : tail.Hides own)
    (plain : head.hasWildcard = false) (joined : head.under tail = .ok pattern) (strip : Bool) :
    pattern.Hides (head.hidden strip own) := by
  have segments := segments_of_under joined
  have front : ∀ position ∈ if strip then head.positions else [], position < head.segments.length := by
    intro position member
    split_ifs at member
    · exact List.mem_range.mp member
    · cases member
  constructor
  · rw [hidden, List.pairwise_append]
    refine ⟨?_, ?_, ?_⟩
    · split_ifs
      · exact List.pairwise_lt_range
      · exact .nil
    · refine List.pairwise_map.mpr (hides.increasing.imp fun earlier => ?_)
      omega
    · intro position member other otherMem
      obtain ⟨moved, _, rfl⟩ := List.mem_map.mp otherMem
      have := front position member
      omega
  · intro position member
    rw [segments]
    rcases List.mem_append.mp member with first | later
    · have within := front position first
      refine ⟨head.segments[position], ?_, ?_⟩
      · rw [List.getElem?_append_left within, List.getElem?_eq_getElem within]
      · exact isWildcard_eq_false plain _ (List.getElem_mem within)
    · obtain ⟨moved, movedMem, rfl⟩ := List.mem_map.mp later
      obtain ⟨segment, found, alone⟩ := hides.single moved movedMem
      refine ⟨segment, ?_, alone⟩
      rw [List.getElem?_append_right (Nat.le_add_left ..), Nat.add_sub_cancel]
      exact found

theorem Pattern.hides_nil (pattern : Pattern) : pattern.Hides [] :=
  ⟨.nil, by simp⟩

namespace RouteIndex

/-- What registrations keep of an index: it is sound, and what its routes hide can be hidden. -/
structure Regular (index : RouteIndex Endpoint) : Prop where
  sound : index.Sound
  hides : ∀ route ∈ index.routes, route.pattern.Hides route.strip

theorem regular_empty (settings : MatchSettings) : ({ settings } : RouteIndex Endpoint).Regular :=
  ⟨sound_empty settings, by simp⟩

/-- A batch of such routes that is added leaves the index as it should be. -/
theorem Regular.add {index after : RouteIndex Endpoint} {batch : List (Route Endpoint)}
    (regular : index.Regular)
    (fit : ∀ route ∈ batch, (route.methods.Lawful ∧ route.methods.isEmpty = false) ∧
      route.pattern.Hides route.strip)
    (added : index.add batch = .ok after) : after.Regular := by
  have hides : ∀ route ∈ after.routes, route.pattern.Hides route.strip := by
    obtain ⟨_, _, rfl⟩ := add_eq_ok.mp added
    rw [routes_foldl_insert]
    intro route member
    rcases List.mem_append.mp member with old | new
    · exact regular.hides route old
    · obtain ⟨origin, originMem, order, rfl⟩ := exists_of_mem_right (index.forall₂_numbered batch) new
      exact (fit origin originMem).2
  exact ⟨regular.sound.add (fun route member => (fit route member).1) added, hides⟩

end RouteIndex

/-- Whether what is mounted is a handler or a router whose index is as registrations keep it. -/
def Mountable.Regular : Mountable → Prop
  | .handler _ => True
  | .router child => child.index.Regular

namespace Router

private theorem regular_of_add {router after : Router} {batch : List (Route Endpoint)}
    (regular : router.index.Regular)
    (fit : ∀ route ∈ batch, (route.methods.Lawful ∧ route.methods.isEmpty = false) ∧
      route.pattern.Hides route.strip)
    (added : router.add batch = .ok after) : after.index.Regular := by
  obtain ⟨index, indexed, rfl⟩ := add_eq_ok.mp added
  exact regular.add fit indexed

private theorem regular_of_route {router after : Router} {path : String} {handlers : Fields (Option Handler)}
    {options : RouteOptions} (regular : router.index.Regular)
    (accepted : router.route path handlers options = .ok after) : after.index.Regular := by
  obtain ⟨_, route, prepared, added⟩ := route_eq_ok.mp accepted
  refine regular_of_add regular (fun other member => ?_) added
  cases List.mem_singleton.mp member
  refine ⟨prepare_lawful prepared, ?_⟩
  obtain ⟨pattern, methods, compiled, _, _, rfl⟩ := prepare_eq_ok.mp prepared
  exact pattern.hides_nil

private theorem regular_of_register {router after : Router} {selectors : List String} {path : String}
    {handler : Handler} {options : RouteOptions} (regular : router.index.Regular)
    (accepted : router.register selectors path handler options = .ok after) : after.index.Regular := by
  obtain ⟨endpoint, _, accepted⟩ := bind_eq_ok.mp accepted
  exact regular_of_route regular accepted

private theorem regular_of_mountOn {router after : Router} {head : Pattern} {strip : Bool} {child : Mountable}
    (regular : router.index.Regular) (plain : head.hasWildcard = false) (inner : child.Regular)
    (accepted : router.mountOn head strip child = .ok after) : after.index.Regular := by
  cases child with
  | handler handler =>
    obtain ⟨pattern, joined, added⟩ := mountOn_handler_eq_ok.mp accepted
    refine regular_of_add regular (fun route member => ?_) added
    cases List.mem_singleton.mp member
    exact ⟨⟨⟨List.nodup_nil, fun _ => rfl⟩, rfl⟩, restPattern.hides_nil.under plain joined strip⟩
  | router child =>
    obtain ⟨_, frozen, batch, closed, copies, added⟩ := mountOn_router_eq_ok.mp accepted
    refine regular_of_add regular (fun copy member => ?_) added
    obtain ⟨route, routeMem, copied⟩ := exists_of_mem_right (mapM_eq_ok.mp copies) member
    rw [freeze_eq closed] at routeMem
    refine ⟨lawful_of_copied (inner.sound.lawful route routeMem) copied, ?_⟩
    obtain ⟨pattern, methods, joined, _, rfl⟩ := copied_eq_ok.mp copied
    exact (inner.hides route routeMem).under plain joined strip

end Router

/-- Whether two selectors stand for a common method. -/
def Selector.Collides (left right : Selector) : Prop :=
  left = right ∨ left = .any ∨ right = .any

namespace MethodTable

variable {ε δ : Type} {table : MethodTable ε}

theorem Apart.not_collides {other : MethodTable δ} (apart : table.Apart other) :
    ∀ selector ∈ table.selectors, ∀ selector' ∈ other.selectors, ¬selector.Collides selector' := by
  have single : ∀ {ζ : Type} {held : MethodTable ζ}, held.catchAll = none → .any ∉ held.selectors := by
    intro ζ held none member
    rw [mem_selectors_any, none] at member
    cases member
  rintro selector member selector' member' (rfl | rfl | rfl)
  · cases selector with
    | any => exact single apart.left member
    | only method =>
      exact apart.disjoint method (mem_selectors_only.mp member) (mem_selectors_only.mp member')
  · exact single apart.left member
  · exact single apart.right member'

theorem selectors_ne_nil (answers : table.isEmpty = false) : table.selectors ≠ [] := by
  rcases isEmpty_eq_false_iff.mp answers with bound | taken
  · obtain ⟨method, member⟩ := List.exists_mem_of_ne_nil _ bound
    exact List.ne_nil_of_mem (mem_selectors_only.mpr member)
  · exact List.ne_nil_of_mem (mem_selectors_any.mpr taken)

end MethodTable

namespace Registry

/-- What registrations keep of a registry: its names and its counter are those of its routes, and its index is
as it should be. -/
structure Regular (registry : Registry) : Prop where
  agrees : registry = ofRouter registry.toRouter
  index : registry.index.Regular

private theorem regular_ofRouter {router : Router} (regular : router.index.Regular) : (ofRouter router).Regular :=
  ⟨rfl, regular⟩

variable {registry : Registry}

/-- A name leads to the one route that has it. -/
theorem Regular.get?_named_iff (regular : registry.Regular) {name : String} {route : Route Endpoint} :
    registry.named.get? name = some route ↔ route ∈ registry.routes ∧ route.name = some name := by
  have named : registry.named = namedRoutes registry.routes := by
    rw [regular.agrees]
    rfl
  have unique : (registry.named.map (·.1)).Nodup := by
    rw [named, map_fst_namedRoutes]
    exact regular.index.sound.coherent.named
  rw [Entries.get?_eq_some_iff unique, named, mem_namedRoutes]

/-- Two routes with equal written shapes have no selectors that collide. -/
theorem Regular.pairwise_apart (regular : registry.Regular) :
    registry.routes.Pairwise fun route other =>
      route.pattern.shapeKey registry.index.settings.ignoreCase =
          other.pattern.shapeKey registry.index.settings.ignoreCase →
        ∀ selector ∈ route.methods.selectors, ∀ selector' ∈ other.methods.selectors,
          ¬selector.Collides selector' := by
  refine regular.index.sound.coherent.compatible.imp fun compatible same => ?_
  refine (compatible ?_).not_collides
  exact Pattern.shapeKey_eq_iff.mp same

end Registry

namespace Registering

/-- A program keeps a registry as it should be when the operation it stands for keeps the index so. -/
theorem Performs.regular {program : Registering Unit} {operation : Router → Outcome Router}
    (performs : Performs program operation)
    (keeps : ∀ {router after}, router.index.Regular → operation router = .ok after → after.index.Regular)
    {registry : Registry} (regular : registry.Regular) : (program registry).2.Regular := by
  rw [regular.agrees, performs]
  cases outcome : operation registry.toRouter with
  | ok after => exact Registry.regular_ofRouter (keeps regular.index outcome)
  | error fault => exact Registry.regular_ofRouter regular.index

variable {registry : Registry}

theorem regular_route (regular : registry.Regular) (path : String) (handlers : Fields (Option Handler))
    (options : RouteOptions) : (route path handlers options registry).2.Regular :=
  (performs_route path handlers options).regular Router.regular_of_route regular

theorem regular_register (regular : registry.Regular) (selectors : List String) (path : String)
    (handler : Handler) (options : RouteOptions) :
    (register selectors path handler options registry).2.Regular :=
  (performs_register selectors path handler options).regular Router.regular_of_register regular

theorem regular_mountOn (regular : registry.Regular) {head : Pattern} (plain : head.hasWildcard = false)
    (strip : Bool) {child : Mountable} (inner : child.Regular) :
    (mountOn head strip child registry).2.Regular :=
  (performs_mountOn head strip child).regular
    (fun before accepted => Router.regular_of_mountOn before plain inner accepted) regular

theorem regular_use (regular : registry.Regular) (middleware : Middleware) :
    (use middleware registry).2.Regular := by
  refine (performs_use middleware).regular (fun before accepted => ?_) regular
  obtain ⟨_, _, same⟩ := bind_eq_ok.mp accepted
  cases pure_eq_ok.mp same
  exact before

theorem regular_withFallback (regular : registry.Regular) (handler : Handler) :
    (withFallback handler registry).2.Regular := by
  refine (performs_withFallback handler).regular (fun before accepted => ?_) regular
  obtain ⟨_, _, same⟩ := bind_eq_ok.mp accepted
  cases pure_eq_ok.mp same
  exact before

end Registering

end HttpRouting

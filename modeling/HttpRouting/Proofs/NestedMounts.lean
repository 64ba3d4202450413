import HttpRouting.Proofs.JoinedPatterns
import HttpRouting.Proofs.Mounting
import HttpRouting.Proofs.Nesting

/-! # Nested mounts

A router that is mounted in one that is mounted again can as well be mounted once, under the two patterns
joined: the one is possible when the other is, and then the outer router holds the same routes.

Mounting on a fresh router fails only for what is wrong with the pattern, with the settings, with the middleware
of the child, or with the pattern of a copy. Names and methods cannot clash, since those of the child do not and
all copies have the same segments in front.
-/

namespace HttpRouting

open Text

namespace Router

/-- Every route of a reachable router has a source with a slash in front. -/
theorem Reachable.rooted {router : Router} (reached : Reachable router) :
    ∀ route ∈ router.routes, Rooted route.pattern.source := by
  have grows {router after : Router} {batch : List (Route Endpoint)}
      (rooted : ∀ route ∈ router.routes, Rooted route.pattern.source)
      (added : router.add batch = .ok after) (own : ∀ route ∈ batch, Rooted route.pattern.source) :
      ∀ route ∈ after.routes, Rooted route.pattern.source := by
    obtain ⟨_, copies, behind, alike⟩ := routes_of_add added
    rw [behind]
    refine List.forall_mem_append.mpr ⟨rooted, fun copy member => ?_⟩
    obtain ⟨route, routeMem, order, rfl⟩ := exists_of_mem_right alike member
    exact own route routeMem
  induction reached with
  | fresh settings logger => simp [Router.routes, Router.fresh]
  | route _ accepted ih =>
    obtain ⟨_, route, prepared, added⟩ := route_eq_ok.mp accepted
    obtain ⟨pattern, methods, compiled, _, _, rfl⟩ := prepare_eq_ok.mp prepared
    refine grows ih added fun route member => ?_
    cases List.mem_singleton.mp member
    rw [(Pattern.compile_eq_ok.mp compiled).2.1]
    exact rooted_withLeadingSlash _
  | mountHandler _ accepted ih =>
    obtain ⟨head, _, mounted⟩ := mount_eq_ok.mp accepted
    obtain ⟨pattern, joined, added⟩ := mountOn_handler_eq_ok.mp mounted
    refine grows ih added fun route member => ?_
    cases List.mem_singleton.mp member
    exact Pattern.rooted_of_join (Pattern.under_eq_ok.mp joined)
  | mountRouter _ _ accepted ih =>
    obtain ⟨head, _, mounted⟩ := mount_eq_ok.mp accepted
    obtain ⟨_, frozen, batch, _, copies, added⟩ := mountOn_router_eq_ok.mp mounted
    refine grows ih added fun copy member => ?_
    obtain ⟨route, _, copied⟩ := exists_of_mem_right (mapM_eq_ok.mp copies) member
    obtain ⟨pattern, methods, joined, _, rfl⟩ := copied_eq_ok.mp copied
    exact Pattern.rooted_of_join (Pattern.under_eq_ok.mp joined)
  | use _ accepted ih =>
    obtain ⟨_, rfl⟩ := use_eq_ok.mp accepted
    exact ih
  | withFallback _ accepted ih =>
    obtain ⟨_, rfl⟩ := withFallback_eq_ok.mp accepted
    exact ih
  | settled _ _ ih => exact ih
  | freeze _ closed ih =>
    rw [freeze_eq closed]
    exact ih

/-- Copies under one pattern may stand together as the routes may that they are copies of. -/
theorem coherent_copies {child : Router} {head : Pattern} {strip : Bool} {routes copies : List (Route Endpoint)}
    (copied : List.Forall₂ (fun route copy => child.copied head strip route = .ok copy) routes copies)
    {index : RouteIndex Endpoint} (coherent : index.Coherent routes) : index.Coherent copies := by
  constructor
  · have names : copies.map (·.name) = routes.map (·.name) := by
      refine map_eq_of_forall₂ (copied.imp fun route copy made => ?_)
      obtain ⟨_, _, _, _, rfl⟩ := copied_eq_ok.mp made
      rfl
    have same := congrArg (List.filterMap id) names
    rw [List.filterMap_map, List.filterMap_map] at same
    exact same ▸ coherent.named
  · refine pairwise_of_forall₂ ?_ copied coherent.compatible
    intro left right left' right' made made' compatible alike
    obtain ⟨pattern, methods, joined, handed, rfl⟩ := copied_eq_ok.mp made
    obtain ⟨pattern', methods', joined', handed', rfl⟩ := copied_eq_ok.mp made'
    refine (compatible ?_).mapM handed handed'
    simp only [RouteIndex.shapeOf, Pattern.shape, Pattern.segments_of_under joined,
      Pattern.segments_of_under joined', List.map_append] at alike
    exact List.append_cancel_left alike

variable {settings : MatchSettings}

/-- A router can be mounted on a fresh one when the pattern and the settings are fit for it, it can be frozen, and
each of its routes can be copied; the routes are these copies. -/
theorem exists_mount_fresh_iff (logger : Option Logger) {child : Router} (reached : Reachable child) {path : String}
    {strip : Bool} {routes : List (Route Endpoint)} :
    (∃ parent, (fresh settings logger).mount path (.router child) strip = .ok parent ∧ parent.routes = routes) ↔
      child.index.settings = settings ∧ (∃ frozen, child.freeze = .ok frozen) ∧
        ∃ head, Pattern.compile path = .ok head ∧ head.hasWildcard = false ∧
          List.Forall₂ (fun route copy => child.copied head strip route = .ok copy) child.routes routes := by
  constructor
  · rintro ⟨parent, mounted, rfl⟩
    obtain ⟨head, point, placed⟩ := mount_eq_ok.mp mounted
    obtain ⟨_, compiled, _⟩ := mountPoint_eq_ok.mp point
    obtain ⟨_, frozen, _, closed, _⟩ := mountOn_router_eq_ok.mp placed
    obtain ⟨plain, alike, _, copies⟩ := of_mount_fresh reached compiled mounted
    exact ⟨alike, ⟨frozen, closed⟩, head, compiled, plain, copies⟩
  · rintro ⟨alike, ⟨frozen, closed⟩, head, compiled, plain, copies⟩
    have answers : ∀ copy ∈ routes, copy.methods.isEmpty = false := by
      intro copy member
      obtain ⟨route, routeMem, copied⟩ := exists_of_mem_right copies member
      exact (lawful_of_copied (reached.sound.lawful route routeMem) copied).2
    have coherent : (fresh settings logger).index.Coherent routes :=
      coherent_copies copies (reached.sound.coherent.of_settings alike.symm)
    obtain ⟨index, added⟩ : ∃ index, (fresh settings logger).index.add routes = .ok index :=
      ⟨_, ((RouteIndex.sound_empty settings).add_iff answers).mpr ⟨coherent, rfl⟩⟩
    have same := freeze_eq closed
    have mounted : (fresh settings logger).mount path (.router child) strip =
        .ok { fresh settings logger with index } := by
      refine mount_eq_ok.mpr ⟨head, mountPoint_eq_ok.mpr ⟨rfl, compiled, plain⟩, ?_⟩
      refine mountOn_router_eq_ok.mpr ⟨alike, frozen, routes, closed, ?_, add_eq_ok.mpr ⟨index, added, rfl⟩⟩
      rw [same]
      exact mapM_eq_ok.mpr copies
    refine ⟨_, mounted, ?_⟩
    obtain ⟨_, _, _, copies'⟩ := of_mount_fresh reached compiled mounted
    exact Except.ok.inj ((mapM_eq_ok.mpr copies').symm.trans (mapM_eq_ok.mpr copies))

/-- A router without middleware copies a route with its handlers as they are. -/
theorem copied_plain_iff {child : Router} (plain : child.layers = []) {head : Pattern} {strip : Bool}
    {route copy : Route Endpoint} :
    child.copied head strip route = .ok copy ↔ ∃ pattern, head.join route.pattern = .ok pattern ∧
      copy = { route with pattern, strip := head.hidden strip route.strip } := by
  rw [copied_eq_ok]
  constructor
  · rintro ⟨pattern, methods, joined, handed, rfl⟩
    cases methods_carried plain handed
    exact ⟨pattern, Pattern.under_eq_ok.mp joined, rfl⟩
  · rintro ⟨pattern, joined, rfl⟩
    have same (endpoint : Endpoint) : child.carried endpoint = .ok endpoint := by
      rw [carried, plain]
      rfl
    exact ⟨pattern, route.methods, Pattern.under_eq_ok.mpr joined, MethodTable.mapM_eq_self same _, rfl⟩

/-- A copy of a copy is a copy under the joined patterns. -/
theorem copied_copied_iff {child middle : Router} (plain : middle.layers = []) {head tail : Pattern}
    (first : Rooted head.source) (second : Rooted tail.source) {route copy : Route Endpoint}
    (third : Rooted route.pattern.source) :
    (∃ inner, child.copied tail true route = .ok inner ∧ middle.copied head true inner = .ok copy) ↔
      ∃ joined, head.join tail = .ok joined ∧ child.copied joined true route = .ok copy := by
  simp only [copied_plain_iff plain, copied_eq_ok, Pattern.under_eq_ok]
  constructor
  · rintro ⟨_, ⟨behind, methods, joined, handed, rfl⟩, pattern, whole, rfl⟩
    obtain ⟨ahead, front, back⟩ := (Pattern.join_assoc first second third).mp ⟨behind, joined, whole⟩
    refine ⟨ahead, front, pattern, methods, back, handed, ?_⟩
    rw [← Pattern.hidden_hidden front]
  · rintro ⟨ahead, front, pattern, methods, back, handed, rfl⟩
    obtain ⟨behind, joined, whole⟩ := (Pattern.join_assoc first second third).mpr ⟨ahead, front, back⟩
    refine ⟨_, ⟨behind, methods, joined, handed, rfl⟩, pattern, whole, ?_⟩
    rw [← Pattern.hidden_hidden front]

/-- What a router is that another one was mounted on when it was fresh. -/
theorem Reachable.of_mount_fresh {logger : Option Logger} {child parent : Router} (reached : Reachable child)
    {path : String} {strip : Bool}
    (mounted : (Router.fresh settings logger).mount path (.router child) strip = .ok parent) :
    Reachable parent ∧ parent.layers = [] ∧ parent.index.settings = settings ∧
      ∃ frozen, parent.freeze = .ok frozen := by
  obtain ⟨_, added⟩ := exists_add_of_mount mounted
  have same := (routes_of_add added).1
  have plain : parent.layers = [] := by
    rw [same]
    rfl
  have layered : parent.layers = ([] : List AroundFn).map .around := plain
  have openness : parent.frozen = false := by
    rw [same]
    rfl
  obtain ⟨_, point, _⟩ := mount_eq_ok.mp mounted
  obtain ⟨_, compiled, _⟩ := mountPoint_eq_ok.mp point
  obtain ⟨_, _, alike, _⟩ := Router.of_mount_fresh reached compiled mounted
  exact ⟨.mountRouter (.fresh settings logger) reached mounted, plain, alike,
    _, freeze_of_open openness (chain_eq_nest layered)⟩

def mountNested (router middle : Router) (outer inner : String) (child : Router) : Outcome Router := do
  let middle ← middle.mount inner (.router child)
  router.mount outer (.router middle)

/-- Mount a router once, under the source of two joined patterns. -/
def mountJoined (router : Router) (outer inner : String) (child : Router) : Outcome Router := do
  let head ← Outcome.lift .pattern (Pattern.compile outer)
  let tail ← Outcome.lift .pattern (Pattern.compile inner)
  let joined ← Outcome.lift .pattern (head.join tail)
  router.mount joined.source (.router child)

/-- Two mounts, one in the other, can be made when each route can be copied under the joined patterns. -/
theorem exists_mountNested_iff (logger logger' : Option Logger) {child : Router} (reached : Reachable child)
    {outer inner : String} {routes : List (Route Endpoint)} :
    (∃ parent, mountNested (fresh settings logger) (fresh settings logger') outer inner child = .ok parent ∧
        parent.routes = routes) ↔
      child.index.settings = settings ∧ (∃ frozen, child.freeze = .ok frozen) ∧
        ∃ head tail, Pattern.compile outer = .ok head ∧ Pattern.compile inner = .ok tail ∧
          head.hasWildcard = false ∧ tail.hasWildcard = false ∧
          List.Forall₂ (fun route copy => ∃ joined, head.join tail = .ok joined ∧
            child.copied joined true route = .ok copy) child.routes routes := by
  constructor
  · rintro ⟨parent, mounted, same⟩
    obtain ⟨middle, within, around⟩ := bind_eq_ok.mp mounted
    obtain ⟨middleReached, bare, _⟩ := reached.of_mount_fresh within
    obtain ⟨alike, closed, tail, compiled, plain, copies⟩ :=
      (exists_mount_fresh_iff logger' reached).mp ⟨middle, within, rfl⟩
    obtain ⟨_, _, head, compiled', plain', copies'⟩ :=
      (exists_mount_fresh_iff logger middleReached).mp ⟨parent, around, same⟩
    refine ⟨alike, closed, head, tail, compiled', compiled, plain', plain, ?_⟩
    have both := (List.forall₂_and_left _ _).mpr ⟨reached.rooted, forall₂_step_iff.mpr ⟨_, copies, copies'⟩⟩
    refine both.imp fun route copy made => ?_
    exact (copied_copied_iff bare (Pattern.rooted_of_compile compiled') (Pattern.rooted_of_compile compiled)
      made.1).mp made.2
  · rintro ⟨alike, closed, head, tail, compiled', compiled, plain', plain, copies⟩
    have both := (List.forall₂_and_left _ _).mpr ⟨reached.rooted, copies⟩
    have bareFresh : (fresh settings logger').layers = [] := rfl
    have steps := both.imp fun route copy made => (copied_copied_iff bareFresh
      (Pattern.rooted_of_compile compiled') (Pattern.rooted_of_compile compiled) made.1).mpr made.2
    obtain ⟨between, copies, copies'⟩ := forall₂_step_iff.mp steps
    obtain ⟨middle, within, rfl⟩ := (exists_mount_fresh_iff logger' reached).mpr
      ⟨alike, closed, tail, compiled, plain, copies⟩
    obtain ⟨middleReached, bare, alike', closed'⟩ := reached.of_mount_fresh within
    have onward := copies'.imp fun inner copy made =>
      (copied_plain_iff bare).mpr ((copied_plain_iff bareFresh).mp made)
    obtain ⟨parent, around, same⟩ := (exists_mount_fresh_iff logger middleReached).mpr
      ⟨alike', closed', head, compiled', plain', onward⟩
    exact ⟨parent, bind_eq_ok.mpr ⟨middle, within, around⟩, same⟩

/-- One mount under the joined patterns can be made when these can be joined and each route can be copied. -/
theorem exists_mountJoined_iff (logger : Option Logger) {child : Router} (reached : Reachable child)
    {outer inner : String} {routes : List (Route Endpoint)} :
    (∃ parent, mountJoined (fresh settings logger) outer inner child = .ok parent ∧ parent.routes = routes) ↔
      child.index.settings = settings ∧ (∃ frozen, child.freeze = .ok frozen) ∧
        ∃ head tail joined, Pattern.compile outer = .ok head ∧ Pattern.compile inner = .ok tail ∧
          head.join tail = .ok joined ∧ joined.hasWildcard = false ∧
          List.Forall₂ (fun route copy => child.copied joined true route = .ok copy) child.routes routes := by
  simp only [mountJoined, bind_eq_ok, Outcome.lift_eq_ok]
  constructor
  · rintro ⟨parent, ⟨head, compiled, tail, compiled', joined, both, mounted⟩, same⟩
    obtain ⟨alike, closed, _, spelled, plain, copies⟩ :=
      (exists_mount_fresh_iff logger reached).mp ⟨parent, mounted, same⟩
    cases Except.ok.inj (spelled.symm.trans (Pattern.compile_source_of_join compiled compiled' both))
    exact ⟨alike, closed, head, tail, joined, compiled, compiled', both, plain, copies⟩
  · rintro ⟨alike, closed, head, tail, joined, compiled, compiled', both, plain, copies⟩
    obtain ⟨parent, mounted, same⟩ := (exists_mount_fresh_iff logger reached).mpr
      ⟨alike, closed, joined, Pattern.compile_source_of_join compiled compiled' both, plain, copies⟩
    exact ⟨parent, ⟨head, compiled, tail, compiled', joined, both, mounted⟩, same⟩

/-- Mounting twice and mounting once under the joined patterns make routers of the same routes. -/
theorem exists_nested_iff_exists_joined (logger logger' logger'' : Option Logger) {child : Router}
    (reached : Reachable child) (some : child.routes ≠ []) {outer inner : String} {routes : List (Route Endpoint)} :
    (∃ parent, mountNested (fresh settings logger) (fresh settings logger') outer inner child = .ok parent ∧
        parent.routes = routes) ↔
      ∃ parent, mountJoined (fresh settings logger'') outer inner child = .ok parent ∧ parent.routes = routes := by
  rw [exists_mountNested_iff logger logger' reached, exists_mountJoined_iff logger'' reached]
  refine and_congr_right fun _ => and_congr_right fun _ => exists_congr fun head => exists_congr fun tail => ?_
  constructor
  · rintro ⟨compiled, compiled', plain, plain', copies⟩
    -- nested mounts never join the two prefixes by themselves, but a copied route shows that they can be joined
    obtain ⟨route, member⟩ := List.exists_mem_of_ne_nil _ some
    obtain ⟨_, _, joined, both, _⟩ := exists_of_mem_left copies member
    refine ⟨joined, compiled, compiled', both, (Pattern.hasWildcard_of_join both).mpr ⟨plain, plain'⟩, ?_⟩
    refine copies.imp fun route copy made => ?_
    obtain ⟨_, both', copied⟩ := made
    cases Except.ok.inj (both'.symm.trans both)
    exact copied
  · rintro ⟨joined, compiled, compiled', both, plain, copies⟩
    obtain ⟨plain, plain'⟩ := (Pattern.hasWildcard_of_join both).mp plain
    exact ⟨compiled, compiled', plain, plain', copies.imp fun route copy copied => ⟨joined, both, copied⟩⟩

/-- Nested mounts flatten: a router with a route can be mounted on a fresh router, and that one on another fresh
router of the same settings, exactly when it can be mounted once under the joined patterns, and then the outer
router holds the same routes, with their order, patterns, tables, names and hidden positions. -/
theorem Reachable.nested_mounts_flatten {child : Router} (reached : Reachable child) (some : child.routes ≠ [])
    (settings : MatchSettings) (logger logger' logger'' : Option Logger) (outer inner : String) :
    ((∃ nested, mountNested (Router.fresh settings logger) (Router.fresh settings logger') outer inner child =
        .ok nested) ↔
      ∃ flat, mountJoined (Router.fresh settings logger'') outer inner child = .ok flat) ∧
    ∀ nested flat,
      mountNested (Router.fresh settings logger) (Router.fresh settings logger') outer inner child = .ok nested →
      mountJoined (Router.fresh settings logger'') outer inner child = .ok flat → nested.routes = flat.routes := by
  have same {routes : List (Route Endpoint)} :
      (∃ nested, mountNested (Router.fresh settings logger) (Router.fresh settings logger') outer inner child =
          .ok nested ∧ nested.routes = routes) ↔
        ∃ flat, mountJoined (Router.fresh settings logger'') outer inner child = .ok flat ∧ flat.routes = routes :=
    exists_nested_iff_exists_joined logger logger' logger'' reached some
  refine ⟨⟨?_, ?_⟩, ?_⟩
  · rintro ⟨nested, made⟩
    obtain ⟨flat, made', _⟩ := same.mp ⟨nested, made, rfl⟩
    exact ⟨flat, made'⟩
  · rintro ⟨flat, made⟩
    obtain ⟨nested, made', _⟩ := same.mpr ⟨flat, made, rfl⟩
    exact ⟨nested, made'⟩
  · intro nested flat made made'
    obtain ⟨_, made'', routes⟩ := same.mp ⟨nested, made, rfl⟩
    cases Except.ok.inj (made'.symm.trans made'')
    exact routes.symm

theorem nested_mounts_flatten_usersRouter : ∃ child nested flat, usersRouter = .ok child ∧ child.routes ≠ [] ∧
    mountNested (Router.fresh {} none) (Router.fresh {} none) "/api/:version//" "/v/" child = .ok nested ∧
    mountJoined (Router.fresh {} none) "/api/:version//" "/v/" child = .ok flat ∧
    nested.routes.map (·.pattern.source) = ["/api/:version/v/users/:id", "/api/:version/v/users/me"] ∧
    nested.routes = flat.routes := by
  have known : ∃ child nested, usersRouter = .ok child ∧ child.routes ≠ [] ∧
      mountNested (Router.fresh {} none) (Router.fresh {} none) "/api/:version//" "/v/" child = .ok nested ∧
      nested.routes.map (·.pattern.source) = ["/api/:version/v/users/:id", "/api/:version/v/users/me"] :=
    ⟨_, _, rfl, List.cons_ne_nil _ _, rfl, rfl⟩
  obtain ⟨child, nested, made, some, mounted, sources⟩ := known
  obtain ⟨possible, same⟩ := (reachable_usersRouter made).nested_mounts_flatten some {} none none none
    "/api/:version//" "/v/"
  obtain ⟨flat, mounted'⟩ := possible.mp ⟨nested, mounted⟩
  exact ⟨child, nested, flat, made, some, mounted, mounted', sources, same nested flat mounted mounted'⟩

end Router

end HttpRouting

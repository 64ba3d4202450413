import HttpRouting.Proofs.HostDispatch

/-! # What a refused host leaves behind

A registration makes the nodes that are missing on its way, and they stay when it is refused at the end. Such
nodes hold nothing. Trees are `Alike` when they hold the same endpoint for each pattern, whatever their nodes: then
they find the same endpoint for every host and take or refuse the same registrations, after which they are alike
again. A refused registration leads to a tree like the one before, so nothing that is done later can tell that it
was tried.
-/

namespace HttpRouting

namespace HostTree

variable {ε : Type} {node other : HostTree ε}

/-- Whether two trees hold the same endpoint for each pattern. -/
def Alike (node other : HostTree ε) : Prop :=
  ∀ pattern, node.held? pattern = other.held? pattern

/-- A look-up falls through nodes that hold nothing. -/
theorem Alike.find? (alike : node.Alike other) (labels : List String) : node.find? labels = other.find? labels := by
  refine Option.ext fun endpoint => ?_
  rw [find?_eq_some_iff, find?_eq_some_iff]
  simp only [alike _]

theorem Alike.rest (alike : node.Alike other) : node.rest = other.rest :=
  alike [.rest]

theorem Alike.result_plant (alike : node.Alike other) (endpoint : ε) (pattern : HostPattern) :
    (plant endpoint pattern node).1 = (plant endpoint pattern other).1 := by
  rw [HostTree.result_plant, HostTree.result_plant, alike pattern]

theorem Alike.plant (alike : node.Alike other) (endpoint : ε) (pattern : HostPattern) :
    (plant endpoint pattern node).2.Alike (plant endpoint pattern other).2 := by
  intro asked
  rw [held?_plant, held?_plant, alike.result_plant, alike asked]

end HostTree

namespace HostRouter

variable {ε : Type} {router other after : HostRouter ε}

/-- Registrations one after the other: what each of them gives, and the router behind them. -/
def registerEach : HostRouter ε → List (String × ε) → List (Except RegistrationError Unit) × HostRouter ε
  | router, [] => ([], router)
  | router, (text, endpoint) :: calls =>
    let first := router.register text endpoint
    let later := registerEach first.2 calls
    (first.1 :: later.1, later.2)

private theorem resolve?_of_alike (alike : router.root.Alike other.root) (host : String) :
    router.resolve? host = other.resolve? host := by
  rw [resolve?, resolve?, alike.rest, alike.find?]

/-- A step of two routers alike: they give the same result and stay alike. -/
theorem register_of_alike (alike : router.root.Alike other.root) (text : String) (endpoint : ε) :
    (router.register text endpoint).1 = (other.register text endpoint).1 ∧
      (router.register text endpoint).2.root.Alike (other.register text endpoint).2.root := by
  rw [register, register]
  split_ifs
  · exact ⟨rfl, alike⟩
  · dsimp only
    rw [alike.result_plant]
    exact ⟨rfl, alike.plant endpoint (.ofText text)⟩

/-- A run of two routers alike: registrations give the same results, and the routers stay alike. -/
theorem registerEach_of_alike (alike : router.root.Alike other.root) (calls : List (String × ε)) :
    (router.registerEach calls).1 = (other.registerEach calls).1 ∧
      (router.registerEach calls).2.root.Alike (other.registerEach calls).2.root := by
  induction calls generalizing router other with
  | nil => exact ⟨rfl, alike⟩
  | cons call calls ih =>
    obtain ⟨text, endpoint⟩ := call
    obtain ⟨result, alike⟩ := register_of_alike alike text endpoint
    obtain ⟨results, alike⟩ := ih alike
    rw [registerEach, registerEach]
    exact ⟨congrArg₂ _ result results, alike⟩

/-- A refused registration may leave nodes behind, but nothing that they hold. -/
theorem alike_of_refused {text : String} {endpoint : ε} {error : RegistrationError}
    (refused : router.register text endpoint = (.error error, after)) : after.root.Alike router.root := by
  intro pattern
  have holds := held?_register router text endpoint pattern
  rw [refused] at holds
  exact holds

/-- A refused registration goes unnoticed, whatever was registered and refused before it: every host finds the
same endpoint as before, and all that is registered later gives the same results, and the same endpoint for every
host behind it, as it would have without the refused one. -/
theorem refused_unnoticed {text : String} {endpoint : ε} {error : RegistrationError}
    (refused : router.register text endpoint = (.error error, after)) :
    (∀ host, after.resolve? host = router.resolve? host) ∧
      ∀ later : List (String × ε), (after.registerEach later).1 = (router.registerEach later).1 ∧
        ∀ host, (after.registerEach later).2.resolve? host = (router.registerEach later).2.resolve? host := by
  have alike := alike_of_refused refused
  refine ⟨resolve?_of_alike alike, fun later => ?_⟩
  obtain ⟨results, alike⟩ := registerEach_of_alike alike later
  exact ⟨results, resolve?_of_alike alike⟩

/-- A misplaced `*` leaves nodes for `shop.com` and below it. A look-up for that host falls through them to `*.com`,
and the host can still be registered. -/
theorem refused_unnoticed_sites : ∃ after error, sites.1.register "api.*.shop.com" 7 = (.error error, after) ∧
    ((after.root.child? "com").bind (·.child? "shop")).isSome ∧
    ((sites.1.root.child? "com").bind (·.child? "shop")).isNone ∧
    after.resolve? "shop.com" = sites.1.resolve? "shop.com" ∧ sites.1.resolve? "shop.com" = some 4 ∧
    (after.registerEach [("shop.com", 8), ("Shop.com", 9)]).1 =
      (sites.1.registerEach [("shop.com", 8), ("Shop.com", 9)]).1 := by
  have misplaced : (sites.1.register "api.*.shop.com" 7).1.isOk = false := by decide +kernel
  have made : (((sites.1.register "api.*.shop.com" 7).2.root.child? "com").bind (·.child? "shop")).isSome := by
    decide +kernel
  rcases registered : sites.1.register "api.*.shop.com" 7 with ⟨error | _, after⟩
  · rw [registered] at made
    obtain ⟨found, later⟩ := refused_unnoticed registered
    exact ⟨after, error, rfl, made, by decide +kernel, found "shop.com", by decide +kernel, (later _).1⟩
  · rw [registered] at misplaced
    cases misplaced

end HostRouter

end HttpRouting

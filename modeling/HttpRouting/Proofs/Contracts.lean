import HttpRouting.Fault
import Mathlib.Tactic.Common

/-! # Contracts of computations that throw

A computation with a state keeps, when it throws, the state that it had come to. Its contract therefore has
two ends: one that holds of the value and the state when there is a value, and one that holds of the state
when there is none. Contracts go along the steps of a computation.
-/

namespace HttpRouting

variable {ε σ α β : Type}

theorem run_bind (work : ExceptT ε (StateM σ) α) (next : α → ExceptT ε (StateM σ) β) (state : σ) :
    (work >>= next) state = ExceptT.bindCont next (work state).1 (work state).2 :=
  rfl

theorem run_bind_of_ok {work : ExceptT ε (StateM σ) α} {next : α → ExceptT ε (StateM σ) β} {state middle : σ}
    {value : α} (ran : work state = (.ok value, middle)) : (work >>= next) state = next value middle := by
  rw [run_bind, ran]
  rfl

theorem run_bind_of_error {work : ExceptT ε (StateM σ) α} {next : α → ExceptT ε (StateM σ) β}
    {state middle : σ} {fault : ε} (threw : work state = (.error fault, middle)) :
    (work >>= next) state = (.error fault, middle) := by
  rw [run_bind, threw]
  rfl

theorem run_lift_bind (outcome : Except ε α) (next : α → ExceptT ε (StateM σ) β) (state : σ) :
    (liftM outcome >>= next) state =
      match outcome with
      | .ok value => next value state
      | .error fault => (.error fault, state) := by
  cases outcome <;> rfl

/-- What a run ended in meets one condition if it gave a value and another one if it threw. -/
def Ended (after : α → σ → Prop) (failed : σ → Prop) : Except ε α × σ → Prop
  | (.ok value, state) => after value state
  | (.error _, state) => failed state

/-- What holds at either end holds of the state. -/
theorem ended_const_iff {holds : σ → Prop} {run : Except ε α × σ} :
    Ended (fun _ => holds) holds run ↔ holds run.2 := by
  obtain ⟨result, state⟩ := run
  cases result <;> exact Iff.rfl

/-- Whether `work`, started in a state with `before`, gives a value and a state with `after`, or throws in a
state with `failed`. -/
def Meets (before : σ → Prop) (work : ExceptT ε (StateM σ) α) (after : α → σ → Prop)
    (failed : σ → Prop) : Prop :=
  ∀ state, before state → Ended after failed (work state)

namespace Meets

variable {before : σ → Prop} {work : ExceptT ε (StateM σ) α} {after : α → σ → Prop}
  {failed : σ → Prop}

/-- A contract may ask for more and promise less. -/
theorem mono {before' : σ → Prop} {after' : α → σ → Prop} {failed' : σ → Prop}
    (meets : Meets before work after failed) (weaker : ∀ state, before' state → before state)
    (stronger : ∀ value state, after value state → after' value state)
    (stronger' : ∀ state, failed state → failed' state) : Meets before' work after' failed' := by
  intro state holds
  have ended := meets state (weaker state holds)
  generalize work state = run at ended ⊢
  obtain ⟨result, final⟩ := run
  cases result with
  | ok value => exact stronger value final ended
  | error fault => exact stronger' final ended

theorem bind {next : α → ExceptT ε (StateM σ) β} {final : β → σ → Prop}
    (first : Meets before work after failed)
    (second : ∀ value, Meets (after value) (next value) final failed) :
    Meets before (work >>= next) final failed := by
  intro state holds
  have ended := first state holds
  rw [run_bind]
  generalize work state = run at ended ⊢
  obtain ⟨result, middle⟩ := run
  cases result with
  | ok value => exact second value middle ended
  | error fault => exact ended

/-- A fact that does not depend on the state may be used to show the rest. -/
theorem assuming {fact : Prop} (meets : fact → Meets before work after failed) :
    Meets (fun state => before state ∧ fact) work after failed :=
  fun state ⟨holds, known⟩ => meets known state holds

theorem of_pure {value : α} (holds : ∀ state, before state → after value state) :
    Meets before (pure value : ExceptT ε (StateM σ) α) after failed :=
  holds

theorem of_throw {fault : ε} (holds : ∀ state, before state → failed state) :
    Meets before (throw fault : ExceptT ε (StateM σ) α) after failed :=
  holds

theorem of_get {after : σ → σ → Prop} (holds : ∀ state, before state → after state state) :
    Meets before (get : ExceptT ε (StateM σ) σ) after failed :=
  holds

theorem of_modify {change : σ → σ} {after : Unit → σ → Prop}
    (holds : ∀ state, before state → after () (change state)) :
    Meets before (modify change : ExceptT ε (StateM σ) Unit) after failed :=
  holds

/-- A checked value leaves the state alone. -/
theorem of_lift {outcome : Except ε α}
    (given : ∀ value, outcome = .ok value → ∀ state, before state → after value state)
    (refused : ∀ fault, outcome = .error fault → ∀ state, before state → failed state) :
    Meets before (liftM outcome : ExceptT ε (StateM σ) α) after failed := by
  cases outcome with
  | ok value => exact given value rfl
  | error fault => exact refused fault rfl

/-- A loop keeps what each of its rounds keeps. -/
theorem of_forM {γ : Type} {items : List γ} {round : γ → ExceptT ε (StateM σ) Unit}
    (keeps : ∀ item ∈ items, Meets before (round item) (fun _ => before) failed) :
    Meets before (items.forM round) (fun _ => before) failed := by
  induction items with
  | nil => exact fun _ holds => holds
  | cons item items ih =>
    obtain ⟨here, later⟩ := List.forall_mem_cons.mp keeps
    exact here.bind fun _ => ih later

end Meets

end HttpRouting

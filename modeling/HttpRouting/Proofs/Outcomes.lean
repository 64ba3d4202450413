import HttpRouting.Fault
import Mathlib.Data.List.Forall2

/-! # Successful outcomes

What the success of a computation says about its steps: a sequence succeeds when both parts do, and a
list is worked off when every item is.
-/

namespace HttpRouting

theorem bind_eq_ok {ε α β : Type} {first : Except ε α} {next : α → Except ε β} {result : β} :
    first >>= next = .ok result ↔ ∃ value, first = .ok value ∧ next value = .ok result := by
  cases first <;> simp [bind, Except.bind]

theorem bind_eq_error {ε α β : Type} {first : Except ε α} {next : α → Except ε β} {error : ε} :
    first >>= next = .error error ↔
      first = .error error ∨ ∃ value, first = .ok value ∧ next value = .error error := by
  cases first <;> simp [bind, Except.bind]

theorem pure_eq_ok {ε α : Type} {value result : α} :
    (pure value : Except ε α) = .ok result ↔ value = result := by
  simp [pure, Except.pure]

theorem throw_ne_ok {ε α : Type} {error : ε} {result : α} :
    (throw error : Except ε α) ≠ .ok result := by
  simp [throw, throwThe, MonadExceptOf.throw]

theorem toOption_eq_some {ε α : Type} {outcome : Except ε α} {value : α} :
    outcome.toOption = some value ↔ outcome = .ok value := by
  cases outcome <;> simp [Except.toOption]

@[simp] theorem isOk_ok {ε α : Type} (value : α) : (.ok value : Except ε α).isOk = true := rfl

@[simp] theorem isOk_error {ε α : Type} (error : ε) : (.error error : Except ε α).isOk = false := rfl

theorem isOk_iff_exists {ε α : Type} {outcome : Except ε α} :
    outcome.isOk = true ↔ ∃ value, outcome = .ok value := by
  cases outcome <;> simp

@[simp] theorem isOk_mapError {ε φ α : Type} (change : ε → φ) (outcome : Except ε α) :
    (outcome.mapError change).isOk = outcome.isOk := by
  cases outcome <;> rfl

theorem Outcome.lift_eq_ok {α ε : Type} {fault : ε → Fault} {outcome : Except ε α} {value : α} :
    Outcome.lift fault outcome = .ok value ↔ outcome = .ok value := by
  cases outcome <;> simp [Outcome.lift]

theorem Outcome.lift_eq_error {α ε : Type} {fault : ε → Fault} {outcome : Except ε α} {thrown : Fault} :
    Outcome.lift fault outcome = .error thrown ↔ ∃ error, outcome = .error error ∧ fault error = thrown := by
  cases outcome <;> simp [Outcome.lift]

/-- A list is worked off exactly when each of its items is. -/
theorem mapM_eq_ok {ε α β : Type} {work : α → Except ε β} {items : List α} {results : List β} :
    items.mapM work = .ok results ↔
      List.Forall₂ (fun item result => work item = .ok result) items results := by
  induction items generalizing results with
  | nil =>
    rw [List.mapM_nil, pure_eq_ok, List.forall₂_nil_left_iff]
    exact eq_comm
  | cons item items ih =>
    simp only [List.mapM_cons, bind_eq_ok, pure_eq_ok, List.forall₂_cons_left_iff, ih]
    constructor
    · rintro ⟨result, head, results, tail, rfl⟩
      exact ⟨result, results, head, tail, rfl⟩
    · rintro ⟨result, results, head, tail, rfl⟩
      exact ⟨result, head, results, tail, rfl⟩

/-- A list is not worked off exactly when one of its items fails; the error is that of the first. -/
theorem mapM_eq_error {ε α β : Type} {work : α → Except ε β} {items : List α} {error : ε} :
    items.mapM work = .error error ↔ ∃ before item after, items = before ++ item :: after ∧
      (∀ earlier ∈ before, (work earlier).isOk = true) ∧ work item = .error error := by
  induction items with
  | nil => simp [pure, Except.pure]
  | cons item items ih =>
    rw [List.mapM_cons, bind_eq_error]
    constructor
    · rintro (failed | ⟨result, done, later⟩)
      · exact ⟨[], item, items, rfl, by simp, failed⟩
      · rcases bind_eq_error.mp later with later | ⟨_, _, wrong⟩
        · obtain ⟨before, culprit, after, rfl, fine, failed⟩ := ih.mp later
          refine ⟨item :: before, culprit, after, rfl, ?_, failed⟩
          exact List.forall_mem_cons.mpr ⟨isOk_iff_exists.mpr ⟨result, done⟩, fine⟩
        · cases wrong
    · rintro ⟨before, culprit, after, split, fine, failed⟩
      cases before with
      | nil =>
        cases split
        exact .inl failed
      | cons first before =>
        cases split
        obtain ⟨done, fine⟩ := List.forall_mem_cons.mp fine
        obtain ⟨result, done⟩ := isOk_iff_exists.mp done
        exact .inr ⟨result, done, bind_eq_error.mpr (.inl (ih.mpr ⟨before, culprit, after, rfl, fine, failed⟩))⟩

/-- A run whose steps look at their items only succeeds exactly when each of the items is accepted. -/
theorem isOk_foldlM_iff {ε α β : Type} {step : β → α → Except ε β} {accepts : α → Prop}
    (one : ∀ state item, (step state item).isOk = true ↔ accepts item) (items : List α) (start : β) :
    (items.foldlM step start).isOk = true ↔ ∀ item ∈ items, accepts item := by
  induction items generalizing start with
  | nil => simp [pure, Except.pure]
  | cons item items ih =>
    rw [List.foldlM_cons, List.forall_mem_cons, ← one start item]
    cases step start item with
    | error error => simp [bind, Except.bind]
    | ok next => simpa [bind, Except.bind] using ih next

/-- What every successful step of a run keeps, the run keeps. -/
theorem foldlM_ok_induction_mem {ε α β : Type} {step : β → α → Except ε β} {holds : β → Prop}
    {items : List α} (keep : ∀ state, ∀ item ∈ items, ∀ next, holds state → step state item = .ok next → holds next)
    {start final : β} (started : holds start) (ran : items.foldlM step start = .ok final) : holds final := by
  induction items generalizing start with
  | nil =>
    rw [List.foldlM_nil, pure_eq_ok] at ran
    exact ran ▸ started
  | cons item items ih =>
    rw [List.foldlM_cons, bind_eq_ok] at ran
    obtain ⟨next, first, rest⟩ := ran
    have kept := keep start item (List.mem_cons_self ..) next started first
    exact ih (fun state other member => keep state other (List.mem_cons_of_mem _ member)) kept rest

/-- What every successful step keeps, a successful run keeps. -/
theorem foldlM_ok_induction {ε α β : Type} {step : β → α → Except ε β} {holds : β → Prop}
    (keep : ∀ state item next, holds state → step state item = .ok next → holds next)
    {items : List α} {start final : β} (started : holds start)
    (ran : items.foldlM step start = .ok final) : holds final :=
  foldlM_ok_induction_mem (fun state item _ => keep state item) started ran

end HttpRouting

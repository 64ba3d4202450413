import HttpRouting.Proofs.Composition

/-! # Pipelines of middleware

A pipeline is a stack of layers. A layer made of a function turns what that function throws into a response,
and one around the whole call also what comes out of the endpoint inside. A middleware of its own making gives
an endpoint of its own, and nobody but the layers outside can answer what that endpoint throws.

The stack answers in their place only if such an endpoint is its outermost one. Behind layers that come before
or after it, nothing does, unless a layer around the whole call stands between: the main statement says for
which arrangements of layers a pipeline answers every request, whatever its layers throw.
-/

namespace HttpRouting

/-- The kinds of layers of a pipeline: made of a function, or with an endpoint of its own. -/
inductive LayerKind where
  | before
  | after
  | around
  | own
deriving DecidableEq, Repr

namespace LayerKind

/-- Whether it is up to the layer what leaves it, and not to the endpoint inside. -/
def decides : LayerKind → Bool
  | .before | .after => false
  | .around | .own => true

/-- Whether layers of these kinds let out nothing that they throw: the outermost of those that decide is one
around the whole call. -/
def Contained (kinds : List LayerKind) : Prop :=
  kinds.find? decides ≠ some .own

/-- Whether a stack of layers of these kinds lets out nothing that they throw, since it guards an endpoint of
its outermost layer's own. -/
def Sheltered (kinds : List LayerKind) : Prop :=
  kinds.head? = some .own ∨ Contained kinds

instance (kinds : List LayerKind) : Decidable (Sheltered kinds) :=
  inferInstanceAs (Decidable (_ ∨ _ ≠ _))

end LayerKind

variable {thrown : Fault → Prop} {inner : Endpoint}

/-- Whether a middleware gives an endpoint of its own, which can be called but not be put together further, and
throws nothing but faults of a kind and what is thrown by the endpoint inside. -/
def GivesOwn (thrown : Fault → Prop) (build : Endpoint → Outcome Endpoint) : Prop :=
  ∀ inner, ∃ endpoint, build inner = .ok endpoint ∧ endpoint.composable = false ∧
    ∀ inside : Fault → Prop, (∀ request, ThrowsOnly inside (inner.call request)) →
      ∀ request, ThrowsOnly (fun fault => thrown fault ∨ inside fault) (endpoint.call request)

/-- Whether a middleware is a layer of the kind that throws nothing but faults of the class `thrown`. -/
inductive Middleware.OfKind (thrown : Fault → Prop) : LayerKind → Middleware → Prop
  | before {change : BeforeFn} (throws : ∀ request, ThrowsOnly thrown (change request)) :
      OfKind thrown .before (.before change)
  | after {change : AfterFn} (throws : ∀ response, ThrowsOnly thrown (change response)) :
      OfKind thrown .after (.after change)
  | around {wrap : AroundFn} (throws : wrap.ThrowsOnly thrown) : OfKind thrown .around (.around wrap)
  | own {build : Endpoint → Outcome Endpoint} (gives : GivesOwn thrown build) :
      OfKind thrown .own (.custom build)

namespace Middleware

open Endpoint LayerKind

/-- What is known of an endpoint that layers of the kinds were put around: it throws nothing but what they
throw, and nothing at all if they contain that. Only an endpoint of the outermost layer's own cannot be put
together further. -/
structure Wraps (thrown : Fault → Prop) (kinds : List LayerKind) (endpoint : Endpoint) : Prop where
  throws : ∀ request, ThrowsOnly thrown (endpoint.call request)
  contained : Contained kinds → endpoint.AlwaysAnswers
  bare : kinds.head? = some .own → endpoint.composable = false

/-- One more layer keeps what is known. -/
theorem Wraps.transform {kinds : List LayerKind} {kind : LayerKind} {layer : Middleware}
    (answerable : ∀ fault, thrown fault → fault.isAnswerable = true) (wraps : Wraps thrown kinds inner)
    (fits : layer.OfKind thrown kind) :
    ∃ outer, layer.transform inner = .ok outer ∧ Wraps thrown (kind :: kinds) outer := by
  have none (fault : Fault) (left : Unanswered thrown fault) : False := not_unanswered answerable fault left
  have known (fault : Fault) (left : Unanswered thrown fault) : thrown fault := (none fault left).elim
  cases fits with
  | before throws =>
    refine ⟨_, rfl, throwsOnly_before known throws wraps.throws, fun contained => ?_, by simp⟩
    exact alwaysAnswers_iff.mpr
      (throwsOnly_before none throws (alwaysAnswers_iff.mp (wraps.contained contained)))
  | after throws =>
    refine ⟨_, rfl, throwsOnly_after known throws wraps.throws, fun contained => ?_, by simp⟩
    exact alwaysAnswers_iff.mpr
      (throwsOnly_after none throws (alwaysAnswers_iff.mp (wraps.contained contained)))
  | @around wrap throws =>
    have quiet (request : Request) : ThrowsOnly (Unanswered thrown) ((inner.around wrap).call request) := by
      refine throwsOnly_guarded (fun given => ?_) request
      refine (throws thrown given _ fun other => wraps.throws (other.getD given)).mono ?_
      exact fun fault either => .inl (or_self_iff.mp either)
    exact ⟨_, rfl, fun request => (quiet request).mono known,
      fun _ => alwaysAnswers_iff.mpr fun request => (quiet request).mono none, by simp⟩
  | own gives =>
    obtain ⟨endpoint, built, bare, throws⟩ := gives inner
    refine ⟨endpoint, built, fun request => ?_, fun contained => (contained rfl).elim, fun _ => bare⟩
    exact (throws thrown wraps.throws request).mono fun fault either => or_self_iff.mp either

/-- A run over all layers keeps it. -/
theorem wraps_transformAll {kinds : List LayerKind} {layers : List Middleware}
    (answerable : ∀ fault, thrown fault → fault.isAnswerable = true)
    (fits : List.Forall₂ (OfKind thrown) kinds layers) (answers : inner.AlwaysAnswers) :
    ∃ outer, transformAll layers inner = .ok outer ∧ Wraps thrown kinds outer := by
  induction fits with
  | nil =>
    refine ⟨inner, rfl, fun request => ?_, fun _ => answers, by simp⟩
    exact (alwaysAnswers_iff.mp answers request).mono fun _ => False.elim
  | cons here _ ih =>
    obtain ⟨middle, made, wraps⟩ := ih
    obtain ⟨outer, made', wraps'⟩ := wraps.transform answerable here
    exact ⟨outer, bind_eq_ok.mpr ⟨middle, made, made'⟩, wraps'⟩

theorem Wraps.adapt {kinds : List LayerKind} (answerable : ∀ fault, thrown fault → fault.isAnswerable = true)
    (wraps : Wraps thrown kinds inner) (sheltered : Sheltered kinds) : inner.adapt.AlwaysAnswers := by
  rw [Endpoint.adapt]
  split_ifs with composable
  · refine wraps.contained (sheltered.resolve_left fun first => ?_)
    cases (wraps.bare first).symm.trans composable
  · exact alwaysAnswers_guarded answerable wraps.throws

/-- An endpoint of its own that throws on every request. -/
def thrower (fault : Fault) : Endpoint where
  call _ := throw fault
  composable := false

/-- A layer of the kind that leaves everything as it is, but for an endpoint of its own, which throws. -/
def sample (fault : Fault) : LayerKind → Middleware
  | .before => .before pure
  | .after => .after pure
  | .around => .around fun _ next => next none
  | .own => .custom fun _ => .ok (thrower fault)

private theorem ofKind_sample {fault : Fault} (known : thrown fault) (kind : LayerKind) :
    (sample fault kind).OfKind thrown kind := by
  cases kind with
  | before => exact .before fun _ => .of_pure
  | after => exact .after fun _ => .of_pure
  | around => exact .around fun _ _ _ throws => (throws none).mono fun _ => .inr
  | own => exact .own fun _ => ⟨_, rfl, rfl, fun _ _ _ => .of_throw (.inl known)⟩

private theorem forall₂_sample {fault : Fault} (known : thrown fault) (kinds : List LayerKind) :
    List.Forall₂ (OfKind thrown) kinds (kinds.map (sample fault)) :=
  List.forall₂_map_right_iff.mpr (List.forall₂_same.mpr fun kind _ => ofKind_sample known kind)

/-- If the outermost of the layers that decide has an endpoint of its own, what that throws leaves them all. -/
theorem transformAll_sample (fault : Fault) (inner : Endpoint) (kinds : List LayerKind) :
    ∃ outer, transformAll (kinds.map (sample fault)) inner = .ok outer ∧
      (¬Contained kinds → (kinds.head? ≠ some .own → outer.composable = true) ∧
        ∀ request sites world, outer.call request sites world = (.error fault, world)) := by
  induction kinds with
  | nil => exact ⟨inner, rfl, fun exposed => (exposed (by rintro ⟨⟩)).elim⟩
  | cons kind kinds ih =>
    obtain ⟨middle, made, throws⟩ := ih
    cases kind with
    | before =>
      exact ⟨_, bind_eq_ok.mpr ⟨middle, made, rfl⟩, fun exposed => ⟨fun _ => rfl, (throws exposed).2⟩⟩
    | after =>
      refine ⟨_, bind_eq_ok.mpr ⟨middle, made, rfl⟩, fun exposed => ⟨fun _ => rfl, fun request sites world => ?_⟩⟩
      have ran : (middle.after pure).call request sites world =
          (middle.call request >>= fun response => tryCatch (pure response) answerFault) sites world := rfl
      rw [ran, run_act_bind, (throws exposed).2]
    | around =>
      exact ⟨_, bind_eq_ok.mpr ⟨middle, made, rfl⟩, fun exposed => (exposed (by rintro ⟨⟩)).elim⟩
    | own =>
      exact ⟨_, bind_eq_ok.mpr ⟨middle, made, rfl⟩, fun _ => ⟨fun bare => (bare rfl).elim, fun _ _ _ => rfl⟩⟩

/-- The endpoint that answers every request with the same response and does nothing else. -/
def steady : Endpoint where
  call _ := pure { status := 200 }

private theorem alwaysAnswers_steady : steady.AlwaysAnswers :=
  fun _ _ world => ⟨_, world, rfl⟩

/-- Whatever answerable faults the layers throw, a pipeline around an endpoint that always answers does so too
exactly when its layers are of kinds that let nothing out. -/
theorem stack_alwaysAnswers_iff (answerable : ∀ fault, thrown fault → fault.isAnswerable = true)
    (throwable : ∃ fault, thrown fault) (kinds : List LayerKind) :
    (∀ layers, List.Forall₂ (OfKind thrown) kinds layers → ∀ inner : Endpoint, inner.AlwaysAnswers →
      ∃ outer, (Middleware.stack layers).transform inner = .ok outer ∧ outer.AlwaysAnswers) ↔
      Sheltered kinds := by
  constructor
  · intro answers
    obtain ⟨fault, known⟩ := throwable
    obtain ⟨outer, made, answers⟩ := answers _ (forall₂_sample known kinds) steady alwaysAnswers_steady
    obtain ⟨stacked, made', throws⟩ := transformAll_sample fault steady kinds
    rw [Middleware.transform, made'] at made
    cases made
    by_contra exposed
    obtain ⟨apart, exposed⟩ := not_or.mp exposed
    obtain ⟨composable, throws⟩ := throws exposed
    obtain ⟨response, final, answered⟩ := answers (pathRequest "/") (fun _ _ => throw fault) {}
    rw [Endpoint.adapt_of_composable (composable apart)] at answered
    cases (throws _ _ _).symm.trans answered
  · intro sheltered layers fits inner answers
    obtain ⟨outer, made, wraps⟩ := wraps_transformAll answerable fits answers
    exact ⟨outer.adapt, bind_eq_ok.mpr ⟨outer, made, rfl⟩, wraps.adapt answerable sheltered⟩

/-- A layer around the whole call answers for an endpoint of a layer's own, also where others come between. -/
theorem stack_alwaysAnswers_around :
    (∀ fault : Fault, fault.isOrdinary = true → fault.isAnswerable = true) ∧
    (∃ fault : Fault, fault.isOrdinary = true) ∧
    ∀ layers, List.Forall₂ (OfKind fun fault => fault.isOrdinary = true) [.after, .around, .before, .own] layers →
      ∀ inner : Endpoint, inner.AlwaysAnswers →
        ∃ outer, (Middleware.stack layers).transform inner = .ok outer ∧ outer.AlwaysAnswers := by
  have throwable : ∃ fault : Fault, fault.isOrdinary = true := ⟨.named "Error" "boom", rfl⟩
  refine ⟨fun _ => Fault.isAnswerable_of_isOrdinary, throwable, ?_⟩
  exact (stack_alwaysAnswers_iff (fun _ => Fault.isAnswerable_of_isOrdinary) throwable _).mpr (by decide)

/-- Nothing answers for an endpoint of its own that a layer gives which comes second, after one that only comes
before the endpoint. -/
theorem not_alwaysAnswers_behind_before :
    List.Forall₂ (OfKind fun fault => fault.isOrdinary = true) [.before, .own]
      ([.before, .own].map (sample (.named "Error" "boom"))) ∧
    steady.AlwaysAnswers ∧
    ∀ outer, (Middleware.stack ([.before, .own].map (sample (.named "Error" "boom")))).transform steady = .ok outer →
      ¬outer.AlwaysAnswers := by
  refine ⟨forall₂_sample ?_ _, alwaysAnswers_steady, ?_⟩
  · rfl
  · rintro _ ⟨⟩ answers
    obtain ⟨response, final, answered⟩ := answers (pathRequest "/") (fun _ _ => pure { status := 200 }) {}
    cases answered

end Middleware

end HttpRouting

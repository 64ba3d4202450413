import HttpRouting.Middleware
import HttpRouting.Proofs.Throwing

/-! # Endpoints put together from functions

Endpoints are put together from handler functions and plain endpoints, layer by layer, each layer made of one
more function. Every layer turns what its own function throws into a response, and one around the whole call
turns into a response whatever comes out of the endpoint inside.

So such an endpoint answers every request, unless one of its functions throws a fault that cannot be turned into
a response: a fault with a status or headers that no response can carry, a value without a text, or an object that
throws when it is asked for one. Only what such failed attempts leave ever leaves the endpoint.
-/

namespace HttpRouting

/-- Whether an around function throws nothing but faults of a kind and what is thrown by the endpoint inside. -/
def AroundFn.ThrowsOnly (kind : Fault → Prop) (wrap : AroundFn) : Prop :=
  ∀ (inside : Fault → Prop) (request : Request) (next : Next),
    (∀ given, HttpRouting.ThrowsOnly inside (next given)) →
      HttpRouting.ThrowsOnly (fun fault => kind fault ∨ inside fault) (wrap request next)

theorem AroundFn.ThrowsOnly.mono {kind kind' : Fault → Prop} {wrap : AroundFn} (throws : wrap.ThrowsOnly kind)
    (weaker : ∀ fault, kind fault → kind' fault) : wrap.ThrowsOnly kind' :=
  fun inside request next known => (throws inside request next known).mono fun fault => Or.imp_left (weaker fault)

/-- A middleware made of one function that throws nothing but faults of a kind. -/
inductive Middleware.FromFunction (thrown : Fault → Prop) : Middleware → Prop
  | before {change : BeforeFn} (throws : ∀ request, ThrowsOnly thrown (change request)) :
      FromFunction thrown (.before change)
  | after {change : AfterFn} (throws : ∀ response, ThrowsOnly thrown (change response)) :
      FromFunction thrown (.after change)
  | around {wrap : AroundFn} (throws : wrap.ThrowsOnly thrown) : FromFunction thrown (.around wrap)

namespace Endpoint

/-- Whether an endpoint answers every request with a response. -/
def AlwaysAnswers (endpoint : Endpoint) : Prop :=
  ∀ request sites world, ∃ response final, endpoint.call request sites world = (.ok response, final)

/-- An endpoint put together from handler functions and plain endpoints that throw nothing but faults of a
kind, and layers made of such functions. -/
inductive Composed (thrown : Fault → Prop) : Endpoint → Prop
  | function {answer : Request → Act Response} (throws : ∀ request, ThrowsOnly thrown (answer request)) :
      Composed thrown (.ofHandler (.function answer))
  | plain {endpoint : Endpoint} (bare : endpoint.composable = false)
      (throws : ∀ request, ThrowsOnly thrown (endpoint.call request)) :
      Composed thrown (.ofHandler (.endpoint endpoint))
  | before {inner : Endpoint} {change : BeforeFn} (composed : Composed thrown inner)
      (throws : ∀ request, ThrowsOnly thrown (change request)) : Composed thrown (inner.before change)
  | after {inner : Endpoint} {change : AfterFn} (composed : Composed thrown inner)
      (throws : ∀ response, ThrowsOnly thrown (change response)) : Composed thrown (inner.after change)
  | around {inner : Endpoint} {wrap : AroundFn} (composed : Composed thrown inner)
      (throws : wrap.ThrowsOnly thrown) : Composed thrown (inner.around wrap)

/-- What can leave an endpoint whose functions throw `thrown`: the residue of a fault that cannot be turned into a
response, or the residue of that further out. -/
inductive Unanswered (thrown : Fault → Prop) : Fault → Prop
  | failed {cause left : Fault} (known : thrown cause) (residue : cause.residue? = some left) :
      Unanswered thrown left
  | again {cause left : Fault} (unanswered : Unanswered thrown cause) (residue : cause.residue? = some left) :
      Unanswered thrown left

variable {thrown : Fault → Prop} {inner outer : Endpoint}

theorem adapt_of_composable (composable : inner.composable = true) : inner.adapt = inner := by
  rw [adapt, composable]
  rfl

private theorem composable_adapt (endpoint : Endpoint) : endpoint.adapt.composable = true := by
  rw [adapt]
  split_ifs with composable
  · exact composable
  · rfl

theorem composable_ofHandler (handler : Handler) : (ofHandler handler).composable = true := by
  cases handler with
  | function => rfl
  | endpoint endpoint => exact composable_adapt endpoint

/-- Endpoints that are put together can be put together further. -/
theorem Composed.composable (composed : Composed thrown inner) : inner.composable = true := by
  cases composed with
  | function => rfl
  | plain => exact composable_adapt _
  | before | after | around => rfl

/-- A layer of one function gives another such endpoint. -/
theorem Composed.transform {layer : Middleware} (composed : Composed thrown inner)
    (simple : layer.FromFunction thrown) (made : layer.transform inner = .ok outer) : Composed thrown outer := by
  cases simple with
  | before throws =>
    cases made
    exact composed.before throws
  | after throws =>
    cases made
    exact composed.after throws
  | around throws =>
    cases made
    exact composed.around throws

/-- Turning a fault into a response lets nothing through but its residue. -/
theorem throwsOnly_answerFault {fault : Fault} (known : thrown fault ∨ Unanswered thrown fault) :
    ThrowsOnly (Unanswered thrown) (answerFault fault) := by
  intro sites world result final ran
  rcases run_answerFault fault sites world with ⟨_, response, final', answered⟩ | ⟨left, residue, refused⟩
  · cases answered.symm.trans ran
  · cases refused.symm.trans ran
    exact known.elim (.failed · residue) (.again · residue)

/-- Only residues of what is thrown inside leave a guard. -/
theorem throwsOnly_guard {kind : Fault → Prop} {work : Act Response} (throws : ThrowsOnly kind work) :
    ThrowsOnly (fun left => ∃ cause, kind cause ∧ cause.residue? = some left) (tryCatch work answerFault) := by
  refine throws.tryCatch fun cause known sites world fault final ran => ?_
  rcases run_answerFault cause sites world with ⟨_, response, final', answered⟩ | ⟨left, residue, refused⟩
  · cases answered.symm.trans ran
  · cases refused.symm.trans ran
    exact ⟨cause, known, residue⟩

theorem throwsOnly_guarded {answer : Request → Act Response}
    (throws : ∀ request, ThrowsOnly (fun fault => thrown fault ∨ Unanswered thrown fault) (answer request))
    (request : Request) : ThrowsOnly (Unanswered thrown) ((guarded answer).call request) :=
  (throws request).tryCatch fun _ => throwsOnly_answerFault

section

-- whatever leaves the endpoint inside passes these layers, since they look only at their own function
variable {kind : Fault → Prop} (included : ∀ fault, Unanswered thrown fault → kind fault)
include included

theorem throwsOnly_before {change : BeforeFn} (throws : ∀ request, ThrowsOnly thrown (change request))
    (inside : ∀ request, ThrowsOnly kind (inner.call request)) (request : Request) :
    ThrowsOnly kind ((inner.before change).call request) := by
  refine ThrowsOnly.bind (ThrowsOnly.tryCatch ((throws request).bind fun _ => .of_pure) fun fault known => ?_) ?_
  · exact ((throwsOnly_answerFault (.inl known)).mono included).bind fun _ => .of_pure
  · rintro (next | response)
    · exact inside next
    · exact .of_pure

theorem throwsOnly_after {change : AfterFn} (throws : ∀ response, ThrowsOnly thrown (change response))
    (inside : ∀ request, ThrowsOnly kind (inner.call request)) (request : Request) :
    ThrowsOnly kind ((inner.after change).call request) :=
  (inside request).bind fun response =>
    (throws response).tryCatch fun _ known => (throwsOnly_answerFault (.inl known)).mono included

end

/-- Nothing leaves an endpoint that was put together from functions but what failed attempts to answer leave. -/
theorem Composed.throwsOnly (composed : Composed thrown inner) (request : Request) :
    ThrowsOnly (Unanswered thrown) (inner.call request) := by
  induction composed generalizing request with
  | function throws => exact throwsOnly_guarded (fun given => (throws given).mono fun _ => .inl) request
  | plain bare throws =>
    rw [ofHandler, adapt, bare]
    exact throwsOnly_guarded (fun given => (throws given).mono fun _ => .inl) request
  | before _ throws ih => exact throwsOnly_before (fun _ => id) throws ih request
  | after _ throws ih => exact throwsOnly_after (fun _ => id) throws ih request
  | around _ throws ih =>
    exact throwsOnly_guarded (fun given => throws _ given _ fun other => ih (other.getD given)) request

/-- Of what can be turned into responses nothing is left. -/
theorem not_unanswered (answerable : ∀ fault, thrown fault → fault.isAnswerable = true) (fault : Fault) :
    ¬Unanswered thrown fault := by
  intro unanswered
  induction unanswered with
  | failed known residue => cases (Fault.residue?_eq_none_iff.mpr (answerable _ known)).symm.trans residue
  | again _ _ ih => exact ih

/-- Of what throws nothing of its own only violations are left, since these leave nothing. -/
theorem Unanswered.isViolation {fault : Fault} (inert : ∀ fault, thrown fault → fault.isInert = true)
    (unanswered : Unanswered thrown fault) : fault.IsViolation := by
  induction unanswered with
  | failed known residue => exact Fault.isViolation_of_isInert (inert _ known) residue
  | again _ residue ih => cases ih.residue?_eq_none.symm.trans residue

/-- Violations leave nothing, so it does not matter whether they are thrown. -/
theorem Unanswered.of_or_isViolation {fault : Fault}
    (unanswered : Unanswered (fun cause => thrown cause ∨ cause.IsViolation) fault) : Unanswered thrown fault := by
  induction unanswered with
  | failed known residue =>
    rcases known with known | violation
    · exact .failed known residue
    · cases violation.residue?_eq_none.symm.trans residue
  | again _ residue ih => exact .again ih residue

/-- To answer always is to throw nothing at all. -/
theorem alwaysAnswers_iff :
    inner.AlwaysAnswers ↔ ∀ request, ThrowsOnly (fun _ => False) (inner.call request) := by
  constructor
  · intro answers request sites world fault final ran
    obtain ⟨response, final', answered⟩ := answers request sites world
    cases answered.symm.trans ran
  · exact fun throws request => (throws request).returns

theorem Composed.mono {thrown' : Fault → Prop} (composed : Composed thrown inner)
    (weaker : ∀ fault, thrown fault → thrown' fault) : Composed thrown' inner := by
  induction composed with
  | function throws => exact .function fun request => (throws request).mono weaker
  | plain bare throws => exact .plain bare fun request => (throws request).mono weaker
  | before _ throws ih => exact ih.before fun request => (throws request).mono weaker
  | after _ throws ih => exact ih.after fun response => (throws response).mono weaker
  | around _ throws ih => exact ih.around (throws.mono weaker)

/-- What gives a response gives it also when it is guarded. -/
theorem call_guarded_of_ok {answer : Request → Act Response} {request : Request} {sites : Sites}
    {world final : World} {response : Response} (answered : answer request sites world = (.ok response, final)) :
    (guarded answer).call request sites world = (.ok response, final) := by
  have steps : (guarded answer).call request sites world =
      tryCatch (answer request) answerFault sites world := rfl
  rw [steps, run_tryCatch, answered]

/-- What throws only what can be turned into a response always answers once it is guarded. -/
theorem alwaysAnswers_guarded (answerable : ∀ fault, thrown fault → fault.isAnswerable = true)
    {answer : Request → Act Response} (throws : ∀ request, ThrowsOnly thrown (answer request)) :
    (guarded answer).AlwaysAnswers := by
  refine alwaysAnswers_iff.mpr fun request => ?_
  exact (throwsOnly_guarded (fun given => (throws given).mono fun _ => .inl) request).mono
    (not_unanswered answerable)

theorem Composed.alwaysAnswers (composed : Composed thrown inner)
    (answerable : ∀ fault, thrown fault → fault.isAnswerable = true) : inner.AlwaysAnswers :=
  alwaysAnswers_iff.mpr fun request => (composed.throwsOnly request).mono (not_unanswered answerable)

def pathRequest (path : String) : Request where
  message := ⟨"GET", { scheme := "http", path := .segments [] }, {}, none⟩
  cell := 0
  path := path

/-- A handler function that throws a fault lets it through to whoever calls its endpoint as what becomes of an
attempt to answer it. -/
theorem call_throwing (fault : Fault) (request : Request) :
    (ofHandler (.function fun _ => throw fault)).call request = answerFault fault := rfl

/-- Endpoints put together from functions answer every request exactly when all that the functions throw can be
turned into responses. Nothing leaves such an endpoint but what failed attempts to answer leave, and that is
nothing but violations if the functions throw only what throws nothing of its own. -/
theorem composed_alwaysAnswers_iff (thrown : Fault → Prop) :
    ((∀ endpoint, Composed thrown endpoint → endpoint.AlwaysAnswers) ↔
      ∀ fault, thrown fault → fault.isAnswerable = true) ∧
    (∀ endpoint, Composed thrown endpoint → ∀ request, ThrowsOnly (Unanswered thrown) (endpoint.call request)) ∧
    ((∀ fault, thrown fault → fault.isInert = true) → ∀ fault, Unanswered thrown fault → fault.IsViolation) := by
  refine ⟨⟨fun answers fault known => ?_, fun answerable endpoint composed => composed.alwaysAnswers answerable⟩,
    fun endpoint composed => composed.throwsOnly, fun inert fault => Unanswered.isViolation inert⟩
  have throwing : Composed thrown (ofHandler (.function fun _ => throw fault)) :=
    .function fun _ => .of_throw known
  obtain ⟨response, final, answered⟩ := answers _ throwing (pathRequest "/") (fun _ _ => throw fault) {}
  rw [call_throwing] at answered
  rcases run_answerFault fault (fun _ _ => throw fault) {} with ⟨fits, _⟩ | ⟨left, _, refused⟩
  · exact Fault.residue?_eq_none_iff.mp fits
  · cases refused.symm.trans answered

/-- An endpoint whose function throws a fault with a status that no response can have answers nothing. -/
theorem not_alwaysAnswers_status : Composed (fun _ => True)
      (ofHandler (.function fun _ => throw (.http (.ofStatus 999 (some "gone"))))) ∧
    ¬(ofHandler (.function fun _ => throw (.http (.ofStatus 999 (some "gone"))))).AlwaysAnswers := by
  refine ⟨.function fun _ => .of_throw trivial, fun answers => ?_⟩
  obtain ⟨response, final, answered⟩ := answers (pathRequest "/") (fun _ _ => pure { status := 200 }) {}
  have refused : answerFault (.http (.ofStatus 999 (some "gone"))) (fun _ _ => pure { status := 200 }) {} =
      (.error (.violation .outOfRange), {}) := rfl
  cases refused.symm.trans answered

end Endpoint

end HttpRouting

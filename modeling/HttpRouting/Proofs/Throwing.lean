import HttpRouting.Endpoint
import HttpRouting.Proofs.Contracts
import HttpRouting.Proofs.Outcomes
import HttpRouting.Trace

/-! # What computations throw

The faults that a computation can end in, whatever world it starts in and whatever the sites do. What is known
of them goes along the steps of a computation, as contracts do.

A fault is answerable if it can be turned into a response. A failed attempt to turn one into a response leaves a
residue, another fault. That is a violation, which the next attempt answers, unless the fault is an object that
throws whatever it likes when it is asked for its text.
-/

namespace HttpRouting

variable {α β : Type}

/-- Whether all faults that a computation can throw are of a kind. -/
def ThrowsOnly (kind : Fault → Prop) (work : Act α) : Prop :=
  ∀ sites world fault final, work sites world = (.error fault, final) → kind fault

theorem run_ofViolation (result : Except Violation α) (sites : Sites) (world : World) :
    ofViolation result sites world =
      match result with
      | .ok value => (.ok value, world)
      | .error kind => (.error (.violation kind), world) := by
  cases result <;> rfl

theorem run_act_bind (work : Act α) (next : α → Act β) (sites : Sites) (world : World) :
    (work >>= next) sites world =
      match work sites world with
      | (.ok value, middle) => next value sites middle
      | (.error fault, middle) => (.error fault, middle) := by
  change ((work sites >>= fun value => next value sites : Effect β)) world = _
  rw [run_bind]
  rcases work sites world with ⟨result, middle⟩
  cases result <;> rfl

/-- What is caught has done to the world what it did before it threw. -/
theorem run_tryCatch (work : Act α) (handle : Fault → Act α) (sites : Sites) (world : World) :
    tryCatch work handle sites world =
      match work sites world with
      | (.ok value, middle) => (.ok value, middle)
      | (.error fault, middle) => handle fault sites middle := by
  change ExceptT.tryCatch (work sites) (fun fault => handle fault sites) world = _
  simp only [ExceptT.tryCatch, ExceptT.mk, bind, StateT.bind]
  rcases work sites world with ⟨result, middle⟩
  cases result <;> rfl

/-- A changed response is made after one call of the endpoint, unless that threw. -/
theorem Endpoint.call_after (inner : Endpoint) (change : AfterFn) (request : Request) (sites : Sites) (world : World) :
    (inner.after change).call request sites world =
      match inner.call request sites world with
      | (.ok response, final) => tryCatch (change response) answerFault sites final
      | (.error fault, final) => (.error fault, final) := by
  change (inner.call request >>= fun response => tryCatch (change response) answerFault) sites world = _
  rw [run_act_bind]
  rcases inner.call request sites world with ⟨result, final⟩
  cases result <;> rfl

namespace ThrowsOnly

variable {kind kind' : Fault → Prop} {work : Act α}

theorem mono (throws : ThrowsOnly kind work) (weaker : ∀ fault, kind fault → kind' fault) :
    ThrowsOnly kind' work :=
  fun sites world fault final ran => weaker fault (throws sites world fault final ran)

theorem of_pure {value : α} : ThrowsOnly kind (pure value : Act α) := by
  rintro sites world fault final ⟨⟩

theorem of_throw {fault : Fault} (thrown : kind fault) : ThrowsOnly kind (throw fault : Act α) := by
  rintro sites world _ _ ⟨⟩
  exact thrown

theorem of_modify {change : World → World} : ThrowsOnly kind (modify change : Act Unit) := by
  rintro sites world fault final ⟨⟩

private theorem of_get : ThrowsOnly kind (get : Act World) := by
  rintro sites world fault final ⟨⟩

theorem of_ofViolation {result : Except Violation α} (thrown : ∀ violation, kind (.violation violation)) :
    ThrowsOnly kind (ofViolation result) := by
  intro sites world fault final ran
  rw [run_ofViolation] at ran
  cases result with
  | ok value => cases ran
  | error violation =>
    cases ran
    exact thrown violation

theorem bind {next : α → Act β} (first : ThrowsOnly kind work)
    (second : ∀ value, ThrowsOnly kind (next value)) : ThrowsOnly kind (work >>= next) := by
  intro sites world fault final ran
  rw [run_act_bind] at ran
  rcases started : work sites world with ⟨result, middle⟩
  rw [started] at ran
  cases result with
  | ok value => exact second value sites middle fault final ran
  | error thrown =>
    cases ran
    exact first sites world fault final started

/-- What is caught is not thrown, but what deals with it may throw. -/
theorem tryCatch {handle : Fault → Act α} (throws : ThrowsOnly kind work)
    (handled : ∀ fault, kind fault → ThrowsOnly kind' (handle fault)) :
    ThrowsOnly kind' (tryCatch work handle) := by
  intro sites world fault final ran
  rw [run_tryCatch] at ran
  rcases started : work sites world with ⟨result, middle⟩
  rw [started] at ran
  cases result with
  | ok value => cases ran
  | error thrown => exact handled thrown (throws sites world thrown middle started) sites middle fault final ran

/-- What throws nothing at all gives a value. -/
theorem returns (throws : ThrowsOnly (fun _ => False) work) (sites : Sites) (world : World) :
    ∃ value final, work sites world = (.ok value, final) := by
  rcases ran : work sites world with ⟨result, final⟩
  cases result with
  | ok value => exact ⟨value, final, rfl⟩
  | error fault => exact (throws sites world fault final ran).elim

end ThrowsOnly

/-- Telling a span about a route never fails. -/
theorem Trace.throwsOnly_setRoute {kind : Fault → Prop} (pattern method : String) :
    ThrowsOnly kind (setRoute .recording pattern method) := by
  refine ThrowsOnly.bind (ThrowsOnly.of_get.bind fun _ => .of_pure) fun active => ?_
  cases active with
  | none => exact .of_pure
  | some span => exact ThrowsOnly.of_modify.bind fun _ => .of_modify

/-- Header fields are made of pairs exactly when every pair is well formed. -/
theorem Headers.exists_ofPairs_iff {pairs : List (String × String)} :
    (∃ headers, Headers.ofPairs pairs = .ok headers) ↔
      (pairs.all fun pair => Headers.isToken pair.1 && Headers.isValue (Headers.normalValue pair.2)) = true := by
  rw [Headers.ofPairs]
  generalize ({} : Headers) = start
  induction pairs generalizing start with
  | nil => exact ⟨fun _ => rfl, fun _ => ⟨start, rfl⟩⟩
  | cons pair pairs ih =>
    rw [List.foldlM_cons, List.all_cons]
    cases fits : Headers.isToken pair.1 && Headers.isValue (Headers.normalValue pair.2) with
    | true =>
      have added : start.append pair.1 pair.2 =
          .ok ⟨start.fields ++ [(Headers.lowerName pair.1, Headers.normalValue pair.2)]⟩ := by
        rw [Headers.append, Headers.field?, if_pos fits]
        rfl
      rw [added]
      exact ih _
    | false =>
      have refused : start.append pair.1 pair.2 = .error .wrongSort := by
        rw [Headers.append, Headers.field?, fits]
        rfl
      rw [refused]
      constructor
      · rintro ⟨_, ⟨⟩⟩
      · rintro ⟨⟩

/-- Whether a response with a body can carry the status and the headers of a fault. -/
def HttpFault.isCarriable (fault : HttpFault) : Bool :=
  fault.headers.all (fun pair => Headers.fitsOctets pair.1 && Headers.fitsOctets pair.2) &&
    Response.isStatus (Response.statusOf fault.status) &&
    !Response.bodyless.contains (Response.statusOf fault.status) &&
    fault.headers.all fun pair => Headers.isToken pair.1 && Headers.isValue (Headers.normalValue pair.2)

/-- A JSON response is made exactly when it can carry what it is made with. -/
theorem HttpFault.exists_json_iff (fault : HttpFault) (body : Json) :
    (∃ response, Response.json body { status := fault.status, headers := fault.headers } = .ok response) ↔
      fault.isCarriable = true := by
  have typed (headers : Headers) : headers.append "content-type" Response.jsonType =
      .ok ⟨headers.fields ++ [("content-type", "application/json")]⟩ := rfl
  have plain : Headers.fitsOctets "" = true := rfl
  rw [HttpFault.isCarriable, Response.json, Response.make]
  dsimp only
  cases octets : fault.headers.all fun pair => Headers.fitsOctets pair.1 && Headers.fitsOctets pair.2 with
  | false =>
    constructor
    · rintro ⟨_, ⟨⟩⟩
    · rintro ⟨⟩
  | true =>
    cases proper : Response.isStatus (Response.statusOf fault.status) with
    | false =>
      constructor
      · rintro ⟨_, ⟨⟩⟩
      · rintro ⟨⟩
    | true =>
      cases bodyless : Response.bodyless.contains (Response.statusOf fault.status) with
      | true =>
        constructor
        · rintro ⟨_, made⟩
          obtain ⟨_, _, ⟨⟩⟩ := bind_eq_ok.mp made
        · rintro ⟨⟩
      | false =>
        refine Iff.trans ?_ Headers.exists_ofPairs_iff
        constructor
        · rintro ⟨_, made⟩
          obtain ⟨headers, given, _⟩ := bind_eq_ok.mp made
          exact ⟨headers, given⟩
        · rintro ⟨headers, given⟩
          rw [given]
          by_cases typed : headers.has "content-type" = true
          · exact ⟨_, if_pos typed⟩
          · exact ⟨_, if_neg typed⟩

namespace Fault

/-- Whether the fault can be turned into a response. -/
def isAnswerable : Fault → Bool
  | .http carried => carried.isCarriable
  | fault => fault.refusal?.isNone

/-- What a failed attempt to turn the fault into a response throws. -/
def residue? : Fault → Option Fault
  | .http carried =>
    match Response.json (Builder.errorBody carried.message)
        { status := carried.status, headers := carried.headers } with
    | .ok _ => none
    | .error kind => some (.violation kind)
  | fault => fault.refusal?

/-- Whether the fault is an error that carries no status. -/
def isOrdinary : Fault → Bool
  | .http _ | .value _ | .throwing _ | .throwingItself => false
  | _ => true

/-- Whether the fault throws nothing of its own when it is asked for its text. -/
def isInert : Fault → Bool
  | .throwing _ | .throwingItself => false
  | _ => true

theorem isAnswerable_of_isOrdinary {fault : Fault} (ordinary : fault.isOrdinary = true) :
    fault.isAnswerable = true := by
  cases fault with
  | http | value | throwing | throwingItself => cases ordinary
  | pattern | registration | settings | general | named | violation | system => rfl

def IsViolation (fault : Fault) : Prop :=
  ∃ kind, fault = .violation kind

theorem IsViolation.isAnswerable {fault : Fault} (violation : fault.IsViolation) : fault.isAnswerable = true := by
  obtain ⟨kind, rfl⟩ := violation
  rfl

theorem residue?_eq_none_iff {fault : Fault} : fault.residue? = none ↔ fault.isAnswerable = true := by
  cases fault with
  | http carried =>
    rw [residue?, isAnswerable, ← HttpFault.exists_json_iff carried (Builder.errorBody carried.message)]
    cases Response.json (Builder.errorBody carried.message)
      { status := carried.status, headers := carried.headers } with
    | ok response => exact ⟨fun _ => ⟨response, rfl⟩, fun _ => rfl⟩
    | error kind => exact ⟨by rintro ⟨⟩, by rintro ⟨_, ⟨⟩⟩⟩
  | _ => exact Option.isNone_iff_eq_none.symm

theorem IsViolation.residue?_eq_none {fault : Fault} (violation : fault.IsViolation) : fault.residue? = none :=
  residue?_eq_none_iff.mpr violation.isAnswerable

/-- What an inert fault leaves behind is a violation. -/
theorem isViolation_of_isInert {fault left : Fault} (inert : fault.isInert = true)
    (residue : fault.residue? = some left) : left.IsViolation := by
  cases fault with
  | http carried =>
    rw [residue?] at residue
    split at residue
    · cases residue
    · cases residue
      exact ⟨_, rfl⟩
  | value thrown =>
    simp only [residue?, refusal?] at residue
    split_ifs at residue
    cases residue
    exact ⟨_, rfl⟩
  | throwing | throwingItself => cases inert
  | pattern | registration | settings | general | named | violation | system => cases residue

end Fault

/-- The response to a fault that carries no status can always be made. -/
theorem exists_serverError : ∃ response,
    Response.json (Builder.errorBody "Internal Server Error") { status := 500 } = .ok response :=
  (HttpFault.exists_json_iff ⟨500, "", []⟩ _).mpr (by decide)

private theorem run_answerUnhandled (fault : Fault) (sites : Sites) (world : World) :
    (fault.refusal? = none ∧ ∃ response final, answerUnhandled fault sites world = (.ok response, final)) ∨
      ∃ left, fault.refusal? = some left ∧ answerUnhandled fault sites world = (.error left, world) := by
  unfold answerUnhandled
  cases fault.refusal? with
  | some left => exact .inr ⟨left, rfl, rfl⟩
  | none =>
    obtain ⟨response, made⟩ := exists_serverError
    rw [made]
    exact .inl ⟨rfl, response, _, rfl⟩

/-- A fault is turned into a response, unless it leaves a residue, which is thrown then. -/
theorem run_answerFault (fault : Fault) (sites : Sites) (world : World) :
    (fault.residue? = none ∧ ∃ response final, answerFault fault sites world = (.ok response, final)) ∨
      ∃ left, fault.residue? = some left ∧ answerFault fault sites world = (.error left, world) := by
  cases fault with
  | http carried =>
    rw [answerFault, run_ofViolation, Fault.residue?]
    cases Response.json (Builder.errorBody carried.message)
      { status := carried.status, headers := carried.headers } with
    | ok response => exact .inl ⟨rfl, response, world, rfl⟩
    | error kind => exact .inr ⟨.violation kind, rfl, rfl⟩
  | _ =>
    simp only [answerFault, Fault.residue?]
    exact run_answerUnhandled _ sites world

end HttpRouting

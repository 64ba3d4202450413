import HttpRouting.Middleware.Tracing
import HttpRouting.Proofs.SpanTraces
import HttpRouting.Proofs.Throwing

/-! # Work on a span

What `withSpan` and `Middleware.tracing` do with the work inside, whichever telemetry library they use, if only it
keeps to what is relied on of it: they start a span, run the work while the span is active, record on it how the
work ended, and finish it, whichever way that was. What comes out of the work leaves them unchanged.
-/

namespace HttpRouting

/-- What is relied on of a telemetry library. A started span is a new one, counted in the world; what is told to a
span is recorded and does nothing else; a computation that is run while a span is active is run once, with what
comes out of it passed on, and afterwards the span that was active before is again. -/
structure Telemetry.Lawful (api : Telemetry) : Prop where
  getTracer : ∀ name version sites world, ∃ scope, api.getTracer name version sites world = (.ok scope, world)
  startSpan : ∀ scope name kind attributes sites world,
    api.startSpan scope name kind attributes sites world = (.ok world.spanCount,
      { world with spanCount := world.spanCount + 1 }.record
        (.span world.spanCount (.start scope name kind attributes)))
  record : ∀ span event sites world,
    api.record span event sites world = (.ok (), world.record (.span span event))
  activeSpan : ∀ sites world, api.activeSpan sites world = (.ok world.activeSpan, world)
  withActive : ∀ {α : Type} span (work : Act α) sites world, api.withActive span work sites world =
    ((work sites { world with activeSpan := some span }).1,
      { (work sites { world with activeSpan := some span }).2 with activeSpan := world.activeSpan })
  startActive : ∀ {α : Type} scope name kind attributes (work : Nat → Act α),
    api.startActive scope name kind attributes work =
      (api.startSpan scope name kind attributes >>= fun span => api.withActive span (work span))

/-- The library that records everything keeps to that. -/
theorem Telemetry.lawful_recording : Telemetry.recording.Lawful where
  getTracer _ _ _ _ := ⟨_, rfl⟩
  startSpan _ _ _ _ _ _ := rfl
  record _ _ _ _ := rfl
  activeSpan _ _ := rfl
  withActive span work sites world := by
    have once : recording.withActive span work sites world =
        recording.withActive span (fun _ _ => work sites { world with activeSpan := some span }) sites world := rfl
    rw [once]
    rcases work sites { world with activeSpan := some span } with ⟨_ | _, final⟩ <;> rfl
  startActive _ _ _ _ _ := rfl

namespace Trace

variable {α : Type} {api : Telemetry} (lawful : api.Lawful) {sites : Sites}

/-! ## Runs -/

private theorem run_get_bind (next : World → Act α) (sites : Sites) (world : World) :
    (get >>= next) sites world = next world sites world := rfl

/-- What is recorded on a span about a fault that leaves it. -/
def faultNotes (span : Nat) (fault : Fault) : List Event :=
  [.span span (.exception fault.report.name fault.report.message),
    .span span (.status errorCode fault.report.message)]

include lawful

theorem run_record_bind (span : Nat) (event : SpanEvent) (next : Unit → Act α) (sites : Sites) (world : World) :
    (api.record span event >>= next) sites world = next () sites (world.record (.span span event)) := by
  rw [run_act_bind, lawful.record]

private theorem run_recordError_bind (span : Nat) (fault : Fault) (next : Unit → Act α) (sites : Sites)
    (world : World) : (recordError api span fault.report >>= next) sites world =
      next () sites { world with events := world.events ++ faultNotes span fault } := by
  rw [run_act_bind, recordError, run_record_bind lawful, lawful.record]
  simp [World.record, faultNotes]

theorem run_failSpan (span : Nat) (fault : Fault) (sites : Sites) (world : World) :
    (failSpan api span fault : Act α) sites world =
      match fault.refusal? with
      | some refusal => (.error refusal, world.record (.span span .finish))
      | none =>
        (.error fault, { world with events := world.events ++ (faultNotes span fault ++ [.span span .finish]) }) := by
  unfold failSpan
  cases fault.refusal? with
  | some refusal =>
    dsimp only
    rw [run_record_bind lawful]
    rfl
  | none =>
    dsimp only
    rw [run_recordError_bind lawful, run_record_bind lawful, ← List.append_assoc]
    rfl

/-- The span is finished whichever way the work ends. -/
theorem run_onSpan (span : Nat) (work : Act α) (sites : Sites) (world : World) :
    onSpan api span work sites world =
      match work sites world with
      | (.ok value, middle) => (.ok value, middle.record (.span span .finish))
      | (.error fault, middle) => failSpan api span fault sites middle := by
  unfold onSpan
  rw [run_act_bind, run_tryCatch, run_act_bind]
  rcases work sites world with ⟨fault | value, middle⟩
  · rfl
  · change (api.record span .finish >>= fun _ => pure value) sites middle = _
    rw [run_record_bind lawful]
    rfl

/-- It does not matter whether the span is finished while it is active. -/
theorem run_withActive_onSpan (span : Nat) (work : Act α) (sites : Sites) (world : World) :
    api.withActive span (onSpan api span work) sites world =
      onSpan api span (api.withActive span work) sites world := by
  rw [lawful.withActive, run_onSpan lawful, run_onSpan lawful, lawful.withActive]
  rcases work sites { world with activeSpan := some span } with ⟨fault | value, middle⟩
  · dsimp only
    rw [run_failSpan lawful, run_failSpan lawful]
    cases fault.refusal? <;> rfl
  · rfl

omit lawful

/-- A world after a span has been started by a tracer. -/
def begun (world : World) (chosen : Option String) (opened : SpanEvent) : World :=
  { world with
    tracer := chosen
    spanCount := world.spanCount + 1
    events := world.events ++ [.span world.spanCount opened] }

/-- Whether nothing has happened between two worlds but that a new span has been started. -/
def Opens (world first : World) : Prop :=
  ∃ chosen opened, opened.IsStart ∧ first = begun world chosen opened

include lawful in
private theorem run_start (scope name : String) (kind : Option Nat) (attributes : Fields Json) (rest : Nat → Act α)
    (sites : Sites) (world : World) : ∃ first, Opens world first ∧
      (api.startSpan scope name kind attributes >>= rest) sites world = rest world.spanCount sites first := by
  rw [run_act_bind, lawful.startSpan]
  exact ⟨_, ⟨world.tracer, .start scope name kind attributes, trivial, rfl⟩, rfl⟩

include lawful in
private theorem exists_tracer (name version : String) (sites : Sites) (world : World) : ∃ scope chosen,
    tracer api name version sites world = (.ok scope, { world with tracer := chosen }) := by
  unfold tracer
  rw [run_get_bind]
  cases held : world.tracer with
  | none =>
    obtain ⟨scope, ran⟩ := lawful.getTracer name version sites world
    dsimp only
    rw [run_act_bind, ran]
    exact ⟨scope, some scope, rfl⟩
  | some scope => exact ⟨scope, world.tracer, rfl⟩

/-- Choosing a tracer starts no span. -/
theorem Opens.of_chosen {chosen : Option String} {first : World}
    (opens : Opens { world with tracer := chosen } first) : Opens world first := by
  obtain ⟨chosen, opened, start, rfl⟩ := opens
  exact ⟨chosen, opened, start, rfl⟩

include lawful in
theorem run_withSpan (name : String) (kind : Nat) (attributes : Fields Json) (work : Nat → Act α) (sites : Sites)
    (world : World) : ∃ first, Opens world first ∧ withSpan api name kind attributes work sites world =
      onSpan api world.spanCount (api.withActive world.spanCount (work world.spanCount)) sites first := by
  obtain ⟨scope, chosen, ran⟩ := exists_tracer lawful "junction" "0.1.0" sites world
  obtain ⟨first, opens, started⟩ := run_start lawful scope name (some kind) attributes
    (fun span => api.withActive span (onSpan api span (work span))) sites { world with tracer := chosen }
  unfold withSpan
  rw [run_act_bind, ran]
  dsimp only
  rw [lawful.startActive, started, run_withActive_onSpan lawful]
  exact ⟨first, opens.of_chosen, rfl⟩

/-- What runs on the span of a request: the endpoint inside, and then what is recorded about its answer. -/
def answering (api : Telemetry) (span : Nat) (request : Request) (inside : Act Response) : Act Response := do
  let response ← api.withActive span inside
  Middleware.noteAnswer api span request response
  return response

include lawful in
theorem run_tracing {scope : Option String} {wrap : AroundFn} (layer : Middleware.tracing api scope = .around wrap)
    (request : Request) (next : Next) (sites : Sites) (world : World) :
    ∃ first, Opens world first ∧ wrap request next sites world =
      onSpan api world.spanCount (answering api world.spanCount request (next none)) sites first := by
  cases layer
  have starts (scope : String) := run_start lawful scope request.method (some serverKind)
    (Middleware.requestAttributes request) (fun span => onSpan api span (answering api span request (next none))) sites
  cases scope with
  | some scope => exact starts scope world
  | none =>
    obtain ⟨scope, chosen, ran⟩ := exists_tracer lawful "junction" "0.1.0" sites world
    obtain ⟨first, opens, started⟩ := starts scope { world with tracer := chosen }
    refine ⟨first, opens.of_chosen, ?_⟩
    change (tracer api >>= fun scope => _ : Act Response) sites world = _
    rw [run_act_bind, ran]
    exact started

/-- Whether a computation does nothing but record notes on a span. -/
def Notes (span : Nat) (work : Act Unit) : Prop :=
  ∀ sites world, ∃ notes : List SpanEvent, (∀ what ∈ notes, what.IsNote) ∧
    work sites world = (.ok (), { world with events := world.events ++ notes.map (.span span) })

namespace Notes

variable {span : Nat} {work : Act Unit} {next : Unit → Act Unit}

theorem of_pure : Notes span (pure ()) :=
  fun _ world => ⟨[], List.forall_mem_nil _, by simp; rfl⟩

include lawful in
theorem of_record (what : SpanEvent) (isNote : what.IsNote) : Notes span (api.record span what) :=
  fun sites world => ⟨[what], List.forall_mem_singleton.mpr isNote, lawful.record span what sites world⟩

theorem bind (first : Notes span work) (second : Notes span (next ())) : Notes span (work >>= next) := by
  intro sites world
  obtain ⟨notes, are, ran⟩ := first sites world
  obtain ⟨notes', are', ran'⟩ := second sites { world with events := world.events ++ notes.map (.span span) }
  refine ⟨notes ++ notes', List.forall_mem_append.mpr ⟨are, are'⟩, ?_⟩
  rw [run_act_bind, ran]
  dsimp only
  rw [ran', List.map_append, List.append_assoc]

end Notes

private theorem run_matchedRoute? (request : Request) (sites : Sites) (world : World) :
    request.matchedRoute? sites world =
      (.ok (((world.cell request.cell).state.get? matchedRouteKey).bind Json.string?), world) := rfl

include lawful in
/-- What is recorded about an answer are notes on the span. -/
theorem notes_noteAnswer (span : Nat) (request : Request) (response : Response) :
    Notes span (Middleware.noteAnswer api span request response) := by
  have status : Notes span (do
      api.record span (.attribute "http.response.status_code" (Json.ofNat response.status))
      if response.status ≥ 500 then api.record span (.status errorCode none)) := by
    refine (Notes.of_record lawful (.attribute _ _) trivial).bind ?_
    split
    · exact .of_record lawful (.status _ _) trivial
    · exact .of_pure
  intro sites world
  unfold Middleware.noteAnswer
  rw [run_act_bind, run_matchedRoute?]
  dsimp only
  cases ((world.cell request.cell).state.get? matchedRouteKey).bind Json.string? with
  | none => exact status sites world
  | some route =>
    exact (Notes.of_record lawful (.attribute _ _) trivial).bind
      ((Notes.of_record lawful (.rename _) trivial).bind status) sites world

/-! ## What leaves a span -/

/-- The world in which a computation ends that was started in another one, with its active span and after some
more events. -/
def ended (world inner : World) (closing : List Event) : World :=
  { inner with activeSpan := world.activeSpan, events := inner.events ++ closing }

/-- Whether a computation runs another one while a span is active, and then at most records something about the
value that it gave. -/
def Surrounds (sites : Sites) (span : Nat) (work inside : Act α) : Prop :=
  ∀ first, ∃ notes,
    work sites first = ((inside sites { first with activeSpan := some span }).1,
      ended first (inside sites { first with activeSpan := some span }).2 notes) ∧
    ∀ fault, (inside sites { first with activeSpan := some span }).1 = .error fault → notes = []

include lawful in
private theorem surrounds_withActive (sites : Sites) (span : Nat) (inside : Act α) :
    Surrounds sites span (api.withActive span inside) inside := by
  intro first
  rw [lawful.withActive]
  exact ⟨[], by simp [ended], fun _ _ => rfl⟩

include lawful in
private theorem surrounds_answering (sites : Sites) (span : Nat) (request : Request) (inside : Act Response) :
    Surrounds sites span (answering api span request inside) inside := by
  intro first
  rw [answering, run_act_bind, lawful.withActive]
  generalize inside sites { first with activeSpan := some span } = run
  obtain ⟨fault | response, middle⟩ := run
  · exact ⟨[], by simp [ended], fun _ _ => rfl⟩
  · dsimp only
    obtain ⟨notes, -, noted⟩ :=
      notes_noteAnswer lawful span request response sites { middle with activeSpan := first.activeSpan }
    rw [run_act_bind, noted]
    exact ⟨notes.map (.span span), rfl, by rintro fault ⟨⟩⟩

/-- Whether a computation runs another one on a new span, and passes on what comes out of it: a value as it is,
and a fault, too, once it has been recorded on the span. Either way it finishes the span at the end. -/
def PassesOn (sites : Sites) (outer : Act α) (inner : Nat → Act α) : Prop :=
  ∀ world, ∃ chosen opened notes result middle, opened.IsStart ∧
    inner world.spanCount sites { begun world chosen opened with activeSpan := some world.spanCount } =
      (result, middle) ∧
    (outer sites world).2 = ended world middle (notes ++ [.span world.spanCount .finish]) ∧
    (∀ value, result = .ok value → (outer sites world).1 = .ok value) ∧
    ∀ fault, result = .error fault → fault.refusal? = none →
      (outer sites world).1 = .error fault ∧ notes = faultNotes world.spanCount fault

include lawful in
theorem PassesOn.of_surrounds {outer : Act α} {inner work : Nat → Act α}
    (surrounds : ∀ span, Surrounds sites span (work span) (inner span))
    (runs : ∀ world, ∃ first, Opens world first ∧
      outer sites world = onSpan api world.spanCount (work world.spanCount) sites first) :
    PassesOn sites outer inner := by
  intro world
  obtain ⟨_, ⟨chosen, opened, start, rfl⟩, ran⟩ := runs world
  obtain ⟨answered, same, silent⟩ := surrounds world.spanCount (begun world chosen opened)
  rw [ran, run_onSpan lawful, same]
  generalize inside : inner world.spanCount sites
    { begun world chosen opened with activeSpan := some world.spanCount } = run at silent
  obtain ⟨fault | value, middle⟩ := run
  · obtain rfl := silent fault rfl
    dsimp only
    rw [run_failSpan lawful]
    cases refusal : fault.refusal? with
    | none =>
      refine ⟨chosen, opened, faultNotes world.spanCount fault, .error fault, middle, start, inside, ?_, ?_, ?_⟩
      · simp [ended, begun]
      · rintro value ⟨⟩
      · rintro _ ⟨⟩ -
        exact ⟨rfl, rfl⟩
    | some other =>
      refine ⟨chosen, opened, [], .error fault, middle, start, inside, ?_, ?_, ?_⟩
      · simp [ended, begun, World.record]
      · rintro value ⟨⟩
      · rintro _ ⟨⟩ reportable
        cases refusal.symm.trans reportable
  · refine ⟨chosen, opened, answered, .ok value, middle, start, inside, ?_, ?_, ?_⟩
    · simp [ended, begun, World.record]
    · rintro _ ⟨⟩
      rfl
    · rintro fault ⟨⟩

include lawful in
theorem passesOn_withSpan (sites : Sites) (name : String) (kind : Nat) (attributes : Fields Json)
    (work : Nat → Act α) : PassesOn sites (withSpan api name kind attributes work) work :=
  .of_surrounds lawful (fun span => surrounds_withActive lawful sites span (work span))
    (run_withSpan lawful name kind attributes work sites)

include lawful in
theorem passesOn_tracing (sites : Sites) {scope : Option String} {wrap : AroundFn}
    (layer : Middleware.tracing api scope = .around wrap) (request : Request) (next : Next) :
    PassesOn sites (wrap request next) fun _ => next none :=
  .of_surrounds lawful (fun span => surrounds_answering lawful sites span request (next none))
    (run_tracing lawful layer request next sites)

end Trace

end HttpRouting

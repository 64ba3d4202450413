import HttpRouting.Proofs.Composition
import HttpRouting.Proofs.SpanRuns

/-! # Programs that nest spans

A program whose spans are all started by `withSpan` and `Middleware.tracing` of a lawful telemetry library leaves a
balanced trace, however
the two are nested, with whatever runs in between, and whether it ends with a value or a fault: a span is
finished on both ways out, before anything outside goes on.

What runs in between may do anything but start or finish a span of its own, or record something on a span that
is not open around it. It is `Tame` with respect to the spans that are open, which are held; a program is a
`Nesting` if it is put together from tame parts, one after another, in attempts that catch faults, and on new
spans. A function around an endpoint is such a program if it calls what is inside one time after another.
-/

namespace HttpRouting.Trace

variable {α β : Type} {api : Telemetry} (lawful : api.Lawful) {sites : Sites} {held : List Nat}
  {world middle final : World}

/-! ## Balanced runs -/

/-- Whether the spans that are held have been started, the active one among them. -/
structure Ready (held : List Nat) (world : World) : Prop where
  started : ∀ span ∈ held, span < world.spanCount
  active : ∀ span, world.activeSpan = some span → span ∈ held

/-- Whether a run goes from one world to another one with a balanced trace, and leaves the active span as it
was. -/
structure Follows (held : List Nat) (world final : World) : Prop where
  active : final.activeSpan = world.activeSpan
  events : ∃ added, final.events = world.events ++ added ∧ Balanced held world.spanCount added final.spanCount

theorem Follows.le (follows : Follows held world final) : world.spanCount ≤ final.spanCount := by
  obtain ⟨added, -, balanced⟩ := follows.events
  exact balanced.le

theorem Follows.trans (first : Follows held world middle) (second : Follows held middle final) :
    Follows held world final := by
  obtain ⟨added, events, balanced⟩ := first.events
  obtain ⟨added', events', balanced'⟩ := second.events
  refine ⟨second.active.trans first.active, added ++ added', ?_, balanced.append balanced'⟩
  rw [events', events, List.append_assoc]

theorem Ready.follow (ready : Ready held world) (follows : Follows held world final) : Ready held final where
  started span holds := Nat.lt_of_lt_of_le (ready.started span holds) follows.le
  active span active := ready.active span (follows.active ▸ active)

/-- Whether a computation starts and finishes no span, leaves the active span alone, and records nothing about
spans but notes on those that are held. -/
def Tame (sites : Sites) (held : List Nat) (work : Act α) : Prop :=
  ∀ world, Ready held world → (work sites world).2.activeSpan = world.activeSpan ∧
    (work sites world).2.spanCount = world.spanCount ∧
      ∃ added, (work sites world).2.events = world.events ++ added ∧
        ∀ span what, .span span what ∈ added → span ∈ held ∧ what.IsNote

/-- A computation whose runs all have balanced traces. -/
def Tidy (sites : Sites) (held : List Nat) (work : Act α) : Prop :=
  ∀ world, Ready held world → Follows held world (work sites world).2

theorem Tame.tidy {work : Act α} (tame : Tame sites held work) : Tidy sites held work := by
  intro world ready
  obtain ⟨active, spanCount, added, events, notes⟩ := tame world ready
  exact ⟨active, added, events, spanCount ▸ Balanced.of_notes notes⟩

/-- What leaves the world alone is tame. -/
theorem tame_of_same {work : Act α} (same : ∀ world, (work sites world).2 = world) : Tame sites held work := by
  intro world ready
  rw [same world]
  exact ⟨rfl, rfl, [], (List.append_nil _).symm, by simp⟩

/-- Notes on a span that is held are tame. -/
theorem tame_of_notes {span : Nat} {work : Act Unit} (member : span ∈ held) (notes : Notes span work) :
    Tame sites held work := by
  intro world ready
  obtain ⟨recorded, are, ran⟩ := notes sites world
  rw [ran]
  refine ⟨rfl, rfl, recorded.map (.span span), rfl, fun other what noted => ?_⟩
  obtain ⟨_, here, same⟩ := List.mem_map.mp noted
  cases same
  exact ⟨member, are _ here⟩

namespace Tidy

variable {work : Act α}

theorem bind {next : α → Act β} (first : Tidy sites held work) (second : ∀ value, Tidy sites held (next value)) :
    Tidy sites held (work >>= next) := by
  intro world ready
  have begun := first world ready
  rw [run_act_bind]
  generalize work sites world = run at begun ⊢
  obtain ⟨fault | value, middle⟩ := run
  · exact begun
  · exact begun.trans (second value middle (ready.follow begun))

theorem tryCatch {handle : Fault → Act α} (attempt : Tidy sites held work)
    (handled : ∀ fault, Tidy sites held (handle fault)) : Tidy sites held (tryCatch work handle) := by
  intro world ready
  have begun := attempt world ready
  rw [run_tryCatch]
  generalize work sites world = run at begun ⊢
  obtain ⟨fault | value, middle⟩ := run
  · exact begun.trans (handled fault middle (ready.follow begun))
  · exact begun

include lawful in
theorem withActive {span : Nat} (member : span ∈ held) (tidy : Tidy sites held work) :
    Tidy sites held (api.withActive span work) := by
  intro world ready
  have inside : Ready held { world with activeSpan := some span } :=
    ⟨ready.started, fun other active => by cases active; exact member⟩
  obtain ⟨-, events⟩ := tidy _ inside
  rw [lawful.withActive]
  exact ⟨rfl, events⟩

end Tidy

include lawful in
/-- A span that has just been started is finished after the work on it, and encloses its trace. -/
theorem Opens.follows {first : World} (opens : Opens world first) {work : Act α}
    (tidy : Tidy sites (world.spanCount :: held) work) (ready : Ready held world) :
    Follows held world (onSpan api world.spanCount work sites first).2 := by
  obtain ⟨chosen, opened, start, rfl⟩ := opens
  have inside : Ready (world.spanCount :: held) (begun world chosen opened) := by
    refine ⟨fun span holds => ?_, fun span active => List.mem_cons_of_mem _ (ready.active span active)⟩
    rcases List.mem_cons.mp holds with rfl | holds
    · exact Nat.lt_succ_self _
    · exact Nat.lt_succ_of_lt (ready.started span holds)
  obtain ⟨active, added, events, balanced⟩ := tidy _ inside
  -- both ways out record some notes on the span and then finish it
  have ends (notes : List Event) {final : World}
      (same : final.activeSpan = (work sites (begun world chosen opened)).2.activeSpan)
      (counted : final.spanCount = (work sites (begun world chosen opened)).2.spanCount)
      (recorded : final.events = (work sites (begun world chosen opened)).2.events ++
        (notes ++ [.span world.spanCount .finish]))
      (are : ∀ span what, .span span what ∈ notes → span ∈ world.spanCount :: held ∧ what.IsNote) :
      Follows held world final := by
    refine ⟨same.trans active,
      .span world.spanCount opened :: ((added ++ notes) ++ .span world.spanCount .finish :: []), ?_, ?_⟩
    · rw [recorded, events]
      simp [begun]
    · rw [counted]
      exact .span start (balanced.append (.of_notes are)) .nil
  rw [run_onSpan lawful]
  generalize work sites (begun world chosen opened) = run at ends
  obtain ⟨fault | value, middle⟩ := run
  · dsimp only at ends ⊢
    rw [run_failSpan lawful]
    cases fault.refusal? with
    | some refusal => exact ends [] rfl rfl rfl (by simp)
    | none =>
      refine ends _ rfl rfl rfl fun span what member => ?_
      simp only [faultNotes, List.mem_cons, Event.span.injEq, List.not_mem_nil, or_false] at member
      rcases member with ⟨rfl, rfl⟩ | ⟨rfl, rfl⟩ <;> exact ⟨List.mem_cons_self .., trivial⟩
  · exact ends [] rfl rfl rfl (by simp)

include lawful in
private theorem tidy_withSpan {name : String} {kind : Nat} {attributes : Fields Json} {work : Nat → Act α}
    (inside : ∀ span, Tidy sites (span :: held) (work span)) :
    Tidy sites held (withSpan api name kind attributes work) := by
  intro world ready
  obtain ⟨first, opens, ran⟩ := run_withSpan lawful name kind attributes work sites world
  rw [ran]
  exact opens.follows lawful ((inside _).withActive lawful (List.mem_cons_self ..)) ready

include lawful in
private theorem tidy_tracing {scope : Option String} {wrap : AroundFn}
    (layer : Middleware.tracing api scope = .around wrap) {request : Request} {next : Next}
    (inside : ∀ span, Tidy sites (span :: held) (next none)) :
    Tidy sites held (wrap request next) := by
  intro world ready
  obtain ⟨first, opens, ran⟩ := run_tracing lawful layer request next sites world
  rw [ran]
  have here := List.mem_cons_self (a := world.spanCount) (l := held)
  refine opens.follows lawful (((inside _).withActive lawful here).bind fun response => ?_) ready
  have noted : Tidy sites (world.spanCount :: held) (Middleware.noteAnswer api world.spanCount request response) :=
    (tame_of_notes here (notes_noteAnswer lawful world.spanCount request response)).tidy
  exact noted.bind fun _ => (tame_of_same fun _ => rfl).tidy

/-! ## Nestings -/

/-- The programs that nest spans: tame computations, put together one after another, in attempts that catch
faults, on spans of their own and in layers that trace requests. Those spans that are held are the ones around
the program; what runs on a new span may hold that one, too. A call that is passed on to a site runs there. -/
inductive Nesting (api : Telemetry) : Sites → List Nat → {α : Type} → Act α → Prop where
  | plain {sites : Sites} {held : List Nat} {α : Type} {work : Act α} (tame : Tame sites held work) :
      Nesting api sites held work
  | bind {sites : Sites} {held : List Nat} {α β : Type} {work : Act α} {next : α → Act β}
      (first : Nesting api sites held work) (rest : ∀ value, Nesting api sites held (next value)) :
      Nesting api sites held (work >>= next)
  | tryCatch {sites : Sites} {held : List Nat} {α : Type} {work : Act α} {handle : Fault → Act α}
      (attempt : Nesting api sites held work) (handled : ∀ fault, Nesting api sites held (handle fault)) :
      Nesting api sites held (tryCatch work handle)
  | withSpan {sites : Sites} {held : List Nat} {α : Type} {name : String} {kind : Nat} {attributes : Fields Json}
      {work : Nat → Act α} (inside : ∀ span, Nesting api sites (span :: held) (work span)) :
      Nesting api sites held (withSpan api name kind attributes work)
  | tracing {sites : Sites} {held : List Nat} {scope : Option String} {wrap : AroundFn} {request : Request}
      {next : Next} (layer : Middleware.tracing api scope = .around wrap)
      (inside : ∀ span, Nesting api sites (span :: held) (next none)) : Nesting api sites held (wrap request next)
  | passed {sites sites' : Sites} {held : List Nat} {α : Type} {work inner : Act α}
      (runs : work sites = inner sites') (inside : Nesting api sites' held inner) : Nesting api sites held work

/-- The runs of nestings have balanced traces. -/
theorem Nesting.tidy {work : Act α} (lawful : api.Lawful) (nesting : Nesting api sites held work) :
    Tidy sites held work := by
  induction nesting with
  | plain tame => exact tame.tidy
  | bind _ _ first rest => exact first.bind rest
  | tryCatch _ _ attempt handled => exact attempt.tryCatch handled
  | withSpan _ inside => exact tidy_withSpan lawful inside
  | tracing layer _ inside => exact tidy_tracing lawful layer inside
  | passed runs _ inside =>
    intro world ready
    rw [runs]
    exact inside world ready

/-! ## Tame parts -/

private theorem tame_logTo (logger : Logger) (level : Level) (message : String) (context : LogContext)
    (error : Option ErrorReport) : Tame sites held (logTo logger level message context error) := by
  intro world ready
  change (world.log logger level message context error).activeSpan = _ ∧
    (world.log logger level message context error).spanCount = _ ∧
      ∃ added, (world.log logger level message context error).events = _ ∧ _
  unfold World.log
  split
  · exact ⟨rfl, rfl, [], (List.append_nil _).symm, by simp⟩
  · split
    · exact ⟨rfl, rfl, [_], rfl, by simp⟩
    · exact ⟨rfl, rfl, [_], rfl, by simp⟩

include lawful in
/-- The active span is held, and may be told about a route. -/
theorem tame_setRoute (pattern method : String) (rename : Bool) :
    Tame sites held (setRoute api pattern method rename) := by
  intro world ready
  unfold setRoute
  rw [run_act_bind, lawful.activeSpan]
  cases active : world.activeSpan with
  | none => exact ⟨active, rfl, [], (List.append_nil _).symm, by simp⟩
  | some span =>
    have notes : Notes span (do
        api.record span (.attribute "http.route" (.string pattern))
        if rename then api.record span (.rename (method ++ " " ++ pattern))) := by
      refine (Notes.of_record lawful (.attribute _ _) trivial).bind ?_
      split
      · exact .of_record lawful (.rename _) trivial
      · exact .of_pure
    simpa only [active] using tame_of_notes (ready.active span active) notes world ready

private theorem nesting_ofViolation (result : Except Violation α) : Nesting api sites held (ofViolation result) := by
  refine .plain (tame_of_same fun world => ?_)
  rw [run_ofViolation]
  cases result <;> rfl

/-- Answering a fault writes at most a log entry. -/
theorem nesting_answerFault (fault : Fault) : Nesting api sites held (answerFault fault) := by
  have unhandled (fault : Fault) : Nesting api sites held (answerUnhandled fault) := by
    unfold answerUnhandled
    split
    · exact .plain (tame_of_same fun _ => rfl)
    · refine .bind (.plain (tame_of_same fun _ => rfl)) fun world => ?_
      exact .bind (.plain (tame_logTo _ _ _ _ _)) fun _ => nesting_ofViolation _
  unfold answerFault
  split
  · exact nesting_ofViolation _
  · exact unhandled _

/-! ## Layers -/

/-- An endpoint that nests spans, whichever spans are open around it. -/
def Nests (api : Telemetry) (sites : Sites) (endpoint : Endpoint) : Prop :=
  ∀ held request, Nesting api sites held (endpoint.call request)

/-- A function around an endpoint that nests spans if what it calls does: it may call that any number of times,
one after another. -/
def Wraps (api : Telemetry) (sites : Sites) (wrap : AroundFn) : Prop :=
  ∀ next : Next, (∀ held given, Nesting api sites held (next given)) →
    ∀ held request, Nesting api sites held (wrap request next)

theorem Nests.around {inner : Endpoint} {wrap : AroundFn} (nests : Nests api sites inner)
    (wraps : Wraps api sites wrap) : Nests api sites (inner.around wrap) :=
  fun held request => .tryCatch (wraps _ (fun held given => nests held (given.getD request)) held request)
    nesting_answerFault

private theorem wraps_tracing {scope : Option String} {wrap : AroundFn}
    (layer : Middleware.tracing api scope = .around wrap) : Wraps api sites wrap :=
  fun _ nests _ _ => .tracing layer fun _ => nests _ none

/-- In every nesting, each span that is started is started and finished once, with everything recorded on it in
between, and after every span that was started meanwhile. What leaves a traced layer or `withSpan` is what came
from inside, and a fault has been recorded on the span. -/
theorem spans_balanced (api : Telemetry) (lawful : api.Lawful) :
    (∀ {α : Type} (sites : Sites) (held : List Nat) (work : Act α), Nesting api sites held work →
      ∀ world, Ready held world → ∃ added, (work sites world).2.events = world.events ++ added ∧
        ∀ span what, .span span what ∈ added → span ∈ held ∧ what.IsNote ∨ Enclosed span added) ∧
    (∀ {α : Type} (sites : Sites) (name : String) (kind : Nat) (attributes : Fields Json) (work : Nat → Act α),
      PassesOn sites (withSpan api name kind attributes work) work) ∧
    ∀ (sites : Sites) (scope : Option String) (wrap : AroundFn), Middleware.tracing api scope = .around wrap →
      ∀ request next, PassesOn sites (wrap request next) fun _ => next none := by
  refine ⟨fun sites held work nesting world ready => ?_, passesOn_withSpan lawful,
    fun sites scope wrap layer request next => passesOn_tracing lawful sites layer request next⟩
  obtain ⟨-, added, events, balanced⟩ := nesting.tidy lawful world ready
  refine ⟨added, events, fun span what member => ?_⟩
  exact (balanced.of_mem member).imp_right fun between => balanced.enclosed ready.started between.1 between.2

/-- An endpoint that fails on a span of its own, after telling it about a route. -/
def failing (api : Telemetry) : Endpoint where
  call _ := withSpan api "work" internalKind [] fun _ => do
    setRoute api "/work" "GET"
    throw (.general "out of order")

/-- A layer that calls what is inside a second time after a fault. -/
def retrying : AroundFn :=
  fun _ next => tryCatch (next none) fun _ => next none

theorem spans_balanced_retrying :
    Telemetry.recording.Lawful ∧
    (∃ outer, (Middleware.tracing .recording).transform ((failing .recording).around retrying) = .ok outer ∧
      ∃ added, (outer.call (Endpoint.pathRequest "/work") (fun _ _ => throw (.general "no site")) {}).2.events =
          [] ++ added ∧
        ∀ span what, .span span what ∈ added → span ∈ [] ∧ what.IsNote ∨ Enclosed span added) ∧
    ∃ wrap, Middleware.tracing .recording = .around wrap ∧ ∀ sites request,
      PassesOn sites (wrap request fun _ => (failing .recording).call request)
        fun _ => (failing .recording).call request := by
  have fails : Nests .recording (fun _ _ => throw (.general "no site")) (failing .recording) := fun held request =>
    .withSpan fun span => .bind (.plain (tame_setRoute Telemetry.lawful_recording _ _ _))
      fun _ => .plain (tame_of_same fun _ => rfl)
  have retries : Wraps .recording (fun _ _ => throw (.general "no site")) retrying := fun next nests held request =>
    .tryCatch (nests held none) fun _ => nests held none
  obtain ⟨wrap, traced⟩ : ∃ wrap, Middleware.tracing .recording = .around wrap := ⟨_, rfl⟩
  have spans := spans_balanced .recording Telemetry.lawful_recording
  refine ⟨Telemetry.lawful_recording, ⟨((failing .recording).around retrying).around wrap, by rw [traced]; rfl, ?_⟩,
    wrap, traced, fun sites request => ?_⟩
  · have nests := (fails.around retries).around (wraps_tracing traced) [] (Endpoint.pathRequest "/work")
    exact spans.1 _ [] _ nests {} ⟨List.forall_mem_nil _, fun span active => by cases active⟩
  · exact spans.2.2 sites none wrap traced request fun _ => (failing .recording).call request

end HttpRouting.Trace

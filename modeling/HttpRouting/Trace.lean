import HttpRouting.Effect

/-! # Spans

A span stands for one piece of work. It is started by a tracer, is active while the work runs, and is
finished when the work ends, however it ends; a fault that passes through is recorded on it first. The
tracer is chosen once and then kept until it is replaced.

Tracers, spans and the active span belong to a telemetry library. What it does is a parameter of all that
works on spans; `Telemetry.recording` is a library that keeps everything in the world.
-/

namespace HttpRouting

/-- The operations of a telemetry library. Spans are known by their numbers, tracers by their scopes. -/
structure Telemetry where
  /-- The scope of the tracer of a name and version. -/
  getTracer (name version : String) : Act String
  /-- Start a span by the tracer of a scope. -/
  startSpan (scope name : String) (kind : Option Nat := none) (attributes : Fields Json := []) : Act Nat
  /-- Tell a span what happens to it. -/
  record (span : Nat) (event : SpanEvent) : Act Unit
  activeSpan : Act (Option Nat)
  /-- Run a computation while a span is active. -/
  withActive {α : Type} (span : Nat) (work : Act α) : Act α
  /-- Start a span and run a computation while it is active. -/
  startActive {α : Type} (scope name : String) (kind : Option Nat) (attributes : Fields Json)
    (work : Nat → Act α) : Act α

namespace Recorder

def startSpan (scope name : String) (kind : Option Nat) (attributes : Fields Json) : Act Nat := do
  let span := (← get).spanCount
  modify fun world => { world with spanCount := span + 1 }
  modify (·.record (.span span (.start scope name kind attributes)))
  return span

/-- Run a computation while a span is active; afterwards the span that was active before is again,
even when the computation throws. -/
def withActive {α : Type} (span : Nat) (work : Act α) : Act α := do
  let outer := (← get).activeSpan
  modify fun world => { world with activeSpan := some span }
  try
    let value ← work
    modify fun world => { world with activeSpan := outer }
    return value
  catch fault =>
    modify fun world => { world with activeSpan := outer }
    throw fault

end Recorder

/-- The library that numbers spans as they are started and records all that happens to them. -/
def Telemetry.recording : Telemetry where
  getTracer name version := return name ++ "@" ++ version
  startSpan := Recorder.startSpan
  record span event := modify (·.record (.span span event))
  activeSpan := return (← get).activeSpan
  withActive := Recorder.withActive
  startActive scope name kind attributes work := do
    let span ← Recorder.startSpan scope name kind attributes
    Recorder.withActive span (work span)

namespace Trace

/-- The kind of a span inside a program. -/
def internalKind : Nat := 0

/-- The kind of a span that answers a request. -/
def serverKind : Nat := 1

/-- The status code of a span that failed. -/
def errorCode : Nat := 2

/-- Replace the tracer; without one the next use chooses again. -/
def setTracer (scope : Option String) : Act Unit :=
  modify fun world => { world with tracer := scope }

/-- The scope of the tracer in use; the first call chooses it. -/
def tracer (api : Telemetry) (name : String := "junction") (version : String := "0.1.0") : Act String := do
  match (← get).tracer with
  | some scope => return scope
  | none =>
    let scope ← api.getTracer name version
    setTracer (some scope)
    return scope

def recordError (api : Telemetry) (span : Nat) (error : ErrorReport) (message : Option String := none) :
    Act Unit := do
  api.record span (.exception error.name error.message)
  api.record span (.status errorCode (message.orElse fun _ => error.message))

/-- Finish a span that a fault leaves, after recording the fault on it, and let the fault through. In place
of a fault that cannot be reported leaves what the attempt to report it throws. -/
def failSpan {α : Type} (api : Telemetry) (span : Nat) (fault : Fault) : Act α :=
  match fault.refusal? with
  | some refusal => do
    api.record span .finish
    throw refusal
  | none => do
    recordError api span fault.report
    api.record span .finish
    throw fault

/-- Run a computation on a span that has been started, and finish the span however the computation ends. -/
def onSpan {α : Type} (api : Telemetry) (span : Nat) (work : Act α) : Act α := do
  let result : Fault ⊕ α ← tryCatch (do return .inr (← work)) fun fault => return .inl fault
  match result with
  | .inl fault => failSpan api span fault
  | .inr value =>
    api.record span .finish
    return value

/-- Run a computation inside a new active span. -/
def withSpan {α : Type} (api : Telemetry) (name : String) (kind : Nat := internalKind)
    (attributes : Fields Json := []) (work : Nat → Act α) : Act α := do
  let scope ← tracer api
  api.startActive scope name (some kind) attributes fun span => onSpan api span (work span)

/-- Tell the active span, if there is one, which route was matched. -/
def setRoute (api : Telemetry) (pattern method : String) (rename : Bool := true) : Act Unit := do
  match ← api.activeSpan with
  | none => return
  | some span =>
    api.record span (.attribute "http.route" (.string pattern))
    if rename then api.record span (.rename (method ++ " " ++ pattern))

end Trace

end HttpRouting

import HttpRouting.Effect
import HttpRouting.Http.Builder

/-! # Endpoints

An endpoint answers a request with a response. Wrapping an endpoint gives another endpoint, so a
chain of them is put together once and for all before the first request: in `handler` wrapped by `A`
wrapped by `B`, `B` sees the request first and the response last.

Each wrapper turns the faults of its own function into responses. A wrapper around the whole call, and
an adapted handler or plain endpoint, does so for everything inside it; one that only comes before or
after does not see the faults of the endpoint it wraps. An endpoint that is merely handed over, and
was made by none of the functions here, is not `composable` until it is adapted.
-/

namespace HttpRouting

/-- Something that answers requests. The tag tells whether two endpoints are the same object. -/
structure Endpoint where
  call : Request → Act Response
  composable : Bool := true
  tag : Option Nat := none

abbrev BeforeFn := Request → Act Request

abbrev AfterFn := Response → Act Response

/-- Answer the request, or the one given instead. -/
abbrev Next := Option Request → Act Response

/-- A function around the whole call. -/
abbrev AroundFn := Request → Next → Act Response

/-- What can be registered: a function or an endpoint. -/
inductive Handler where
  | function (answer : Request → Act Response)
  | endpoint (endpoint : Endpoint)

/-- The answer to a fault that carries no status: it is logged and becomes a 500. If it cannot be
reported, what the attempt throws is thrown in its place. -/
def answerUnhandled (fault : Fault) : Act Response :=
  match fault.refusal? with
  | some refusal => throw refusal
  | none => do
    logTo (← get).logger .error "Unhandled error while handling request" [] (some fault.report)
    ofViolation (Response.json (Builder.errorBody "Internal Server Error") { status := 500 })

/-- The answer to a fault. One that carries a status becomes a response with it, unless no response can
carry it. -/
def answerFault : Fault → Act Response
  | .http carried =>
    ofViolation (Response.json (Builder.errorBody carried.message)
      { status := carried.status, headers := carried.headers })
  | fault => answerUnhandled fault

namespace Endpoint

/-- The endpoint that answers with `answer` and turns its faults into responses. -/
def guarded (answer : Request → Act Response) : Endpoint where
  call request := tryCatch (answer request) answerFault

/-- The endpoint as one that can be wrapped: itself if it already can be, else guarded. -/
def adapt (endpoint : Endpoint) : Endpoint :=
  if endpoint.composable then endpoint else guarded endpoint.call

def ofHandler : Handler → Endpoint
  | .function answer => guarded answer
  | .endpoint endpoint => endpoint.adapt

def before (inner : Endpoint) (change : BeforeFn) : Endpoint where
  call request := do
    let changed : Request ⊕ Response ←
      tryCatch (do return .inl (← change request)) fun fault => do return .inr (← answerFault fault)
    match changed with
    | .inl next => inner.call next
    | .inr response => return response

def after (inner : Endpoint) (change : AfterFn) : Endpoint where
  call request := do
    let response ← inner.call request
    tryCatch (change response) answerFault

def around (inner : Endpoint) (wrap : AroundFn) : Endpoint :=
  guarded fun request => wrap request fun next => inner.call (next.getD request)

/-- The endpoint that answers `HEAD` in the place of one that answers `GET`. -/
def headOf (inner : Endpoint) : Endpoint :=
  inner.after fun response => ofViolation response.withoutBody

def site (number : Nat) (tag : Option Nat := none) : Endpoint where
  call request := fun sites => sites number request
  tag := tag

/-- The endpoint that answers every request with a 404. -/
def notFound : Endpoint :=
  guarded fun _ => ofViolation Response.notFound

end Endpoint

end HttpRouting

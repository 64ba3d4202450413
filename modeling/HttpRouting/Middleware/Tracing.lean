import HttpRouting.Middleware
import HttpRouting.Trace

/-! # A span for every request

Starts a span for each request and keeps it active while the endpoint answers. Once a route has been
matched the span is renamed after it; a fault is recorded on the span before it travels on.
-/

namespace HttpRouting.Middleware

/-- What a request's span is started with. -/
def requestAttributes (request : Request) : Fields Json :=
  [("http.request.method", .string request.method), ("url.path", .string request.receivedPath),
    ("url.scheme", .string request.scheme)]

def noteAnswer (api : Telemetry) (span : Nat) (request : Request) (response : Response) : Act Unit := do
  match ← request.matchedRoute? with
  | none => pure ()
  | some route =>
    api.record span (.attribute "http.route" (.string route))
    api.record span (.rename (request.method ++ " " ++ route))
  api.record span (.attribute "http.response.status_code" (Json.ofNat response.status))
  if response.status ≥ 500 then api.record span (.status Trace.errorCode none)

/-- The middleware that traces requests, by the tracer of the given scope if there is one. -/
def tracing (api : Telemetry) (scope : Option String := none) : Middleware :=
  .around fun request next => do
    let scope ←
      match scope with
      | some scope => pure scope
      | none => Trace.tracer api
    let span ← api.startSpan scope request.method (some Trace.serverKind) (requestAttributes request)
    Trace.onSpan api span do
      let response ← api.withActive span (next none)
      noteAnswer api span request response
      return response

end HttpRouting.Middleware

import HttpRouting.Middleware

/-! # A log of requests

Writes a line when a request arrives and one when it has been answered, through a logger that tags
both with the request. How urgent the second line is follows from the status.
-/

namespace HttpRouting

/-- What is logged, and where. Without a logger of its own the process logger at the time of the
request is used. -/
structure LoggingOptions where
  logger : Option Logger := none
  logRequest : Bool := false
  logResponse : Bool := true
  logHeaders : Bool := false
  /-- Paths that begin with one of these are not logged. -/
  excludePaths : List String := ["/health", "/ready", "/favicon.ico"]

namespace LoggingOptions

def requestLogger (options : LoggingOptions) (request : Request) : Act Logger := do
  let base := options.logger.getD (← get).logger
  let requestId ←
    match request.header "X-Request-Id" with
    | some given => pure given
    | none => freshIdentifier
  return base.forRequest
    { requestId
      method := request.method
      path := request.receivedPath
      userAgent := request.header "User-Agent"
      ip := some request.ip }

/-- The context of the line written when a request arrives. -/
def arrivalContext (options : LoggingOptions) (request : Request) : LogContext :=
  if options.logHeaders then
    [("headers", some (.object (Fields.ofPairs
      (request.message.headers.listing.map fun field => (field.1, Json.string field.2)))))]
  else []

/-- The context of the line written when a request has been answered. -/
def answerContext (response : Response) (route : Option String) : LogContext :=
  [("status", some (Json.ofNat response.status)), ("duration", some (.number 0)),
    ("route", route.map .string)]

end LoggingOptions

def Middleware.logging (options : LoggingOptions := {}) : Middleware :=
  .around fun request next => do
    let path := request.receivedPath
    if options.excludePaths.any fun head => Text.startsWith head path then next none
    else
      let logger ← options.requestLogger request
      if options.logRequest then
        logTo logger .info ("→ " ++ request.method ++ " " ++ path) (options.arrivalContext request)
      let response ← next none
      if options.logResponse then
        logTo logger (.ofStatus response.status)
          ("← " ++ request.method ++ " " ++ path ++ " " ++ toString response.status)
          (LoggingOptions.answerContext response (← request.matchedRoute?))
      return response

end HttpRouting

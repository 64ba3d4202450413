import HttpRouting.Middleware

/-! # Sharing with other origins

A browser tells the origin of a page with each request that goes elsewhere, and shows the page only
the answers that name its origin. This middleware adds the header fields that grant this. A preflight,
in which the browser asks which methods and header fields it may use, is answered here; the endpoint
does not see it.
-/

namespace HttpRouting

/-- Which origins are granted access. -/
inductive OriginRule where
  | any
  | exact (origin : String)
  | oneOf (origins : List String)
  | satisfying (accepts : String → Bool)
  | none

/-- What is granted. -/
structure CorsOptions where
  origin : OriginRule := .any
  methods : List String := ["GET", "HEAD", "PUT", "PATCH", "POST", "DELETE"]
  allowedHeaders : List String := ["Content-Type", "Authorization"]
  exposedHeaders : List String := []
  credentials : Bool := false
  maxAge : Number := 86400

namespace OriginRule

def grants (rule : OriginRule) (origin : String) : Bool :=
  match rule with
  | .any => true
  | .exact other => origin == other
  | .oneOf origins => origins.contains origin
  | .satisfying accepts => accepts origin
  | .none => false

/-- The origin to name in an answer, if the request tells an origin and access is granted. -/
def answer? (rule : OriginRule) (origin : Option String) : Option String :=
  match rule, origin with
  | _, Option.none | _, some "" => Option.none
  | .any, some _ => some "*"
  | rule, some origin => if rule.grants origin then some origin else Option.none

end OriginRule

namespace CorsOptions

/-- The changes that every answer gets. -/
def common (options : CorsOptions) (allowed : Option String) : List HeaderEdit :=
  let origin :=
    match allowed with
    | none => []
    | some origin =>
      HeaderEdit.set "Access-Control-Allow-Origin" origin ::
        if origin = "*" then [] else [.append "Vary" "Origin"]
  origin ++
    if options.credentials then [.set "Access-Control-Allow-Credentials" "true"] else []

/-- The changes that the answer to any request but a preflight gets. -/
def plain (options : CorsOptions) (allowed : Option String) : List HeaderEdit :=
  options.common allowed ++
    if allowed.isSome && !options.exposedHeaders.isEmpty then
      [.set "Access-Control-Expose-Headers" (Text.join ", " options.exposedHeaders)]
    else []

def preflight (options : CorsOptions) (allowed : Option String) : Except Violation Response := do
  let builder : Builder := { status := 204 }
  let builder ← builder.header "Access-Control-Allow-Methods" (Text.join ", " options.methods)
  let builder ←
    builder.header "Access-Control-Allow-Headers" (Text.join ", " options.allowedHeaders)
  let builder ←
    if options.maxAge.isZero then pure builder
    else builder.header "Access-Control-Max-Age" options.maxAge.render
  (← builder.build).withHeaders (·.edit (options.common allowed))

def isPreflight (request : Request) : Bool :=
  request.method == "OPTIONS" &&
    ((request.header "Access-Control-Request-Method").getD "") != ""

end CorsOptions

/-- The middleware that shares an endpoint with other origins. -/
def Middleware.cors (options : CorsOptions := {}) : Middleware :=
  .around fun request next => do
    let allowed := options.origin.answer? (request.header "Origin")
    if CorsOptions.isPreflight request then ofViolation (options.preflight allowed)
    else
      let response ← next none
      ofViolation (response.withHeaders (·.edit (options.plain allowed)))

end HttpRouting

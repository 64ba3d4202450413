import HttpRouting.Http.Response

/-! # Building responses

A builder gathers a status and headers and is finished by giving it a body. The finished response is
checked by the rules of `Response.make`, so a builder may hold a status that no response can have.
-/

namespace HttpRouting

/-- A response in the making. -/
structure Builder where
  status : Number := 200
  headers : Headers := {}
  body : Option String := none

namespace Builder

/-- A builder that starts with the given headers: what a copy of them lists is set one after the other. A status of
zero counts as none. -/
def start (status : Option Number) (headers : Headers) : Builder where
  status := match status with
    | some status => if status.isZero then 200 else status
    | none => 200
  headers := headers.copied.listing.foldl Headers.put {}

def withStatus (builder : Builder) (status : Number) : Builder :=
  { builder with status }

/-- The builder with one value of a header in place of all it has. -/
def header (builder : Builder) (name value : String) : Except Violation Builder := do
  return { builder with headers := ← builder.headers.set name value }

def build (builder : Builder) : Except Violation Response :=
  Response.make builder.body Response.plainTextType
    { status := builder.status, headers := builder.headers.fields }

def withBody (builder : Builder) (mediaType : String) (body : Option String) :
    Except Violation Builder := do
  return { ← builder.header "Content-Type" mediaType with body }

def withJson (builder : Builder) (value : Option Json) : Except Violation Builder :=
  builder.withBody "application/json; charset=utf-8" (value.map Json.render)

def withText (builder : Builder) (body : Option String) : Except Violation Builder :=
  builder.withBody "text/plain; charset=utf-8" body

def errorBody (message : String) : Json :=
  .object [("error", .string message)]

/-- The builder of a 404 answer. -/
def asNotFound (builder : Builder) (message : String) : Except Violation Builder :=
  (builder.withStatus 404).withJson (some (errorBody message))

/-- The builder of a 405 answer, which lists the methods that are allowed. -/
def asMethodNotAllowed (builder : Builder) (allowed : List String) (message : String) :
    Except Violation Builder := do
  let builder ← (builder.withStatus 405).header "Allow" (Text.join ", " allowed)
  builder.withJson (some (errorBody message))

/-- The builder of a 500 answer. -/
def asServerError (builder : Builder) (message : String) : Except Violation Builder :=
  (builder.withStatus 500).withJson (some (errorBody message))

end Builder

def Response.notFound : Except Violation Response := do
  (← ({} : Builder).asNotFound "Not Found").build

def Response.methodNotAllowed (allowed : List String) : Except Violation Response := do
  (← ({} : Builder).asMethodNotAllowed allowed "Method Not Allowed").build

end HttpRouting

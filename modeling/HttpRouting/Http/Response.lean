import HttpRouting.Http.Headers
import HttpRouting.Json.Printer

/-! # Responses

A response has a status, a status text, headers and perhaps a body. Making one checks the status first,
which has to be from 200 to 599, then the status text, then the header fields, and last that a status that
forbids a body has none; only characters beyond one octet are refused before all that. That the status text
is fit for one is kept with the response.

`recast` makes a response from the parts of another, as every edit of headers does, since a response itself
never changes. It takes a copy of the header fields, in which the values of one name become one, and the body
itself, which can be used once.
-/

namespace HttpRouting

def Response.isStatusText (text : String) : Bool :=
  text.toList.all fun char =>
    char = '\t' || (0x20 ≤ char.toNat && char.toNat ≤ 0x7E) ||
      (0x80 ≤ char.toNat && char.toNat ≤ 0xFF)

/-- A response. A body of its own may be the empty text, which is not the same as none. -/
structure Response where
  status : Nat
  statusText : String := ""
  headers : Headers := {}
  body : Option String := none
  /-- Whether the body has been read, or is being read. -/
  bodyUsed : Bool := false
  printable : Response.isStatusText statusText = true := by rfl
deriving DecidableEq, Repr

/-- What a response is made with. -/
structure ResponseOptions where
  status : Number := 200
  statusText : String := ""
  headers : List (String × String) := []

namespace Response

/-- The statuses that forbid a body. -/
def bodyless : List Nat := [101, 204, 205, 304]

def isStatus (status : Nat) : Bool :=
  200 ≤ status && status ≤ 599

/-- A number as a 16-bit unsigned integer: without its fraction, modulo 65536. -/
def statusOf (number : Number) : Nat :=
  (number.truncate % 65536).toNat

/-- The media type of a text body that names none. -/
def plainTextType : String := "text/plain;charset=UTF-8"

/-- The media type of a JSON body that names none. -/
def jsonType : String := "application/json"

/-- A response with a body of the given media type, or without a body. -/
def make (body : Option String) (mediaType : String) (options : ResponseOptions) :
    Except Violation Response := do
  unless options.headers.all (fun pair => Headers.fitsOctets pair.1 && Headers.fitsOctets pair.2) &&
      Headers.fitsOctets options.statusText do
    throw .wrongSort
  let status := statusOf options.status
  unless isStatus status do throw .outOfRange
  if printable : isStatusText options.statusText then
    let headers ← Headers.ofPairs options.headers
    match body with
    | none => return ⟨status, options.statusText, headers, none, false, printable⟩
    | some text =>
      if bodyless.contains status then throw .wrongSort
      let headers ←
        if headers.has "content-type" then pure headers else headers.append "content-type" mediaType
      return ⟨status, options.statusText, headers, some text, false, printable⟩
  else throw .wrongSort

/-- A response with a text body. -/
def text (body : String) (options : ResponseOptions) : Except Violation Response :=
  make (some body) plainTextType options

def empty (options : ResponseOptions) : Except Violation Response :=
  make none plainTextType options

/-- A response whose body is the JSON text of a value. -/
def json (value : Json) (options : ResponseOptions) : Except Violation Response :=
  make (some value.render) jsonType options

/-- A response with the status and status text of `response`, a copy of the given headers, and the given
body of `response` or none. A body that has been used is refused before anything else. -/
def recast (response : Response) (headers : Headers) (body : Option String) :
    Except Violation Response := do
  if body.isSome && response.bodyUsed then throw .wrongSort
  unless isStatus response.status do throw .outOfRange
  if body.isSome && bodyless.contains response.status then throw .wrongSort
  return { response with headers := headers.copied, body, bodyUsed := false }

/-- A copy of a response with a copy of its headers edited. -/
def withHeaders (response : Response) (edit : Headers → Except Violation Headers) :
    Except Violation Response := do
  response.recast (← edit response.headers.copied) response.body

/-- A copy of a response without its body, as `HEAD` is answered. -/
def withoutBody (response : Response) : Except Violation Response :=
  response.recast response.headers none

/-- The body as a reader of the message sees it: a byte order mark in front is dropped. -/
def readBody (body : String) : String :=
  match body.toList with
  | '\uFEFF' :: rest => String.ofList rest
  | _ => body

end Response

end HttpRouting

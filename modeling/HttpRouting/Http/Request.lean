import HttpRouting.Fault
import HttpRouting.Http.Address
import HttpRouting.Route.Match

/-! # Requests

A request is a message together with what routing has found out about it: the parameters, the path as
the current handler sees it, and the pattern of the route. Requests derived from one another share the
message. What changes while a request is handled — whether its body has been read, and the state that
middleware leave for each other — is kept in a cell that they share too; `cell` is its number.
-/

namespace HttpRouting

open Text

/-- A request message. -/
structure Message where
  method : String
  address : Address
  headers : Headers
  body : Option String
deriving DecidableEq, Repr

/-- What a message is made with. -/
structure MessageOptions where
  method : Option String := none
  headers : List (String × String) := []
  body : Option String := none

/-- A request, as a handler sees it. -/
structure Request where
  message : Message
  cell : Nat
  params : Params := []
  path : String
  route : Option String := none
deriving DecidableEq, Repr

/-- The key under which the pattern of the matched route is left in the state. -/
def matchedRouteKey : String := "junction.route"

/-- The methods whose letter case does not matter. -/
def caselessMethods : List String := ["DELETE", "GET", "HEAD", "OPTIONS", "POST", "PUT"]

def forbiddenMethods : List String := ["CONNECT", "TRACE", "TRACK"]

def upperAscii (text : String) : String :=
  String.ofList (text.toList.map Char.toUpper)

/-- The method of a message; the common ones are put in upper case, others are kept as written. -/
def messageMethod (method : String) : Except Violation String :=
  if !Headers.isToken method || forbiddenMethods.contains (upperAscii method) then
    .error .wrongSort
  else if caselessMethods.contains (upperAscii method) then .ok (upperAscii method)
  else .ok method

/-- The message to an address, which must have been read; a body needs a method that can have one, and
names its media type unless a header does. -/
def Message.make (address : Option Address) (options : MessageOptions) :
    Except Violation Message := do
  match address with
  | none => throw .wrongSort
  | some address =>
    if address.hasCredentials then throw .wrongSort
    let method ← messageMethod (options.method.getD "GET")
    let headers ← Headers.ofPairs options.headers
    match options.body with
    | none => return ⟨method, address, headers, none⟩
    | some body =>
      if method = "GET" ∨ method = "HEAD" then throw .wrongSort
      let headers ←
        if headers.has "content-type" then pure headers
        else headers.append "content-type" Response.plainTextType
      return ⟨method, address, headers, some body⟩

namespace Request

/-- The request of a message, before any routing. -/
def ofMessage (message : Message) (cell : Nat) : Request :=
  { message, cell, path := message.address.pathname }

def method (request : Request) : String :=
  request.message.method

def url (request : Request) : String :=
  request.message.address.render

def receivedPath (request : Request) : String :=
  request.message.address.pathname

def header (request : Request) (name : String) : Option String :=
  request.message.headers.get? name

/-- The host the request was sent to, from its header or its address. -/
def host (request : Request) : String :=
  (request.header "Host").getD request.message.address.host

def scheme (request : Request) : String :=
  request.message.address.scheme

/-- The blanks dropped around a client's address. -/
def isBlank (char : Char) : Bool :=
  (0x09 ≤ char.toNat && char.toNat ≤ 0x0D) || char = ' ' || char = '\u00A0'

/-- The client's address, as the proxies in front tell it. -/
def ip (request : Request) : String :=
  match request.header "X-Forwarded-For" with
  | some chain => trim isBlank (before ',' chain)
  | none => (request.header "X-Real-IP").getD "unknown"

/-- The request as the handler of a route sees it. -/
def withRoute (request : Request) (params : Params) (path route : String) : Request :=
  { request with params, path, route := some route }

def withPath (request : Request) (path : String) : Request :=
  { request with path }

end Request

end HttpRouting

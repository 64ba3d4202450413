import HttpRouting.Middleware

/-! # Small adjustments

Small middleware that changes one thing about a request or a response: a value in the request's
state, header fields of the response, or a prefix of the path. Two more put another middleware under
a condition on the path or the method.
-/

namespace HttpRouting.Middleware

open Text

def addData (key : String) (value : Json) : Middleware :=
  .before fun request => do
    request.putState key value
    return request

def setHeader (edits : List HeaderEdit) : Middleware :=
  .after fun response => ofViolation (response.withHeaders (·.edit edits))

/-- A prefix with one leading slash and no empty pieces. -/
def prefixBase (text : String) : String :=
  "/" ++ join "/" (pieces '/' text)

/-- The path below a prefix, if it lies there; the prefix itself leaves the root. -/
def pathBelow? (base path : String) : Option String :=
  if path = base then some "/"
  else if startsWith (base ++ "/") path then some (skip base.toList.length path)
  else none

/-- Remove a prefix from the path that the endpoint sees; a request outside the prefix is answered
with a 404. -/
def stripPrefix (text : String) : Middleware :=
  .around fun request next => do
    if prefixBase text = "/" then next none
    else
      match pathBelow? (prefixBase text) request.path with
      | none => ofViolation Response.notFound
      | some path => next (some (request.withPath path))

/-- Apply a middleware to requests whose path begins with a text. -/
def forPath (head : String) (middleware : Middleware) : Middleware :=
  .conditional (fun request => return startsWith head request.path) middleware

def forMethods (methods : List String) (middleware : Middleware) : Middleware :=
  .conditional (fun request => return (methods.map upper).contains request.method) middleware

end HttpRouting.Middleware

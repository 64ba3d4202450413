import HttpRouting.Router
import HttpRouting.Settings

/-! # Descriptions

Values of the library as JSON, for those who inspect a program or watch it run: patterns and routes,
what a router decides, responses, faults, and events. A description names everything that tells two
values apart from outside. Lists of named values are described as lists of pairs, so that their order
is kept.
-/

namespace HttpRouting

/-- A text that may be missing. -/
def Json.ofText? (text : Option String) : Json :=
  Json.ofOption (text.map .string)

/-- Named texts as pairs. -/
def Json.ofTexts (pairs : List (String × String)) : Json :=
  Json.ofPairs (pairs.map fun pair => (pair.1, .string pair.2))

/-- A segment: its kind, its key, and its text or name. -/
def Segment.describe (segment : Segment) : Json :=
  .object <| ("key", .string segment.key) ::
    match segment with
    | .literal value => [("kind", .string "literal"), ("value", .string value)]
    | .capture name => [("kind", .string "capture"), ("name", Json.ofText? name)]
    | .constrained name constraint =>
      [("kind", .string "regex"), ("name", Json.ofText? name), ("source", .string constraint.source)]
    | .wildcard name => [("kind", .string "wildcard"), ("name", Json.ofText? name)]

def Specificity.describe (counts : Specificity) : Json :=
  .array [Json.ofNat counts.literals, Json.ofNat counts.regexes, Json.ofNat counts.captures,
    .bool counts.wildcard]

/-- A pattern with all that is derived from it. -/
def Pattern.describe (pattern : Pattern) : Json :=
  .object [("source", .string pattern.source),
    ("segments", .array (pattern.segments.map Segment.describe)),
    ("captureNames", .array (pattern.captureNames.map Json.ofText?)),
    ("hasWildcard", .bool pattern.hasWildcard), ("specificity", pattern.specificity.describe),
    ("shapeKey", .string (pattern.shapeKey false))]

def Selector.describeAll (selectors : List Selector) : Json :=
  Json.ofStrings (selectors.map Selector.name)

def Method.describeAll (methods : List Method) : Json :=
  Json.ofStrings (methods.map Method.name)

def MethodTable.describe {ε : Type} (table : MethodTable ε) : Json :=
  .object [("isEmpty", .bool table.isEmpty), ("hasAny", .bool table.catchAll.isSome),
    ("selectors", Selector.describeAll table.selectors),
    ("allowed", Method.describeAll table.allowed)]

def Route.describe {ε : Type} (route : Route ε) : Json :=
  .object [("order", Json.ofNat route.order), ("source", .string route.pattern.source),
    ("captures", .array (route.pattern.captureNames.map Json.ofText?)),
    ("selectors", Selector.describeAll route.methods.selectors),
    ("allowed", Method.describeAll route.methods.allowed), ("name", Json.ofText? route.name),
    ("meta", Json.ofOption (route.info.map Json.ofPairs)),
    ("strip", .array (route.strip.map Json.ofNat))]

/-- The order number and the pattern of a route. -/
def Route.summary {ε : Type} (route : Route ε) : Json :=
  .array [Json.ofNat route.order, .string route.pattern.source]

def Candidate.describe {ε : Type} (candidate : Candidate (Route ε)) : Json :=
  .object [("entries", .array (candidate.routes.map Route.summary)),
    ("values", Json.ofStrings candidate.values)]

/-- What a router decided. -/
def Resolution.describe {ε : Type} : Resolution ε → Json
  | .notFound => .object [("kind", .string "not-found")]
  | .methodNotAllowed allowed =>
    .object [("kind", .string "method-not-allowed"), ("allowed", Method.describeAll allowed)]
  | .resolved choice =>
    .object [("kind", .string "resolved"), ("route", .string choice.route.pattern.source),
      ("order", Json.ofNat choice.route.order), ("params", Json.ofTexts choice.params),
      ("path", .string choice.path)]

/-- A response as its reader sees it; an empty status text is left out. -/
def Response.describe (response : Response) : Json :=
  .object ([("status", Json.ofNat response.status),
    ("headers", Json.ofTexts response.headers.listing),
    ("body", Json.ofText? (response.body.map Response.readBody))] ++
    if response.statusText = "" then [] else [("statusText", .string response.statusText)])

/-- One thing about a request, by its name; `param:`, `query:`, `header:` and `state:` are followed by
the name of what is asked for. -/
def Request.describe (request : Request) (field : String) : Act Json := do
  let kind := Text.before ':' field
  let name := Text.skip (kind.length + 1) field
  match kind with
  | "method" => return .string request.method
  | "url" => return .string request.url
  | "path" => return .string request.path
  | "originalPath" => return .string request.receivedPath
  | "route" => return Json.ofText? request.route
  | "host" => return .string request.host
  | "scheme" => return .string request.scheme
  | "ip" => return .string request.ip
  | "params" => return Json.ofTexts request.params
  | "states" => return Json.ofPairs (← request.state)
  | "param" => return Json.ofText? (request.params.get? name)
  | "query" => return Json.ofText? (request.message.address.queryField? name)
  | "header" => return Json.ofText? (← ofViolation (request.message.headers.read name))
  | "state" => return Json.ofOption ((← request.state).get? name)
  | _ => return .null

def Request.describeAll (request : Request) (fields : List String) : Act Json := do
  return Json.ofPairs (← fields.mapM fun field => do return (field, ← request.describe field))

/-- The fields that describe a fault. What the rules of the platform word is described by its kind
alone. -/
def Fault.fields : Fault → List (String × Json)
  | .pattern error =>
    [("error", .string "CompileError"), ("message", .string error.message),
      ("pattern", .string error.pattern), ("reason", .string error.cause.reason)]
  | .registration error =>
    [("error", .string "RegistrationError"), ("message", .string error.message),
      ("pattern", .string error.target), ("reason", .string error.cause.reason)] ++
      error.method.toList.map fun method => ("method", .string method)
  | .settings error =>
    [("error", .string "ConfigError"), ("message", .string error.message),
      ("source", .string error.source)]
  | .http fault =>
    [("error", .string "HttpError"), ("message", .string fault.message),
      ("status", .number fault.status), ("headers", Json.ofTexts fault.headers)]
  | .general message => [("error", .string "JunctionError"), ("message", .string message)]
  | .named name message =>
    ("error", .string name) ::
      if Violation.names.contains name then [] else [("message", .string message)]
  | .violation kind => [("error", .string kind.name)]
  | .system code => [("error", .string code)]
  | .value thrown => [("error", .string "thrown"), ("message", .string thrown.plainText)]
  | .throwing _ | .throwingItself => [("error", .string "thrown")]

def Fault.describe (fault : Fault) : Json :=
  .object fault.fields

/-- The message of an error, unless the rules of the platform word it. -/
def shownMessage (name : String) (message : Option String) : Json :=
  if Violation.names.contains name then .null else Json.ofText? message

/-- A log entry without its time. The error, if there is one, always has a stack. -/
def LogEntry.describe (entry : LogEntry) : Json :=
  .array ([.string "log", .string entry.level.name, .string entry.message,
    Json.ofPairs (LogContext.shown (entry.context.getD []))] ++
    entry.error.toList.map fun error =>
      .array [.string error.name, shownMessage error.name error.message, .bool true])

/-- The items that describe what happens to a span. -/
def SpanEvent.items : SpanEvent → List Json
  | .start scope name kind attributes =>
    [.string "start", .string scope, .string name, Json.ofOption (kind.map Json.ofNat),
      Json.ofPairs attributes]
  | .attribute key value => [.string "attribute", .string key, value]
  | .rename name => [.string "name", .string name]
  | .status code message => [.string "status", Json.ofNat code, Json.ofText? message]
  | .exception name message => [.string "exception", .string name, shownMessage name message]
  | .finish => [.string "end"]

def Event.describe : Event → Json
  | .mark text => .string text
  | .log entry => entry.describe
  | .written toErrors text => .array [.string (if toErrors then "err" else "out"), .string text]
  | .span number event => .array (.string "span" :: Json.ofNat number :: event.items)

/-- What a key of the settings leads to; an operation has no value to show. -/
def SettingsNode.describe : Option SettingsNode → Json
  | none => .object [("defined", .bool false)]
  | some (.value held) => .object [("defined", .bool true), ("value", held)]
  | some .operation => .object [("defined", .bool true)]
  | some .sharedRecord => .object [("defined", .bool true), ("value", .object [])]

end HttpRouting

import HttpRouting.Http.Request
import HttpRouting.Json.Parser
import HttpRouting.Log.Logger

/-! # What handlers may do

A handler computes an answer or throws a fault, and on the way it may write log entries, record
spans, and read or change what belongs to the request. All of that is a step from one `World` to the
next, so the behaviour of a program is a function of the world it starts in. A handler may also pass
a request on to a site, which is a router of some kind known only by its number; what the sites do
is a parameter of the computation.
-/

namespace HttpRouting

/-- What happens to a span. -/
inductive SpanEvent where
  | start (scope name : String) (kind : Option Nat) (attributes : Fields Json)
  | attribute (key : String) (value : Json)
  | rename (name : String)
  | status (code : Nat) (message : Option String)
  | exception (name : String) (message : Option String)
  | finish

/-- Something that a watcher of the program sees. -/
inductive Event where
  | mark (text : String)
  | log (entry : LogEntry)
  | written (toErrors : Bool) (text : String)
  | span (span : Nat) (event : SpanEvent)

/-- The changing part of a request: whether its body has been read, and its state. -/
structure Cell where
  bodyRead : Bool := false
  state : Entries Json := []

/-- What a program can see and change. -/
structure World where
  events : List Event := []
  logger : Logger := {}
  tracer : Option String := none
  activeSpan : Option Nat := none
  spanCount : Nat := 0
  cells : List Cell := []
  /-- The sites that were closed by being called. -/
  closed : List Nat := []
  time : String := "1970-01-01T00:00:00.000Z"
  /-- How many identifiers have been handed out. -/
  identifiers : Nat := 0

/-- A computation in a world that may throw; what happened before a fault stays. -/
abbrev Effect := ExceptT Fault (StateM World)

abbrev Sites := Nat → Request → Effect Response

/-- A computation that may also pass requests to sites. -/
abbrev Act := ReaderT Sites Effect

/-- The value of a checked computation, its error thrown. -/
def ofViolation {α : Type} (result : Except Violation α) : Act α :=
  match result with
  | .ok value => pure value
  | .error kind => throw (.violation kind)

namespace World

def record (world : World) (event : Event) : World :=
  { world with events := world.events ++ [event] }

def cell (world : World) (index : Nat) : Cell :=
  world.cells.getD index {}

def changeCell (world : World) (index : Nat) (change : Cell → Cell) : World :=
  { world with cells := world.cells.modify index change }

def log (world : World) (logger : Logger) (level : Level) (message : String)
    (context : LogContext := []) (error : Option ErrorReport := none) : World :=
  match logger.entry? world.time level message context error with
  | none => world
  | some entry =>
    match logger.sink with
    | .watched => world.record (.log entry)
    | .stream format color =>
      world.record (.written (level == .error) (entry.write format color ++ "\n"))

end World

def mark (text : String) : Act Unit :=
  modify (·.record (.mark text))

def logTo (logger : Logger) (level : Level) (message : String) (context : LogContext := [])
    (error : Option ErrorReport := none) : Act Unit :=
  modify (·.log logger level message context error)

/-- A fresh identifier, in the form of a random one. -/
def freshIdentifier : Act String := do
  let world ← get
  set { world with identifiers := world.identifiers + 1 }
  let digits := toString (world.identifiers % Nat.pow 10 12)
  return "00000000-0000-4000-8000-" ++
    String.ofList (List.replicate (12 - digits.length) '0') ++ digits

namespace Request

/-- The request of a message that has just arrived, with a cell of its own. -/
def receive (message : Message) : Act Request := do
  let index := (← get).cells.length
  modify fun world => { world with cells := world.cells ++ [{}] }
  return .ofMessage message index

/-- Everything in the request's state, in order of first use. -/
def state (request : Request) : Act (Entries Json) :=
  return ((← get).cell request.cell).state

def putState (request : Request) (key : String) (value : Json) : Act Unit :=
  modify (·.changeCell request.cell fun cell => { cell with state := cell.state.put key value })

/-- The pattern of the matched route, if one was left in the state as a text. -/
def matchedRoute? (request : Request) : Act (Option String) :=
  return ((← request.state).get? matchedRouteKey).bind Json.string?

/-- The text of the body; it can be read once. -/
def text (request : Request) : Act String := do
  match request.message.body with
  | none => return ""
  | some body =>
    if ((← get).cell request.cell).bodyRead then throw (.violation .wrongSort)
    modify (·.changeCell request.cell fun cell => { cell with bodyRead := true })
    return Response.readBody body

def json (request : Request) : Act Json := do
  match Json.parse? (← request.text) with
  | some value => return value
  | none => throw (.violation .malformed)

end Request

end HttpRouting

import HttpRouting.Fault

/-! # Log entries

A log entry has a level, a message, a time, a context of named values and perhaps an error. It is
written either as one JSON object, whose keys keep the order in which the entry was put together, or
as a line for people, with the error's stack below it.
-/

namespace HttpRouting

/-- How much an entry matters. -/
inductive Level where
  | debug
  | info
  | warn
  | error
deriving DecidableEq, Repr

namespace Level

/-- All levels, from the least to the most urgent. -/
def all : List Level := [.debug, .info, .warn, .error]

def name : Level → String
  | .debug => "debug"
  | .info => "info"
  | .warn => "warn"
  | .error => "error"

def rank : Level → Nat
  | .debug => 0
  | .info => 1
  | .warn => 2
  | .error => 3

def ofName? (name : String) : Option Level :=
  all.find? (·.name == name)

/-- The level of the line that reports an answer's status. -/
def ofStatus (status : Int) : Level :=
  if status ≥ 500 then .error else if status ≥ 400 then .warn else .info

/-- The level in capitals, in five columns. -/
def label : Level → String
  | .debug => "DEBUG"
  | .info => "INFO "
  | .warn => "WARN "
  | .error => "ERROR"

/-- The terminal sequence that begins the level's color. -/
def color : Level → String
  | .debug => "\x1b[36m"
  | .info => "\x1b[32m"
  | .warn => "\x1b[33m"
  | .error => "\x1b[31m"

end Level

/-- How entries are written. -/
inductive LogFormat where
  | json
  | pretty
deriving DecidableEq, Repr

def LogFormat.name : LogFormat → String
  | .json => "json"
  | .pretty => "pretty"

def LogFormat.ofName? (name : String) : Option LogFormat :=
  if name = "json" then some .json else if name = "pretty" then some .pretty else none

/-- Named values; a name may be present and yet have no value, which hides an older one. -/
abbrev LogContext := Fields (Option Json)

def LogContext.shown (context : LogContext) : Fields Json :=
  context.filterMap fun pair => pair.2.map (pair.1, ·)

/-- A log entry. The two layouts give the order of its keys, and of its error's, in JSON. -/
structure LogEntry where
  level : Level
  message : String
  time : String
  context : Option LogContext := none
  error : Option ErrorReport := none
  layout : List String := ["level", "message", "timestamp", "context", "error"]
  errorLayout : List String := ["name", "message", "stack"]

namespace LogEntry

def errorField (error : ErrorReport) (key : String) : Option Json :=
  if key = "name" then some (.string error.name)
  else if key = "message" then error.message.map .string
  else if key = "stack" then error.stack.map .string
  else none

def laidOut (layout : List String) (field : String → Option Json) : Json :=
  .object (layout.filterMap fun key => (field key).map (key, ·))

def field (entry : LogEntry) (key : String) : Option Json :=
  if key = "level" then some (.string entry.level.name)
  else if key = "message" then some (.string entry.message)
  else if key = "timestamp" then some (.string entry.time)
  else if key = "context" then entry.context.map fun context => .object context.shown
  else if key = "error" then
    entry.error.map fun error => laidOut entry.errorLayout (errorField error)
  else none

def json (entry : LogEntry) : Json :=
  laidOut entry.layout entry.field

/-- Text between two terminal sequences, or alone without color. -/
def painted (color : Bool) (start text : String) : String :=
  if color then start ++ text ++ "\x1b[0m" else text

def dim (color : Bool) (text : String) : String :=
  painted color "\x1b[2m" text

/-- The entry as a line for people; an empty context is left out. -/
def pretty (entry : LogEntry) (color : Bool) : String :=
  let context :=
    match entry.context with
    | some (field :: rest) =>
      " " ++ dim color (Json.object (LogContext.shown (field :: rest))).render
    | _ => ""
  let stack :=
    match entry.error.bind (·.stack) with
    | none | some "" => ""
    | some stack => "\n" ++ dim color stack
  dim color entry.time ++ " " ++ painted color entry.level.color entry.level.label ++ " " ++
    entry.message ++ context ++ stack

def write (entry : LogEntry) (format : LogFormat) (color : Bool) : String :=
  match format with
  | .json => entry.json.render
  | .pretty => entry.pretty color

end LogEntry

end HttpRouting

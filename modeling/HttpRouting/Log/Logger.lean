import HttpRouting.Log.Entry

/-! # Loggers

A logger passes on the entries at or above its level, with its own context under theirs. A child has
the same sink and level and a larger context; changing one level later does not change the other.
-/

namespace HttpRouting

/-- Where entries go: to whoever watches the program, or as text to its output streams. -/
inductive LogSink where
  | watched
  | stream (format : LogFormat) (color : Bool)
deriving DecidableEq, Repr

/-- A level and a format, as settings hold them. -/
structure LogSettings where
  level : Level
  format : LogFormat
deriving DecidableEq, Repr

/-- The settings used when nothing was configured, by the name of the environment. -/
def LogSettings.default (environment : Option String) : LogSettings :=
  if environment = some "production" then ⟨.info, .json⟩ else ⟨.debug, .pretty⟩

/-- A logger. One that has no level passes nothing on. -/
structure Logger where
  level : Option Level := some .info
  context : LogContext := []
  sink : LogSink := .watched

namespace Logger

def passes (logger : Logger) (level : Level) : Bool :=
  logger.level.any fun least => least.rank ≤ level.rank

/-- The entry that a call makes, if its level passes. -/
def entry? (logger : Logger) (time : String) (level : Level) (message : String)
    (context : LogContext := []) (error : Option ErrorReport := none) : Option LogEntry :=
  if logger.passes level then
    some { level, message, time, context := some (logger.context.merge context), error }
  else none

def child (logger : Logger) (context : LogContext) : Logger :=
  { logger with context := logger.context.merge context }

/-- What is logged about every request. -/
structure RequestContext where
  requestId : String
  method : String
  path : String
  userAgent : Option String := none
  ip : Option String := none

/-- A logger for one request. What the request does not say hides what the logger said. -/
def forRequest (logger : Logger) (request : RequestContext) : Logger :=
  logger.child
    [("requestId", some (.string request.requestId)), ("method", some (.string request.method)),
      ("path", some (.string request.path)), ("userAgent", request.userAgent.map .string),
      ("ip", request.ip.map .string)]

/-- The logger of a program that has configured none. -/
def default (environment : Option String) : Logger :=
  let settings := LogSettings.default environment
  { level := some settings.level
    context := [("service", some (.string "junction"))]
    sink := .stream settings.format false }

end Logger

end HttpRouting

import HttpRouting.Http.Response
import HttpRouting.Json.Value
import HttpRouting.Route.Path
import HttpRouting.Route.Registration

/-! # Faults

Everything that a handler, a middleware or an operation of the library can throw. Most faults are
errors, with a name and a message; a fault may also be a bare value, which is data and has only a text,
or not even that, or an object that computes its text and throws a fault of its own instead. Only a
fault that carries a status chooses the answer it is turned into.
-/

namespace HttpRouting

/-- Why settings are refused. -/
inductive SettingsCause where
  | notObject
  | envNotString
  | badLevel
  | badFormat
  | routerNotObject
  | badIgnoreCase
  | badPrecedence
  | unknownKey (key : String)
  | malformedJson
  | unknownLevel (text : String)
  | unknownFormat (text : String)
  | unknownPrecedence (text : String)
  | notBoolean (text : String)
  | stated (reason : String)
deriving DecidableEq, Repr

def SettingsCause.reason : SettingsCause → String
  | .notObject => "expected an object"
  | .envNotString => "\"env\" must be a string"
  | .badLevel => "\"logLevel\" must be one of debug, info, warn, error"
  | .badFormat => "\"logFormat\" must be \"json\" or \"pretty\""
  | .routerNotObject => "\"router\" must be an object"
  | .badIgnoreCase => "\"router.ignoreCase\" must be a boolean"
  | .badPrecedence => "\"router.regexPrecedence\" must be \"regex\" or \"capture\""
  | .unknownKey key => "unknown key \"" ++ key ++ "\""
  | .malformedJson => "malformed JSON"
  | .unknownLevel text => "unknown level \"" ++ text ++ "\""
  | .unknownFormat text => "unknown format \"" ++ text ++ "\""
  | .unknownPrecedence text => "unknown policy \"" ++ text ++ "\""
  | .notBoolean text => "expected true or false, got \"" ++ text ++ "\""
  | .stated reason => reason

/-- Settings that are refused, with the file, variable or key that they came from. -/
structure SettingsError where
  source : String
  cause : SettingsCause
deriving DecidableEq, Repr

def SettingsError.message (error : SettingsError) : String :=
  "Invalid configuration in " ++ error.source ++ ": " ++ error.cause.reason

/-- A fault that carries the status and headers of its answer. -/
structure HttpFault where
  status : Number
  message : String
  headers : Fields String
deriving DecidableEq, Repr

def statusPhrase? (status : Number) : Option String :=
  if status = 400 then some "Bad Request"
  else if status = 401 then some "Unauthorized"
  else if status = 403 then some "Forbidden"
  else if status = 404 then some "Not Found"
  else if status = 405 then some "Method Not Allowed"
  else if status = 500 then some "Internal Server Error"
  else none

/-- The fault of a status; without a message it has the phrase of its status. -/
def HttpFault.ofStatus (status : Number) (message : Option String := none)
    (headers : Fields String := []) : HttpFault where
  status := status
  message := message.getD ((statusPhrase? status).getD ("HTTP " ++ status.render))
  headers := headers

/-- The fault of a method that a path does not answer. -/
def HttpFault.methodNotAllowed (allowed : List String) : HttpFault :=
  .ofStatus 405 none [("Allow", Text.join ", " allowed)]

/-- Whatever can be thrown. -/
inductive Fault where
  | pattern (error : PatternError)
  | registration (error : RegistrationError)
  | settings (error : SettingsError)
  | http (fault : HttpFault)
  | general (message : String)
  | named (name message : String)
  | violation (kind : Violation)
  | system (code : String)
  | value (value : Json)
  /-- An object that throws a fault whenever it is asked for its text or message. -/
  | throwing (fault : Fault)
  /-- An object that throws itself whenever it is asked for its text or message. -/
  | throwingItself

/-- A fault as an error: its name, and its message unless the rules of the platform word it. -/
structure ErrorReport where
  name : String
  message : Option String
  stack : Option String := none
deriving DecidableEq, Repr

namespace Fault

def ofPathError : PathError → Fault
  | .unnamedCapture source =>
    .named "Error" ("Cannot build a path for \"" ++ source ++ "\": it has an unnamed capture")
  | .missing name source =>
    .named "Error" ("Missing parameter \"" ++ name ++ "\" for \"" ++ source ++ "\"")
  | .rejected name source =>
    .named "Error" ("Parameter \"" ++ name ++ "\" does not match <" ++ source ++ ">")
  | .notText => .violation .wrongSort

/-- Whether the fault is one of the library's own errors. -/
def isOwn : Fault → Bool
  | .pattern _ | .registration _ | .settings _ | .http _ | .general _ => true
  | _ => false

/-- What is thrown instead of a report of the fault, if it cannot be reported: a bare value has to have a
text for that, and an object has to give its text without throwing. -/
def refusal? : Fault → Option Fault
  | .value thrown => if thrown.hasText then none else some (.violation .wrongSort)
  | .throwing fault => some fault
  | .throwingItself => some .throwingItself
  | _ => none

/-- The fault as an error, if it can be reported; a bare value is reported by its text. -/
def report : Fault → ErrorReport
  | .pattern error => ⟨"CompileError", error.message, none⟩
  | .registration error => ⟨"RegistrationError", error.message, none⟩
  | .settings error => ⟨"ConfigError", error.message, none⟩
  | .http fault => ⟨"HttpError", fault.message, none⟩
  | .general message => ⟨"JunctionError", message, none⟩
  | .named name message => ⟨name, message, none⟩
  | .violation kind => ⟨kind.name, none, none⟩
  | .system code => ⟨"Error", code, none⟩
  | .value thrown => ⟨"Error", thrown.plainText, none⟩
  | .throwing _ | .throwingItself => ⟨"Error", none, none⟩

end Fault

/-- A computation that may throw. -/
abbrev Outcome := Except Fault

/-- The value of a checked computation, its error turned into a fault. -/
def Outcome.lift {α ε : Type} (fault : ε → Fault) : Except ε α → Outcome α
  | .ok value => .ok value
  | .error error => .error (fault error)

end HttpRouting

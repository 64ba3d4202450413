import HttpRouting.Fault
import HttpRouting.Log.Logger
import HttpRouting.Route.Rank

/-! # Options

The part of the settings that one source gives: a file, the environment, or a single key. Options are
read from a JSON object whose every field is known and of the right sort; the first field that is not
is the error.
-/

namespace HttpRouting

/-- Options about matching paths. -/
structure RouterOptions where
  ignoreCase : Option Bool := none
  precedence : Option Precedence := none
deriving DecidableEq, Repr

/-- Options, each of which may be missing. -/
structure SettingsOptions where
  env : Option String := none
  level : Option Level := none
  format : Option LogFormat := none
  router : Option RouterOptions := none
deriving DecidableEq, Repr

namespace RouterOptions

def readField (options : RouterOptions) (field : String × Json) :
    Except SettingsCause RouterOptions :=
  if field.1 = "ignoreCase" then
    match field.2.bool? with
    | some value => .ok { options with ignoreCase := some value }
    | none => .error .badIgnoreCase
  else if field.1 = "regexPrecedence" then
    match field.2.string?.bind Precedence.ofName? with
    | some precedence => .ok { options with precedence := some precedence }
    | none => .error .badPrecedence
  else .error (.unknownKey ("router." ++ field.1))

def read (value : Json) : Except SettingsCause RouterOptions :=
  match value.fields? with
  | some fields => fields.foldlM readField {}
  | none => .error .routerNotObject

/-- The options as an object that has only the given fields. -/
def json (options : RouterOptions) : Json :=
  .object ((options.ignoreCase.toList.map fun value => ("ignoreCase", .bool value)) ++
    options.precedence.toList.map fun precedence => ("regexPrecedence", .string precedence.name))

end RouterOptions

namespace SettingsOptions

def readField (options : SettingsOptions) (field : String × Json) :
    Except SettingsCause SettingsOptions :=
  if field.1 = "env" then
    match field.2.string? with
    | some text => .ok { options with env := some text }
    | none => .error .envNotString
  else if field.1 = "logLevel" then
    match field.2.string?.bind Level.ofName? with
    | some level => .ok { options with level := some level }
    | none => .error .badLevel
  else if field.1 = "logFormat" then
    match field.2.string?.bind LogFormat.ofName? with
    | some format => .ok { options with format := some format }
    | none => .error .badFormat
  else if field.1 = "router" then do
    return { options with router := some (← RouterOptions.read field.2) }
  else .error (.unknownKey field.1)

def readObject (value : Json) : Except SettingsCause SettingsOptions :=
  match value.fields? with
  | some fields => fields.foldlM readField {}
  | none => .error .notObject

/-- The options that an object gives; an error names the source. -/
def read (source : String) (value : Json) : Except SettingsError SettingsOptions :=
  match readObject value with
  | .ok options => .ok options
  | .error cause => .error ⟨source, cause⟩

/-- The options as an object that has only the given fields. -/
def json (options : SettingsOptions) : Json :=
  .object ((options.env.toList.map fun text => ("env", .string text)) ++
    (options.level.toList.map fun level => ("logLevel", .string level.name)) ++
    (options.format.toList.map fun format => ("logFormat", .string format.name)) ++
    options.router.toList.map fun router => ("router", router.json))

end SettingsOptions

end HttpRouting

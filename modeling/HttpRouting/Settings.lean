import HttpRouting.Route.Index
import HttpRouting.Route.Path
import HttpRouting.Settings.Environment
import HttpRouting.Settings.Files

/-! # Settings

The settings of a program: what environment it runs in, how it logs, and how its router compares
paths. They are layered: each source overrides the fields that it gives. What comes from a file, from
the environment or through `set` is checked; settings may also be made from any JSON value at all, and
then hold whatever it gave.
-/

namespace HttpRouting

/-- Settings. A field holds a value of the right sort unless the settings were made unchecked. -/
structure Settings where
  env : Json := .string "development"
  level : Json := .string "info"
  format : Json := .string "pretty"
  ignoreCase : Json := .bool false
  precedence : Json := .string "regex"

/-- What a key leads to: a value, an operation that every record has, or the record of these. -/
inductive SettingsNode where
  | value (value : Json)
  | operation
  | sharedRecord

/-- What every record holds under a name. -/
def SettingsNode.shared? (name : String) : Option SettingsNode :=
  if name = "__proto__" then some .sharedRecord
  else (sharedMember? name).map fun _ => .operation

def SettingsNode.member? (name : String) : SettingsNode → Option SettingsNode
  | .value (.object fields) =>
    match Fields.get? name fields with
    | some held => some (.value held)
    | none => shared? name
  | .sharedRecord => if name = "__proto__" then some (.value .null) else shared? name
  | _ => none

namespace Settings

/-- The settings with the fields that `given` has in place of its own. -/
def override (settings : Settings) (given : Json) : Settings :=
  let router := (given.field? "router").getD .null
  { env := (given.field? "env").getD settings.env
    level := (given.field? "logLevel").getD settings.level
    format := (given.field? "logFormat").getD settings.format
    ignoreCase := (router.field? "ignoreCase").getD settings.ignoreCase
    precedence := (router.field? "regexPrecedence").getD settings.precedence }

/-- The settings that an unchecked value gives, the rest being the default. -/
def ofUnchecked : Json → Except Violation Settings
  | .null => .error .wrongSort
  | value => .ok (override {} value)

/-- The settings about matching paths. -/
def router (settings : Settings) : Json :=
  .object [("ignoreCase", settings.ignoreCase), ("regexPrecedence", settings.precedence)]

def all (settings : Settings) : Json :=
  .object [("env", settings.env), ("logLevel", settings.level), ("logFormat", settings.format),
    ("router", settings.router)]

def get? (settings : Settings) (key : String) : Option SettingsNode :=
  (Text.cut '.' key).foldlM (fun node name => node.member? name) (.value settings.all)

def has (settings : Settings) (key : String) : Bool :=
  (settings.get? key).isSome

/-- The object that holds a value under a dotted key. -/
def nested (key : String) (value : Json) : Json :=
  (Text.cut '.' key).foldr (fun name inner => .object [(name, inner)]) value

/-- Put a value under a dotted key; it is checked like one from a file. -/
def set (settings : Settings) (key : String) (value : Json) : Except SettingsError Settings := do
  let options ← SettingsOptions.read ("key \"" ++ key ++ "\"") (nested key value)
  return settings.override options.json

/-- The files that are tried when none is named. -/
def defaultPaths : List String := ["./junction.json", "./config/junction.json"]

/-- The settings from a file and the environment, which wins. -/
def load (tree : FileTree) (path : Option String) (environment : Environment) :
    Outcome Settings := do
  let paths :=
    match path with
    | none | some "" => defaultPaths
    | some path => [path]
  let file ← tree.firstOptions paths
  let options ← Outcome.lift .settings environment.options
  return (override {} file.json).override options.json

/-- How a router of these settings compares paths. -/
def matching (settings : Settings) : MatchSettings where
  ignoreCase := settings.ignoreCase.bool?.getD false
  precedence := (settings.precedence.string?.bind Precedence.ofName?).getD .regex

/-- A logger of these settings; a level that is none passes nothing on. -/
def logger (settings : Settings) (context : LogContext := []) : Logger where
  level := Level.ofName? settings.level.plainText
  context :=
    Fields.merge [("service", some (.string "junction")), ("env", some settings.env)] context

end Settings

end HttpRouting

import HttpRouting.Settings.Options
import HttpRouting.Text.Case

/-! # Options from the environment

Five variables give options. One that is empty counts as not set. The words of a variable are compared
in lower case, and the first variable with a word that means nothing is the error.
-/

namespace HttpRouting

/-- Variables and their values. -/
abbrev Environment := Entries String

namespace Environment

/-- The value of a variable, unless it is empty. -/
def value? (environment : Environment) (name : String) : Option String :=
  (environment.get? name).filter (· ≠ "")

/-- The meaning of a variable's value in lower case; a value that means nothing is an error. -/
def meaning? {α : Type} (environment : Environment) (name : String) (read : String → Option α)
    (cause : String → SettingsCause) : Except SettingsError (Option α) :=
  match environment.value? name with
  | none => .ok none
  | some text =>
    match read (Text.lower text) with
    | some meaning => .ok (some meaning)
    | none => .error ⟨name, cause text⟩

def truth? (word : String) : Option Bool :=
  if word = "true" ∨ word = "1" then some true
  else if word = "false" ∨ word = "0" then some false
  else none

def options (environment : Environment) : Except SettingsError SettingsOptions := do
  let level ← environment.meaning? "LOG_LEVEL" Level.ofName? .unknownLevel
  let format ← environment.meaning? "LOG_FORMAT" LogFormat.ofName? .unknownFormat
  let ignoreCase ← environment.meaning? "JUNCTION_IGNORE_CASE" truth? .notBoolean
  let precedence ←
    environment.meaning? "JUNCTION_REGEX_PRECEDENCE" Precedence.ofName? .unknownPrecedence
  let router : Option RouterOptions :=
    if ignoreCase.isSome || precedence.isSome then some { ignoreCase, precedence } else none
  return { env := environment.value? "NODE_ENV", level, format, router }

end Environment

end HttpRouting

import HttpRouting.Route.Pattern
import HttpRouting.Text.Split

/-! # Refused registrations

Why a route, a mount, a host or a scheme could not be added, with the text it was meant for and,
where one was named, the method.
-/

namespace HttpRouting

/-- Why a registration was refused. -/
inductive RegistrationCause where
  | frozen
  | methodTaken
  | noMethods
  | selfMount
  | wildcardPrefix
  | settingsDiffer (settings : List String)
  | conflict (order : Nat) (source : String)
  | nameTaken (name : String)
  | pattern (cause : PatternCause)
  | emptyLabel
  | starNotLeftmost
  | hostTaken
  | schemeTaken
  | stated (reason : String)
deriving DecidableEq, Repr

def RegistrationCause.reason : RegistrationCause → String
  | .frozen => "router is frozen"
  | .methodTaken => "method is already registered"
  | .noMethods => "no methods given"
  | .selfMount => "a router cannot be mounted on itself"
  | .wildcardPrefix => "a mount prefix cannot contain a wildcard"
  | .settingsDiffer settings => "mounted router differs in " ++ Text.join " and " settings
  | .conflict order source =>
    "conflicts with route #" ++ toString order ++ " \"" ++ source ++ "\""
  | .nameTaken name => "route name \"" ++ name ++ "\" is already used"
  | .pattern cause => cause.reason
  | .emptyLabel => "empty label"
  | .starNotLeftmost => "\"*\" must be the leftmost label"
  | .hostTaken => "host is already registered"
  | .schemeTaken => "scheme is already registered"
  | .stated reason => reason

/-- A refused registration: what it was for, why it was refused, and the methods concerned. -/
structure RegistrationError where
  target : String
  cause : RegistrationCause
  method : Option String := none
deriving DecidableEq, Repr

/-- The error in words; an empty method is left out. -/
def RegistrationError.message (error : RegistrationError) : String :=
  let method := error.method.getD ""
  let target := if method = "" then error.target else method ++ " " ++ error.target
  "Cannot register \"" ++ target ++ "\": " ++ error.cause.reason

end HttpRouting

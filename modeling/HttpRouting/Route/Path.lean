import HttpRouting.Fields
import HttpRouting.Route.Match

/-! # Writing paths

A path is written from a pattern by putting an escaped value in the place of each capture. A wildcard
value keeps its slashes. The values are looked up by name in an open record, which answers to a few
names that every record shares even when no value was given for them; what it answers there is no
text, but it has a written form, and only a wildcard needs more than that.
-/

namespace HttpRouting

open Text

/-- What a record of parameters holds under a name: a given value, or a shared member, which is no
text but has a written form. -/
inductive ParamValue where
  | given (text : String)
  | shared (written : String)
deriving DecidableEq, Repr

def ParamValue.written : ParamValue → String
  | .given text => text
  | .shared text => text

/-- The operations that every record answers to. -/
def sharedOperations : List String :=
  ["__defineGetter__", "__defineSetter__", "hasOwnProperty", "__lookupGetter__",
    "__lookupSetter__", "isPrototypeOf", "propertyIsEnumerable", "toString", "valueOf",
    "toLocaleString"]

/-- The written form of a shared operation. -/
def operationText (name : String) : String :=
  "function " ++ name ++ "() \x7b [native code] \x7d"

/-- What every record holds under a shared name. -/
def sharedMember? (name : String) : Option String :=
  if name = "constructor" then some (operationText "Object")
  else if name = "__proto__" then some "[object Object]"
  else if sharedOperations.contains name then some (operationText name)
  else none

/-- What a record of parameters holds under a name. -/
def paramValue? (params : Fields String) (name : String) : Option ParamValue :=
  match params.get? name with
  | some text => some (.given text)
  | none => (sharedMember? name).map .shared

/-- Why no path can be written. -/
inductive PathError where
  | unnamedCapture (pattern : String)
  | missing (name pattern : String)
  | rejected (name source : String)
  | notText
deriving DecidableEq, Repr

/-- A wildcard value with everything but its slashes escaped. -/
def escapeRest (value : String) : String :=
  join "/" ((cut '/' value).map escapeSegment)

def Segment.piece (source : String) (params : Fields String) (segment : Segment) :
    Except PathError String :=
  match segment with
  | .literal value => .ok value
  | .capture none | .constrained none _ | .wildcard none => .error (.unnamedCapture source)
  | .capture (some name) =>
    match paramValue? params name with
    | none => .error (.missing name source)
    | some value => .ok (escapeSegment value.written)
  | .constrained (some name) constraint =>
    match paramValue? params name with
    | none => .error (.missing name source)
    | some value =>
      if constraint.accepts value.written then .ok (escapeSegment value.written)
      else .error (.rejected name constraint.source)
  | .wildcard (some name) =>
    match paramValue? params name with
    | none => .error (.missing name source)
    | some (.given value) => .ok (escapeRest value)
    | some (.shared _) => .error .notText

/-- The path of a pattern for the given parameters; empty pieces leave no slash behind. -/
def Pattern.path (pattern : Pattern) (params : Fields String) : Except PathError String := do
  let pieces ← pattern.segments.mapM (Segment.piece pattern.source params)
  return "/" ++ Text.join "/" (pieces.filter (· ≠ ""))

end HttpRouting

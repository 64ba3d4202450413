import HttpRouting.Fields
import HttpRouting.Number.Shortest

/-! # JSON values

The values that JSON texts denote. An object is a list of ordered fields, so a value knows the
order in which its keys are written.
-/

namespace HttpRouting

/-- A JSON value. -/
inductive Json where
  | null
  | bool (value : Bool)
  | number (value : Number)
  | string (text : String)
  | array (items : List Json)
  | object (fields : List (String × Json))

namespace Json

def ofNat (value : Nat) : Json :=
  .number (Number.ofNat value)

def ofStrings (texts : List String) : Json :=
  .array (texts.map .string)

/-- Named values as a JSON array of two-element arrays. -/
def ofPairs (pairs : List (String × Json)) : Json :=
  .array (pairs.map fun pair => .array [.string pair.1, pair.2])

/-- A value, or `null` when there is none. -/
def ofOption (value : Option Json) : Json :=
  value.getD .null

def isNull : Json → Bool
  | .null => true
  | _ => false

def string? : Json → Option String
  | .string text => some text
  | _ => none

def bool? : Json → Option Bool
  | .bool value => some value
  | _ => none

def number? : Json → Option Number
  | .number value => some value
  | _ => none

def items? : Json → Option (List Json)
  | .array items => some items
  | _ => none

def fields? : Json → Option (Fields Json)
  | .object fields => some fields
  | _ => none

/-- The value of an object's field; a `null` field counts as missing. -/
def field? (name : String) (value : Json) : Option Json :=
  match value.fields?.bind (Fields.get? name) with
  | some .null => none
  | found => found

mutual

/-- The value written as plain text, as in a message: an array is its items between commas, and an
object has no text of its own. -/
def plainText : Json → String
  | .null => "null"
  | .bool value => if value then "true" else "false"
  | .number value => value.render
  | .string text => text
  | .array items => ",".intercalate (itemTexts items)
  | .object _ => "[object Object]"

/-- The plain texts of array items, where `null` leaves an empty place. -/
def itemTexts : List Json → List String
  | [] => []
  | .null :: rest => "" :: itemTexts rest
  | item :: rest => plainText item :: itemTexts rest

end

/-- The name under which a value is asked for its text. -/
def textField : String := "toString"

mutual

/-- Whether the value has a plain text at all. An object that holds something of its own under the name by
which it is asked for its text has none, and neither has an array with such an object in it. -/
def hasText : Json → Bool
  | .array items => allHaveText items
  | .object fields => !fields.any fun field => field.1 == textField
  | _ => true

/-- Whether every one of several values has a plain text. -/
def allHaveText : List Json → Bool
  | [] => true
  | item :: rest => hasText item && allHaveText rest

end

end Json

end HttpRouting

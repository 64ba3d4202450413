import HttpRouting.Json.Value

/-! # Reading objects

The fields of a JSON object, each as the sort of value that its reader expects. A field that is missing,
`null` or of another sort reads as nothing, or as the default.
-/

namespace HttpRouting.Json

/-- The value of a field, even if it is `null`. -/
def given? (object : Json) (name : String) : Option Json :=
  object.fields?.bind (Fields.get? name)

def field (object : Json) (name : String) : Json :=
  (object.given? name).getD .null

def text? (object : Json) (name : String) : Option String :=
  (object.field name).string?

/-- A text, or the empty one. -/
def text (object : Json) (name : String) : String :=
  (object.text? name).getD ""

def flag (object : Json) (name : String) (default : Bool := false) : Bool :=
  (object.field name).bool?.getD default

def amount? (object : Json) (name : String) : Option Number :=
  (object.field name).number?

/-- A number without its fraction. -/
def integer? (object : Json) (name : String) : Option Int :=
  (object.amount? name).map Number.truncate

def items (object : Json) (name : String) : List Json :=
  (object.field name).items?.getD []

/-- The texts in an array, or a default. -/
def texts (object : Json) (name : String) (default : List String := []) : List String :=
  (object.field name).items?.elim default (·.filterMap string?)

/-- The named value that an array of a name and a value stands for. -/
def pair? : Json → Option (String × Json)
  | .array [.string name] => some (name, .null)
  | .array (.string name :: value :: _) => some (name, value)
  | _ => none

/-- The named values in an array of pairs. -/
def pairs (object : Json) (name : String) : List (String × Json) :=
  (object.items name).filterMap pair?

/-- The named values in an array of pairs, as texts. -/
def textPairs (object : Json) (name : String) : List (String × String) :=
  (object.pairs name).map fun pair => (pair.1, pair.2.plainText)

end HttpRouting.Json

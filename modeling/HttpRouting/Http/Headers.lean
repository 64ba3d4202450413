import HttpRouting.Text.Split

/-! # Header collections

A collection of header fields. Names are compared without regard to letter case and kept in lower
case; values are kept without blanks at their ends, each on its own and in the order in which they
were given. Only reading joins the values of one name. A cookie that a response sets is never joined
with another when the fields are listed.
-/

namespace HttpRouting

open Text

/-- How a rule of the message types was broken: a value of the wrong sort, a number out of range, or a malformed
text. Each rule says for itself which kind breaking it is. -/
inductive Violation where
  | wrongSort
  | outOfRange
  | malformed
deriving DecidableEq, Repr

def Violation.name : Violation → String
  | .wrongSort => "TypeError"
  | .outOfRange => "RangeError"
  | .malformed => "SyntaxError"

/-- The names of errors whose wording is left to the platform. -/
def Violation.names : List String := ["TypeError", "RangeError", "SyntaxError", "URIError"]

/-- Header fields, in the order in which they were given. -/
structure Headers where
  fields : List (String × String) := []
deriving DecidableEq, Repr

namespace Headers

/-- Whether a character may occur in a name or a method. -/
def isTokenChar (char : Char) : Bool :=
  char.isAlphanum || "!#$%&'*+-.^_|~\x60".toList.contains char

/-- Whether a text is a token: at least one character, all of them allowed. -/
def isToken (text : String) : Bool :=
  text ≠ "" && text.toList.all isTokenChar

/-- Whether every character of a text fits into one octet. -/
def fitsOctets (text : String) : Bool :=
  text.toList.all fun char => char.toNat ≤ 0xFF

/-- The blanks that are dropped at the ends of a value. -/
def isEndBlank (char : Char) : Bool :=
  char = ' ' || char = '\t' || char = '\r' || char = '\n'

/-- A value without blanks at its ends. -/
def normalValue (value : String) : String :=
  trim isEndBlank value

/-- Whether a value, blanks at its ends dropped, may stand in a field. -/
def isValue (value : String) : Bool :=
  fitsOctets value && value.toList.all fun char => char ≠ '\x00' && char ≠ '\r' && char ≠ '\n'

def lowerName (name : String) : String :=
  String.ofList (name.toList.map Char.toLower)

/-- The field that a name and a value make, if both are well formed. -/
def field? (name value : String) : Except Violation (String × String) :=
  if isToken name && isValue (normalValue value) then .ok (lowerName name, normalValue value)
  else .error .wrongSort

def values (headers : Headers) (name : String) : List String :=
  (headers.fields.filter fun field => field.1 == lowerName name).map (·.2)

/-- The collection without the fields of a name that is in lower case. -/
def without (headers : Headers) (name : String) : Headers :=
  ⟨headers.fields.filter fun field => field.1 ≠ name⟩

/-- The collection with one more value of a name. -/
def append (headers : Headers) (name value : String) : Except Violation Headers := do
  return ⟨headers.fields ++ [← field? name value]⟩

/-- The collection with one value of a name in place of all it has. -/
def set (headers : Headers) (name value : String) : Except Violation Headers := do
  let field ← field? name value
  return ⟨(headers.without field.1).fields ++ [field]⟩

def delete (headers : Headers) (name : String) : Except Violation Headers :=
  if isToken name then .ok (headers.without (lowerName name)) else .error .wrongSort

/-- The collection made by appending each of `pairs` in turn. -/
def ofPairs (pairs : List (String × String)) : Except Violation Headers :=
  pairs.foldlM (fun headers pair => headers.append pair.1 pair.2) {}

/-- What stands between the joined values of a name. -/
def glue (name : String) : String :=
  if name = "cookie" then "; " else ", "

/-- The values of a name as one text, if it has any. -/
def get? (headers : Headers) (name : String) : Option String :=
  match headers.values name with
  | [] => none
  | values => some (join (glue (lowerName name)) values)

/-- Read the values of a name that someone asks for, which must be well formed. -/
def read (headers : Headers) (name : String) : Except Violation (Option String) :=
  if isToken name then .ok (headers.get? name) else .error .wrongSort

def has (headers : Headers) (name : String) : Bool :=
  !(headers.values name).isEmpty

/-- The name of the cookies that a response sets. -/
def setCookie : String := "set-cookie"

/-- The names in the collection, sorted, each once. -/
def names (headers : Headers) : List String :=
  (headers.fields.map (·.1)).eraseDups.mergeSort fun left right => left ≤ right

/-- The fields, sorted by name, with the values of one name joined, set cookies apart. -/
def listing (headers : Headers) : List (String × String) :=
  headers.names.flatMap fun name =>
    if name = setCookie then (headers.values name).map fun value => (name, value)
    else [(name, join (glue name) (headers.values name))]

/-- The copy of a collection that is made of what it lists: the values of one name become one. -/
def copied (headers : Headers) : Headers :=
  ⟨headers.listing.map fun field => (field.1, normalValue field.2)⟩

/-- The collection with a field in place of all fields of its name. -/
def put (headers : Headers) (field : String × String) : Headers :=
  ⟨(headers.without field.1).fields ++ [field]⟩

end Headers

/-- A change of a collection of header fields. -/
inductive HeaderEdit where
  | set (name value : String)
  | append (name value : String)
  | delete (name : String)
deriving DecidableEq, Repr

def HeaderEdit.apply (headers : Headers) : HeaderEdit → Except Violation Headers
  | .set name value => headers.set name value
  | .append name value => headers.append name value
  | .delete name => headers.delete name

def Headers.edit (headers : Headers) (edits : List HeaderEdit) : Except Violation Headers :=
  edits.foldlM HeaderEdit.apply headers

end HttpRouting

import HttpRouting.Json.Value
import HttpRouting.Text.Percent

/-! # Reading JSON

`parse?` accepts exactly one value with blanks around it. Objects keep the order of their keys under
the rule of `Fields.set`; a key given twice keeps its first place and takes its last value. Each
reader takes the text still ahead and answers with a value and what follows it; the count that
bounds the depth of the readers never runs out, since every call consumes a character.
-/

namespace HttpRouting.Json

def isBlank (char : Char) : Bool :=
  char = ' ' || char = '\t' || char = '\n' || char = '\r'

def skipBlanks (chars : List Char) : List Char :=
  chars.dropWhile isBlank

def fourHex? : List Char → Option (Nat × List Char)
  | a :: b :: c :: d :: rest => do
    let a ← Text.hexValue? a
    let b ← Text.hexValue? b
    let c ← Text.hexValue? c
    let d ← Text.hexValue? d
    return (((a * 16 + b) * 16 + c) * 16 + d, rest)
  | _ => none

/-- The character that a one-letter escape stands for. -/
def simpleEscape? : Char → Option Char
  | '"' => some '"'
  | '\\' => some '\\'
  | '/' => some '/'
  | 'b' => some '\x08'
  | 'f' => some '\x0C'
  | 'n' => some '\n'
  | 'r' => some '\r'
  | 't' => some '\t'
  | _ => none

/-- The character of a `\u` escape whose digits come next. Two escapes that form a surrogate pair
are one character; a lone surrogate is read as the replacement character. -/
def unicodeEscape? (chars : List Char) : Option (Char × List Char) := do
  let (unit, rest) ← fourHex? chars
  if 0xD800 ≤ unit ∧ unit < 0xDC00 then
    match rest with
    | '\\' :: 'u' :: more =>
      match fourHex? more with
      | some (low, after) =>
        if 0xDC00 ≤ low ∧ low < 0xE000 then
          return (Char.ofNat (0x10000 + (unit - 0xD800) * 0x400 + (low - 0xDC00)), after)
        else return (Text.replacement, rest)
      | none => return (Text.replacement, rest)
    | _ => return (Text.replacement, rest)
  else if 0xDC00 ≤ unit ∧ unit < 0xE000 then return (Text.replacement, rest)
  else return (Char.ofNat unit, rest)

/-- The rest of a string whose opening quote has been read; `read` holds its characters so far,
latest first. -/
def readString? : Nat → List Char → List Char → Option (String × List Char)
  | 0, _, _ => none
  | _ + 1, _, [] => none
  | fuel + 1, read, char :: rest =>
    if char = '"' then some (String.ofList read.reverse, rest)
    else if char = '\\' then
      match rest with
      | [] => none
      | 'u' :: more => do
        let (escaped, after) ← unicodeEscape? more
        readString? fuel (escaped :: read) after
      | letter :: more => do
        let escaped ← simpleEscape? letter
        readString? fuel (escaped :: read) more
    else if char.toNat < 0x20 then none
    else readString? fuel (char :: read) rest

def digitsValue (digits : List Char) : Nat :=
  digits.foldl (fun total digit => 10 * total + (digit.toNat - '0'.toNat)) 0

/-- The fraction digits, if a point comes next. -/
def fraction? : List Char → Option (List Char × List Char)
  | '.' :: rest =>
    let digits := rest.takeWhile Char.isDigit
    if digits = [] then none else some (digits, rest.dropWhile Char.isDigit)
  | chars => some ([], chars)

/-- The exponent, if its letter comes next. -/
def exponent? : List Char → Option (Int × List Char)
  | [] => some (0, [])
  | letter :: rest =>
    if letter = 'e' ∨ letter = 'E' then
      let (negative, unsigned) :=
        match rest with
        | '-' :: more => (true, more)
        | '+' :: more => (false, more)
        | _ => (false, rest)
      let digits := unsigned.takeWhile Char.isDigit
      if digits = [] then none
      else
        let value := Int.ofNat (digitsValue digits)
        some (if negative then -value else value, unsigned.dropWhile Char.isDigit)
    else some (0, letter :: rest)

def readNumber? (chars : List Char) : Option (Number × List Char) := do
  let (negative, unsigned) :=
    match chars with
    | '-' :: more => (true, more)
    | _ => (false, chars)
  let whole := unsigned.takeWhile Char.isDigit
  if whole = [] ∨ (whole.head? = some '0' ∧ whole.length > 1) then none
  let (digits, rest) ← fraction? (unsigned.dropWhile Char.isDigit)
  let (exponent, rest) ← exponent? rest
  return (Number.ofDecimal negative (digitsValue (whole ++ digits))
    (exponent - Int.ofNat digits.length), rest)

/-- What follows `word`, if the text begins with it. -/
def after? (word : String) (chars : List Char) : Option (List Char) :=
  if word.toList.isPrefixOf chars then some (chars.drop word.length) else none

mutual

/-- A value, after leading blanks. -/
def readValue? : Nat → List Char → Option (Json × List Char)
  | 0, _ => none
  | fuel + 1, chars =>
    match skipBlanks chars with
    | [] => none
    | '{' :: rest =>
      match skipBlanks rest with
      | '}' :: after => some (.object [], after)
      | _ => readMembers? fuel [] rest
    | '[' :: rest =>
      match skipBlanks rest with
      | ']' :: after => some (.array [], after)
      | _ => readItems? fuel [] rest
    | '"' :: rest => (readString? (rest.length + 1) [] rest).map fun (text, after) => (.string text, after)
    | chars =>
      match after? "true" chars, after? "false" chars, after? "null" chars with
      | some after, _, _ => some (.bool true, after)
      | _, some after, _ => some (.bool false, after)
      | _, _, some after => some (.null, after)
      | none, none, none => (readNumber? chars).map fun (value, after) => (.number value, after)

/-- The items of an array up to its closing bracket, after those already read, latest first. -/
def readItems? : Nat → List Json → List Char → Option (Json × List Char)
  | 0, _, _ => none
  | fuel + 1, read, chars => do
    let (item, rest) ← readValue? fuel chars
    match skipBlanks rest with
    | ',' :: more => readItems? fuel (item :: read) more
    | ']' :: after => return (.array (item :: read).reverse, after)
    | _ => none

/-- The fields of an object up to its closing brace, on top of those already read. -/
def readMembers? : Nat → Fields Json → List Char → Option (Json × List Char)
  | 0, _, _ => none
  | fuel + 1, read, chars =>
    match skipBlanks chars with
    | '"' :: rest => do
      let (name, rest) ← readString? (rest.length + 1) [] rest
      match skipBlanks rest with
      | ':' :: rest =>
        let (value, rest) ← readValue? fuel rest
        let read := read.set name value
        match skipBlanks rest with
        | ',' :: more => readMembers? fuel read more
        | '}' :: after => return (.object read, after)
        | _ => none
      | _ => none
    | _ => none

end

/-- The value of a JSON text; `none` when the text is malformed. -/
def parse? (text : String) : Option Json := do
  let (value, rest) ← readValue? (text.toList.length + 1) text.toList
  if skipBlanks rest = [] then some value else none

end HttpRouting.Json

import HttpRouting.Json.Value

/-! # Writing JSON

A value is written without spaces. In a string only the quote, the backslash and the characters
below U+0020 are escaped; all others stand for themselves. An infinite number has no JSON form and
is written `null`.
-/

namespace HttpRouting.Json

def lowerHexDigit (value : Nat) : Char :=
  Char.ofNat (if value < 10 then 0x30 + value else 0x57 + value)

def escapeChar (char : Char) : List Char :=
  if char = '"' then ['\\', '"']
  else if char = '\\' then ['\\', '\\']
  else if char = '\x08' then ['\\', 'b']
  else if char = '\x0C' then ['\\', 'f']
  else if char = '\n' then ['\\', 'n']
  else if char = '\r' then ['\\', 'r']
  else if char = '\t' then ['\\', 't']
  else if char.toNat < 0x20 then
    ['\\', 'u', '0', '0', lowerHexDigit (char.toNat / 16), lowerHexDigit (char.toNat % 16)]
  else [char]

def quote (text : String) : List Char :=
  '"' :: text.toList.flatMap escapeChar ++ ['"']

def numberChars : Number → List Char
  | .infinite _ => "null".toList
  | finite => finite.renderChars

mutual

def renderChars : Json → List Char
  | .null => "null".toList
  | .bool value => (if value then "true" else "false").toList
  | .number value => numberChars value
  | .string text => quote text
  | .array items => '[' :: renderItems items ++ [']']
  | .object fields => '{' :: renderFields fields ++ ['}']

def renderItems : List Json → List Char
  | [] => []
  | [item] => renderChars item
  | item :: rest => renderChars item ++ ',' :: renderItems rest

def renderFields : List (String × Json) → List Char
  | [] => []
  | [(name, value)] => quote name ++ ':' :: renderChars value
  | (name, value) :: rest => quote name ++ ':' :: renderChars value ++ ',' :: renderFields rest

end

def render (value : Json) : String :=
  String.ofList (renderChars value)

end HttpRouting.Json

/-! # Percent escapes

An octet is escaped as `%` and two hexadecimal digits; a character is escaped by escaping the octets
of its UTF-8 form. Two readers are needed. The strict one, used for path segments, refuses a `%`
without two digits and octets that are no UTF-8. The lenient one, used for query fields and host
names, keeps such a `%` and reads stray octets as the replacement character.
-/

namespace HttpRouting.Text

/-- The digit of a value below sixteen, letters in upper case. -/
def hexDigit (value : Nat) : Char :=
  Char.ofNat (if value < 10 then 0x30 + value else 0x37 + value)

def hexValue? (char : Char) : Option Nat :=
  if '0' ≤ char ∧ char ≤ '9' then some (char.toNat - 0x30)
  else if 'a' ≤ char ∧ char ≤ 'f' then some (char.toNat - 0x57)
  else if 'A' ≤ char ∧ char ≤ 'F' then some (char.toNat - 0x37)
  else none

def octets (chars : List Char) : List UInt8 :=
  chars.flatMap String.utf8EncodeChar

def escapeOctet (octet : UInt8) : List Char :=
  ['%', hexDigit (octet.toNat / 16), hexDigit (octet.toNat % 16)]

/-- `chars` with every character outside `plain` escaped. -/
def escapeChars (plain : Char → Bool) (chars : List Char) : List Char :=
  chars.flatMap fun char =>
    if plain char then [char] else (String.utf8EncodeChar char).flatMap escapeOctet

/-- `text` with every character outside `plain` escaped. -/
def escape (plain : Char → Bool) (text : String) : String :=
  String.ofList (escapeChars plain text.toList)

/-- The characters that a path segment may hold unescaped: letters, digits and `-_.!~*'()`. -/
def isPlainInSegment (char : Char) : Bool :=
  char.isAlphanum || "-_.!~*'()".toList.contains char

def escapeSegment (text : String) : String :=
  escape isPlainInSegment text

/-- The octets that `chars` stand for, escapes read; `none` for a `%` without two digits. -/
def unescapeOctets? : List Char → Option (List UInt8)
  | [] => some []
  | '%' :: high :: low :: rest => do
    let high ← hexValue? high
    let low ← hexValue? low
    return (16 * high + low).toUInt8 :: (← unescapeOctets? rest)
  | char :: rest =>
    if char = '%' then none
    else do return String.utf8EncodeChar char ++ (← unescapeOctets? rest)

/-- `text` with its escapes read; `none` when one is cut short or when the octets are no UTF-8. -/
def unescape? (text : String) : Option String := do
  let octets ← unescapeOctets? text.toList
  String.fromUTF8? ⟨octets.toArray⟩

/-- The octets that `chars` stand for; a `%` without two digits stands for itself. -/
def unescapeOctets : List Char → List UInt8
  | [] => []
  | '%' :: high :: low :: rest =>
    match hexValue? high, hexValue? low with
    | some high, some low => (16 * high + low).toUInt8 :: unescapeOctets rest
    | _, _ => '%'.toUInt8 :: unescapeOctets (high :: low :: rest)
  | char :: rest => String.utf8EncodeChar char ++ unescapeOctets rest

/-- What a lenient reader of UTF-8 still expects: how many octets, the bits so far, and the range
of the next octet. -/
structure Pending where
  missing : Nat
  bits : Nat
  least : Nat := 0x80
  greatest : Nat := 0xBF

/-- The character read in place of octets that are no UTF-8. -/
def replacement : Char := '\uFFFD'

def Pending.begin (octet : Nat) : List Char × Option Pending :=
  if octet < 0x80 then ([Char.ofNat octet], none)
  else if 0xC2 ≤ octet ∧ octet ≤ 0xDF then ([], some ⟨1, octet - 0xC0, 0x80, 0xBF⟩)
  else if octet = 0xE0 then ([], some ⟨2, 0, 0xA0, 0xBF⟩)
  else if octet = 0xED then ([], some ⟨2, 0xD, 0x80, 0x9F⟩)
  else if 0xE1 ≤ octet ∧ octet ≤ 0xEF then ([], some ⟨2, octet - 0xE0, 0x80, 0xBF⟩)
  else if octet = 0xF0 then ([], some ⟨3, 0, 0x90, 0xBF⟩)
  else if 0xF1 ≤ octet ∧ octet ≤ 0xF3 then ([], some ⟨3, octet - 0xF0, 0x80, 0xBF⟩)
  else if octet = 0xF4 then ([], some ⟨3, 4, 0x80, 0x8F⟩)
  else ([replacement], none)

/-- Read the next octet; one that does not fit ends the character begun and begins another. -/
def Pending.step (pending : Option Pending) (octet : Nat) : List Char × Option Pending :=
  match pending with
  | none => begin octet
  | some ⟨missing, bits, least, greatest⟩ =>
    if least ≤ octet ∧ octet ≤ greatest then
      let bits := bits * 64 + (octet - 0x80)
      if missing ≤ 1 then ([Char.ofNat bits], none) else ([], some ⟨missing - 1, bits, 0x80, 0xBF⟩)
    else
      let (chars, next) := begin octet
      (replacement :: chars, next)

/-- Read UTF-8 leniently, with a character possibly begun. -/
def decodeLeniently (pending : Option Pending) : List UInt8 → List Char
  | [] => if pending.isSome then [replacement] else []
  | octet :: rest =>
    let (chars, next) := Pending.step pending octet.toNat
    chars ++ decodeLeniently next rest

/-- `text` with its escapes read leniently. -/
def unescape (text : String) : String :=
  String.ofList (decodeLeniently none (unescapeOctets text.toList))

end HttpRouting.Text

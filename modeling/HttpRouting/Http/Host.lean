import HttpRouting.Text.Case
import HttpRouting.Text.Percent
import HttpRouting.Text.Split

/-! # Hosts

The host of an address, in its normal form: a domain in lower case with non-ASCII labels in Punycode,
an IPv4 address in dotted decimal, or an IPv6 address in brackets with its longest run of zero groups
left out. `Host.parse?` refuses what is none of these.
-/

namespace HttpRouting.Host

open Text

/-! ## Punycode -/

def punyDigit (value : Nat) : Char :=
  Char.ofNat (if value < 26 then 0x61 + value else 0x16 + value)

def threshold (place bias : Nat) : Nat :=
  if place ≤ bias then 1 else min 26 (place - bias)

private theorem threshold_le (place bias : Nat) : threshold place bias ≤ 26 := by
  unfold threshold
  split <;> omega

private theorem threshold_pos (place bias : Nat) : 1 ≤ threshold place bias := by
  unfold threshold
  split <;> omega

/-- A number in digits of varying base. -/
def punyNumber (bias place value : Nat) : List Char :=
  let least := threshold place bias
  if value < least then [punyDigit value]
  else
    punyDigit (least + (value - least) % (36 - least)) ::
      punyNumber bias (place + 36) ((value - least) / (36 - least))
termination_by value
decreasing_by
  have := threshold_pos place bias
  have := threshold_le place bias
  have : (value - threshold place bias) / (36 - threshold place bias) ≤
      value - threshold place bias := Nat.div_le_self _ _
  omega

/-- Shrink a difference until it is small, counting by 36. -/
def shrink (count difference : Nat) : Nat × Nat :=
  if 455 < difference then shrink (count + 36) (difference / 35) else (count, difference)
termination_by difference
decreasing_by exact Nat.div_lt_self (by omega) (by omega)

/-- The bias after a number has been written. -/
def adapt (difference written : Nat) (first : Bool) : Nat :=
  let scaled := if first then difference / 700 else difference / 2
  let (count, rest) := shrink 0 (scaled + scaled / written)
  count + 36 * rest / (rest + 38)

/-- The state of the writer: its output, the difference to be written, the bias, and the number of
characters already accounted for. -/
structure PunyState where
  output : List Char
  difference : Nat
  bias : Nat
  handled : Nat

/-- Pass one character of the label while the code point `next` is inserted. -/
def PunyState.pass (basics next : Nat) (state : PunyState) (char : Char) : PunyState :=
  if char.toNat < next then { state with difference := state.difference + 1 }
  else if char.toNat = next then
    { output := state.output ++ punyNumber state.bias 36 state.difference
      difference := 0
      bias := adapt state.difference (state.handled + 1) (state.handled == basics)
      handled := state.handled + 1 }
  else state

/-- Insert the remaining code points, which are sorted, one after the other. -/
def insertAll (label : List Char) (basics : Nat) : Nat → List Nat → PunyState → PunyState
  | _, [], state => state
  | least, next :: rest, state =>
    let ready := { state with
      difference := state.difference + (next - least) * (state.handled + 1) }
    let passed := label.foldl (PunyState.pass basics next) ready
    insertAll label basics (next + 1) rest { passed with difference := passed.difference + 1 }

/-- A label with non-ASCII characters, in Punycode. -/
def punycode (label : List Char) : List Char :=
  let basics := label.filter (·.toNat < 0x80)
  let others := ((label.map Char.toNat).filter (· ≥ 0x80)).eraseDups.mergeSort
  let start : PunyState :=
    ⟨basics ++ (if basics = [] then [] else ['-']), 0, 72, basics.length⟩
  (insertAll label basics.length 0x80 others start).output

/-! ## Domains -/

/-- A character as domains compare it: full-width forms are narrow, all dots are full stops. -/
def narrow (char : Char) : List Char :=
  if char = '\u3002' || char = '\uFF0E' || char = '\uFF61' then ['.']
  else if 0xFF01 ≤ char.toNat ∧ char.toNat ≤ 0xFF5E then [Char.ofNat (char.toNat - 0xFEE0)]
  else if char = '\u00AD' then []
  else [char]

def asciiLabel (label : String) : String :=
  if label.toList.all (·.toNat < 0x80) then label
  else String.ofList ("xn--".toList ++ punycode label.toList)

/-- A domain in ASCII and lower case. -/
def asciiDomain (domain : String) : String :=
  let lowered := lower (String.ofList (domain.toList.flatMap narrow))
  join "." ((cut '.' lowered).map asciiLabel)

/-- Whether a character may not occur in a host of any kind. -/
def isForbidden (char : Char) : Bool :=
  "\x00\t\n\r #/:<>?@[\\]^|".toList.contains char

def isForbiddenInDomain (char : Char) : Bool :=
  isForbidden char || char.toNat ≤ 0x1F || char = '%' || char = '\x7F'

/-! ## IPv4 addresses -/

/-- A number of an IPv4 address: hexadecimal after `0x`, octal after `0`, else decimal. -/
def ipv4Number? (text : String) : Option Nat :=
  let value? (base : Nat) (digits : List Char) : Option Nat := do
    let values ← digits.mapM fun char => (hexValue? char).filter (· < base)
    return values.foldl (fun total value => base * total + value) 0
  match text.toList with
  | [] => none
  | '0' :: 'x' :: digits | '0' :: 'X' :: digits => value? 16 digits
  | '0' :: digit :: digits => value? 8 (digit :: digits)
  | digits => value? 10 digits

/-- The labels of a domain without an empty last one. -/
def addressParts (domain : String) : List String :=
  let parts := cut '.' domain
  if parts.length > 1 ∧ parts.getLast? = some "" then parts.dropLast else parts

/-- Whether the last label of a domain makes it an IPv4 address, well formed or not. -/
def endsInNumber (domain : String) : Bool :=
  match (addressParts domain).getLast? with
  | none | some "" => false
  | some last => last.toList.all Char.isDigit || (ipv4Number? last).isSome

def dottedDecimal (value : Nat) : String :=
  join "." ([value / 0x1000000 % 256, value / 0x10000 % 256, value / 0x100 % 256,
    value % 256].map toString)

def ipv4? (domain : String) : Option String := do
  let parts := addressParts domain
  if parts.length > 4 then none
  else
    let numbers ← parts.mapM ipv4Number?
    let last ← numbers.getLast?
    let leading := numbers.dropLast
    if leading.any (· > 255) || last ≥ Nat.pow 256 (5 - numbers.length) then none
    else
      let high := leading.zipIdx.foldl
        (fun total (value, place) => total + value * Nat.pow 256 (3 - place)) 0
      return dottedDecimal (high + last)

/-! ## IPv6 addresses -/

/-- One group of an IPv6 address. -/
def group? (text : String) : Option Nat := do
  let digits := text.toList
  if digits = [] ∨ digits.length > 4 then none
  else
    let values ← digits.mapM hexValue?
    return values.foldl (fun total value => 16 * total + value) 0

/-- A decimal octet without a leading zero. -/
def octet? (text : String) : Option Nat :=
  let digits := text.toList
  if digits = [] ∨ digits.length > 3 ∨ !digits.all Char.isDigit ∨
      (digits.length > 1 ∧ digits.head? = some '0') then none
  else
    let value := digits.foldl (fun total char => 10 * total + (char.toNat - '0'.toNat)) 0
    if value ≤ 255 then some value else none

/-- The last two groups, written as an IPv4 address. -/
def dottedGroups? (text : String) : Option (List Nat) := do
  match ← (cut '.' text).mapM octet? with
  | [a, b, c, d] => return [a * 256 + b, c * 256 + d]
  | _ => none

/-- Groups between colons; the last may be an IPv4 address where that is allowed. -/
def groups? (dottedLast : Bool) (text : String) : Option (List Nat) :=
  if text = "" then some []
  else
    let parts := cut ':' text
    match parts.getLast? with
    | none => none
    | some last =>
      if dottedLast ∧ last.toList.contains '.' then do
        return (← parts.dropLast.mapM group?) ++ (← dottedGroups? last)
      else parts.mapM group?

/-- The text before and after the first `::`. -/
def splitGap : List Char → List Char × Option (List Char)
  | [] => ([], none)
  | ':' :: ':' :: rest => ([], some rest)
  | char :: rest =>
    let (head, tail) := splitGap rest
    (char :: head, tail)

def ipv6Groups? (text : String) : Option (List Nat) := do
  match splitGap text.toList with
  | (head, none) =>
    let groups ← groups? true (String.ofList head)
    if groups.length = 8 then some groups else none
  | (head, some tail) =>
    let head ← groups? false (String.ofList head)
    let tail ← groups? true (String.ofList tail)
    let count := head.length + tail.length
    if count ≤ 7 then some (head ++ List.replicate (8 - count) 0 ++ tail) else none

/-- How many zeros a list begins with. -/
def zeroRun (groups : List Nat) : Nat :=
  (groups.takeWhile (· = 0)).length

/-- The place and length of the first longest run of at least two zero groups. -/
def gap? (groups : List Nat) : Option (Nat × Nat) :=
  let runs := (List.range groups.length).map fun place => (place, zeroRun (groups.drop place))
  runs.foldl (fun best run =>
    if run.2 ≥ 2 ∧ (best.all fun found => found.2 < run.2) then some run else best) none

def groupText (value : Nat) : String :=
  String.ofList (Nat.toDigits 16 value)

/-- An IPv6 address in its normal form. -/
def ipv6Text (groups : List Nat) : String :=
  match gap? groups with
  | none => join ":" (groups.map groupText)
  | some (place, count) =>
    join ":" ((groups.take place).map groupText) ++ "::" ++
      join ":" ((groups.drop (place + count)).map groupText)

/-! ## Any host -/

/-- The host that a text spells in an address whose scheme has domains. -/
def special? (text : String) : Option String :=
  let domain := asciiDomain (unescape text)
  if domain = "" || domain.toList.any isForbiddenInDomain then none
  else if endsInNumber domain then ipv4? domain
  else some domain

/-- The host that a text spells in an address of any other scheme. -/
def plainHost? (text : String) : Option String :=
  if text.toList.any isForbidden then none
  else some (escape (fun char => 0x20 ≤ char.toNat && char.toNat ≤ 0x7E) text)

/-- The host that a text spells, in its normal form. -/
def parse? (isSpecial : Bool) (text : String) : Option String :=
  match text.toList with
  | '[' :: rest =>
    if rest.getLast? = some ']' then
      (ipv6Groups? (String.ofList rest.dropLast)).map fun groups => "[" ++ ipv6Text groups ++ "]"
    else none
  | _ => if isSpecial then special? text else plainHost? text

end HttpRouting.Host

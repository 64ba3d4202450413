import HttpRouting.Number.Binary

/-! # The shortest decimal that reads back

Of all decimals that round to a number the text has the fewest digits, and of those it is the
nearest. `shortest` finds it on the grids of one, two, … seventeen digits: on each grid only the
two neighbours of the number need be tried, since if any point of the grid rounds to the number then
one of its two neighbours does. `NumberFormat` holds the decisions of the written form.
-/

namespace HttpRouting.Number

/-- A positive decimal `digits * 10 ^ scale`. -/
structure Decimal where
  digits : Nat
  scale : Int
deriving DecidableEq, Repr

/-- `10 ^ scale` as a numerator and a denominator. -/
def powerOfTen (scale : Int) : Nat × Nat :=
  if scale ≥ 0 then (Nat.pow 10 scale.toNat, 1) else (1, Nat.pow 10 (-scale).toNat)

/-- Compare `left.1 / left.2` with `right.1 / right.2`. -/
def ratioLt (left right : Nat × Nat) : Bool :=
  left.1 * right.2 < right.1 * left.2

/-- Whether the decimal rounds to `multiple * 2 ^ exponent`: it lies between the midpoints to the
two neighbouring numbers, which themselves round here exactly when the multiple is even. -/
def readsBack (multiple : Nat) (exponent : Int) (decimal : Decimal) : Bool :=
  let (tens, tenths) := powerOfTen decimal.scale
  let (upper, lower) := powerOfTwo (exponent - 2)
  let value := (decimal.digits * tens, tenths)
  let atEdge := multiple = multipleBound / 2 ∧ exponent > leastExponent
  let low := ((4 * multiple - (if atEdge then 1 else 2)) * upper, lower)
  let high := ((4 * multiple + 2) * upper, lower)
  if multiple % 2 = 0 then !ratioLt value low && !ratioLt high value
  else ratioLt low value && ratioLt value high

/-- The distance of the decimal to `multiple * 2 ^ exponent`. -/
def distance (multiple : Nat) (exponent : Int) (decimal : Decimal) : Nat × Nat :=
  let (tens, tenths) := powerOfTen decimal.scale
  let (upper, lower) := powerOfTwo exponent
  let left := decimal.digits * tens * lower
  let right := multiple * upper * tenths
  (if left ≤ right then right - left else left - right, tenths * lower)

/-- The decimal on the grid of step `10 ^ scale` that rounds to the number and is nearest to it. -/
def onGrid? (multiple : Nat) (exponent : Int) (scale : Int) : Option Decimal :=
  let (tens, tenths) := powerOfTen scale
  let (upper, lower) := powerOfTwo exponent
  let below : Decimal := ⟨multiple * upper * tenths / (lower * tens), scale⟩
  let above : Decimal := ⟨below.digits + 1, scale⟩
  match readsBack multiple exponent below, readsBack multiple exponent above with
  | true, true =>
    let nearer := ratioLt (distance multiple exponent above) (distance multiple exponent below)
    some (if nearer then above else below)
  | true, false => some below
  | false, true => some above
  | false, false => none

def digitCount (value : Nat) : Nat :=
  (Nat.toDigits 10 value).length

/-- The least `top` with `multiple * 2 ^ exponent < 10 ^ top`. -/
def decimalTop (multiple : Nat) (exponent : Int) : Int :=
  let (upper, lower) := powerOfTwo exponent
  let whole := multiple * upper / lower
  if whole > 0 then Int.ofNat (digitCount whole)
  else
    let scaled := multiple * upper * Nat.pow 10 400 / lower
    Int.ofNat (digitCount scaled) - 400

/-- The shortest decimal that rounds to `multiple * 2 ^ exponent`. -/
def shortest (multiple : Nat) (exponent : Int) : Decimal :=
  let top := decimalTop multiple exponent
  match (List.range 17).findSome? fun count => onGrid? multiple exponent (top - Int.ofNat count - 1) with
  | some decimal => decimal
  | none => ⟨multiple, exponent⟩

/-- Where the positional form of a number ends and how an exponent is written. -/
structure Format where
  /-- The greatest power of ten below which a number is written without an exponent. -/
  positionalTop : Int
  /-- The greatest number of zeros written directly after the point. -/
  leadingZeros : Int

/-- Numbers from `1e-6` up to but without `1e21` are positional; an exponent carries its sign. -/
def plainFormat : Format := ⟨21, 5⟩

/-- Trailing zeros of the digits, moved into the scale. -/
def Decimal.strip : Nat → Decimal → Decimal
  | 0, decimal => decimal
  | fuel + 1, decimal =>
    if decimal.digits ≠ 0 ∧ decimal.digits % 10 = 0 then
      strip fuel ⟨decimal.digits / 10, decimal.scale + 1⟩
    else decimal

def Format.write (format : Format) (decimal : Decimal) : List Char :=
  let decimal := decimal.strip 400
  let digits := Nat.toDigits 10 decimal.digits
  let count := Int.ofNat digits.length
  let top := count + decimal.scale
  if count ≤ top ∧ top ≤ format.positionalTop then
    digits ++ List.replicate (top - count).toNat '0'
  else if 0 < top ∧ top ≤ format.positionalTop then
    digits.take top.toNat ++ '.' :: digits.drop top.toNat
  else if -format.leadingZeros ≤ top ∧ top ≤ 0 then
    '0' :: '.' :: List.replicate (-top).toNat '0' ++ digits
  else
    let exponent := top - 1
    let sign := if exponent < 0 then '-' else '+'
    digits.take 1 ++ (if digits.length > 1 then '.' :: digits.drop 1 else []) ++
      'e' :: sign :: Nat.toDigits 10 exponent.natAbs

def renderChars : Number → List Char
  | .infinite negative => (if negative then "-Infinity" else "Infinity").toList
  | .finite negative multiple exponent =>
    if multiple = 0 then ['0']
    else
      let written := plainFormat.write (shortest multiple exponent)
      if negative then '-' :: written else written

/-- A number as text; zero has no sign. -/
def render (number : Number) : String :=
  String.ofList number.renderChars

end HttpRouting.Number

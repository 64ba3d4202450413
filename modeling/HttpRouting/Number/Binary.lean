/-! # Binary floating-point numbers

A number is a sign and an integer multiple of a power of two, with at most 53 significant bits and
an exponent in the range of the 64-bit format, or it is infinite. Reading a decimal rounds to the
nearest such number, a tie going to the even multiple; a decimal beyond the range is infinite. All
of it is exact integer arithmetic, so no rounding of the machine takes part.
-/

namespace HttpRouting

/-- A 64-bit floating-point number that is not a `NaN`: `± multiple * 2 ^ exponent`, or infinite. -/
inductive Number where
  | finite (negative : Bool) (multiple : Nat) (exponent : Int)
  | infinite (negative : Bool)
deriving DecidableEq, Repr

namespace Number

def leastExponent : Int := -1074

def greatestExponent : Int := 971

/-- One more than the greatest multiple. -/
def multipleBound : Nat := Nat.pow 2 53

/-- `numerator / denominator` to the nearest integer, a tie to the even one. -/
def roundDiv (numerator denominator : Nat) : Nat :=
  let quotient := numerator / denominator
  let rest := 2 * (numerator % denominator)
  if rest < denominator ∨ (rest = denominator ∧ quotient % 2 = 0) then quotient else quotient + 1

def bitLength (value : Nat) : Nat :=
  if value = 0 then 0 else value.log2 + 1

/-- `2 ^ exponent` as a numerator and a denominator. -/
def powerOfTwo (exponent : Int) : Nat × Nat :=
  if exponent ≥ 0 then (Nat.pow 2 exponent.toNat, 1) else (1, Nat.pow 2 (-exponent).toNat)

/-- The number nearest to `numerator / denominator`. -/
def ofRatio (negative : Bool) (numerator denominator : Nat) : Number :=
  if numerator = 0 then .finite negative 0 leastExponent
  else
    let guess : Int := Int.ofNat (bitLength numerator) - Int.ofNat (bitLength denominator) - 53
    let fits (exponent : Int) : Bool :=
      let (upper, lower) := powerOfTwo exponent
      numerator * lower < multipleBound * (denominator * upper)
    let exponent := max leastExponent (if fits guess then guess else guess + 1)
    let (upper, lower) := powerOfTwo exponent
    let multiple := roundDiv (numerator * lower) (denominator * upper)
    let (multiple, exponent) :=
      if multiple = multipleBound then (multipleBound / 2, exponent + 1) else (multiple, exponent)
    if exponent > greatestExponent then .infinite negative else .finite negative multiple exponent

/-- The number nearest to `digits * 10 ^ scale`. A scale far outside the range is cut short before
any power is formed, since it decides the answer by itself. -/
def ofDecimal (negative : Bool) (digits : Nat) (scale : Int) : Number :=
  if digits = 0 then .finite negative 0 leastExponent
  else
    let magnitude := Int.ofNat (bitLength digits) + 4 * scale
    if scale > 0 ∧ scale > 400 then .infinite negative
    else if magnitude < -5000 then .finite negative 0 leastExponent
    else if scale ≥ 0 then ofRatio negative (digits * Nat.pow 10 scale.toNat) 1
    else ofRatio negative digits (Nat.pow 10 (-scale).toNat)

def ofNat (value : Nat) : Number :=
  ofRatio false value 1

def ofInt (value : Int) : Number :=
  ofRatio (value < 0) value.natAbs 1

instance (value : Nat) : OfNat Number value := ⟨ofNat value⟩

/-- Whether the number is zero, of either sign. -/
def isZero : Number → Bool
  | .finite _ multiple _ => multiple == 0
  | .infinite _ => false

/-- The number without its fraction; zero for an infinite one. -/
def truncate : Number → Int
  | .infinite _ => 0
  | .finite negative multiple exponent =>
    let (upper, lower) := powerOfTwo exponent
    let whole := Int.ofNat (multiple * upper / lower)
    if negative then -whole else whole

end Number

end HttpRouting

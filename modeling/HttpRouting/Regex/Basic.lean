/-! # Regular expressions

The abstract syntax of the expressions that constrain a path segment. They read a text as 16-bit
units. Besides the regular operators there are captures, which a later part may recall, and looks,
which test what lies ahead or behind without consuming it.

A character outside the basic plane counts as the two surrogates that encode it.
-/

namespace HttpRouting

namespace Text

/-- One 16-bit unit of a text. -/
abbrev CodeUnit := UInt16

def charUnits (char : Char) : List CodeUnit :=
  if char.toNat < 0x10000 then [char.toNat.toUInt16]
  else
    let offset := char.toNat - 0x10000
    [(0xD800 + offset / 0x400).toUInt16, (0xDC00 + offset % 0x400).toUInt16]

def units (text : String) : List CodeUnit :=
  text.toList.flatMap charUnits

/-- The character of a unit that is no surrogate; a surrogate stands for no character and gives
the null character. -/
def symbol (unit : CodeUnit) : Char :=
  Char.ofNat unit.toNat

end Text

open Text

/-- The named sets of units. -/
inductive UnitSet where
  | digit
  | space
  | word
deriving DecidableEq, Repr

def UnitSet.isDigit (unit : CodeUnit) : Bool :=
  0x30 ≤ unit && unit ≤ 0x39

/-- Whether a unit is an ASCII letter, a digit or an underscore. -/
def UnitSet.isWord (unit : CodeUnit) : Bool :=
  isDigit unit || (0x41 ≤ unit && unit ≤ 0x5A) || (0x61 ≤ unit && unit ≤ 0x7A) || unit == 0x5F

def UnitSet.isLineEnd (unit : CodeUnit) : Bool :=
  unit == 0x0A || unit == 0x0D || unit == 0x2028 || unit == 0x2029

/-- Whether a unit is blank: a control blank, a Unicode space, a line end or the byte order mark. -/
def UnitSet.isSpace (unit : CodeUnit) : Bool :=
  (0x09 ≤ unit && unit ≤ 0x0D) || unit == 0x20 || unit == 0xA0 || unit == 0x1680 ||
    (0x2000 ≤ unit && unit ≤ 0x200A) || unit == 0x2028 || unit == 0x2029 || unit == 0x202F ||
    unit == 0x205F || unit == 0x3000 || unit == 0xFEFF

def UnitSet.holds : UnitSet → CodeUnit → Bool
  | .digit, unit => isDigit unit
  | .space, unit => isSpace unit
  | .word, unit => isWord unit

/-- One part of a bracketed class. -/
inductive ClassItem where
  | range (first last : CodeUnit)
  | set (base : UnitSet) (negated : Bool)
deriving DecidableEq, Repr

def ClassItem.holds : ClassItem → CodeUnit → Bool
  | .range first last, unit => first ≤ unit && unit ≤ last
  | .set base negated, unit => base.holds unit != negated

/-- A test of one unit. -/
inductive UnitTest where
  | exactly (unit : CodeUnit)
  | notLineEnd
  | items (items : List ClassItem) (negated : Bool)
deriving DecidableEq, Repr

def UnitTest.holds : UnitTest → CodeUnit → Bool
  | .exactly expected, unit => unit == expected
  | .notLineEnd, unit => !UnitSet.isLineEnd unit
  | .items parts negated, unit => parts.any (·.holds unit) != negated

/-- A regular expression. Captures are numbered from one; `iterate` names the captures of its body
by the number before the first and how many there are, since every round forgets them. -/
inductive Regex where
  | empty
  | test (test : UnitTest)
  | sequence (first second : Regex)
  | either (left right : Regex)
  | capture (index : Nat) (body : Regex)
  | iterate (body : Regex) (least : Nat) (most : Option Nat) (greedy : Bool)
      (capturesBefore captureCount : Nat)
  | recall (index : Nat)
  | look (ahead negated : Bool) (body : Regex)
  | textStart
  | textEnd
  | boundary (negated : Bool)
deriving DecidableEq, Repr

/-- An expression with the number of its captures. -/
structure Regex.Program where
  tree : Regex
  captureCount : Nat
deriving DecidableEq, Repr

end HttpRouting

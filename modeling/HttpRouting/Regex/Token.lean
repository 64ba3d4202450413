import HttpRouting.Regex.Basic
import HttpRouting.Text.Case
import HttpRouting.Text.IdentifierData
import HttpRouting.Text.Percent

/-! # Tokens of regular expressions

The written form is lenient. A brace that opens no interval, a closing bracket or brace, and an
escape with no meaning of its own all stand for themselves. Two decisions need a look at the whole
text first: a decimal escape recalls a capture only if there are that many and is an octal code
otherwise, and `\k` recalls by name only if some capture has a name.
-/

namespace HttpRouting.Regex

open Text

/-- What an opening parenthesis begins. -/
inductive Opening where
  | group
  | capture (name : Option String)
  | look (ahead negated : Bool)
deriving DecidableEq, Repr

/-- A token of a regular expression. -/
inductive Token where
  | test (test : UnitTest)
  | recall (index : Nat)
  | recallName (name : String)
  | textStart
  | textEnd
  | boundary (negated : Bool)
  | opening (opening : Opening)
  | closing
  | bar
  | quantifier (least : Nat) (most : Option Nat) (greedy : Bool)
deriving DecidableEq, Repr

/-- What the tokens depend on: how many captures there are and whether one has a name. -/
structure Outline where
  captureCount : Nat := 0
  hasNames : Bool := false
deriving Repr

/-- Count the captures of a text. Escaped units and the insides of brackets open none. -/
def Outline.scan (inClass : Bool) (outline : Outline) : List CodeUnit → Outline
  | [] => outline
  | unit :: rest =>
    match symbol unit with
    | '\\' =>
      match rest with
      | [] => outline
      | _ :: more => scan inClass outline more
    | '[' => scan true outline rest
    | ']' => scan false outline rest
    | '(' =>
      if inClass then scan inClass outline rest
      else
        match (rest.take 3).map symbol with
        | ['?', '<', third] =>
          if third = '=' ∨ third = '!' then scan inClass outline rest
          else scan inClass ⟨outline.captureCount + 1, true⟩ rest
        | '?' :: _ => scan inClass outline rest
        | _ => scan inClass { outline with captureCount := outline.captureCount + 1 } rest
    | _ => scan inClass outline rest

def digitValue? (base : Nat) (unit : CodeUnit) : Option Nat :=
  (hexValue? (symbol unit)).filter (· < base)

def hexDigits? (count : Nat) (units : List CodeUnit) : Option (Nat × List CodeUnit) := do
  let digits := units.take count
  if digits.length < count then none
  else
    let values ← digits.mapM (digitValue? 16)
    return (values.foldl (fun total value => 16 * total + value) 0, units.drop count)

def decimal? (units : List CodeUnit) : Option (Nat × List CodeUnit) :=
  let digits := units.takeWhile UnitSet.isDigit
  if digits = [] then none
  else some (digits.foldl (fun total unit => 10 * total + (unit.toNat - 0x30)) 0,
    units.dropWhile UnitSet.isDigit)

/-- Read at most three octal digits whose value stays below 256. -/
def octal (first : Nat) (units : List CodeUnit) : Nat × List CodeUnit :=
  match units with
  | [] => (first, [])
  | second :: rest =>
    match digitValue? 8 second with
    | none => (first, units)
    | some digit =>
      let value := 8 * first + digit
      match rest with
      | [] => (value, [])
      | third :: more =>
        match digitValue? 8 third with
        | some last => if value < 32 then (8 * value + last, more) else (value, rest)
        | none => (value, rest)

/-- Whether a unit is an ASCII letter. -/
def isLetter (unit : CodeUnit) : Bool :=
  (symbol unit).isAlpha

/-- The set that a letter names after a backslash. -/
def namedSet? : Char → Option (UnitSet × Bool)
  | 'd' => some (.digit, false)
  | 'D' => some (.digit, true)
  | 's' => some (.space, false)
  | 'S' => some (.space, true)
  | 'w' => some (.word, false)
  | 'W' => some (.word, true)
  | _ => none

/-- The control character that a letter names after a backslash. -/
def namedControl? : Char → Option CodeUnit
  | 'f' => some 0x0C
  | 'n' => some 0x0A
  | 'r' => some 0x0D
  | 't' => some 0x09
  | 'v' => some 0x0B
  | _ => none

/-- The unit of an escape whose letter is read and names neither a set nor a capture; `letter` is
what the escape stands for when it has no other meaning. -/
def unitEscape (letter : CodeUnit) (rest : List CodeUnit) : CodeUnit × List CodeUnit :=
  match symbol letter with
  | 'x' =>
    match hexDigits? 2 rest with
    | some (value, more) => (value.toUInt16, more)
    | none => (letter, rest)
  | 'u' =>
    match hexDigits? 4 rest with
    | some (value, more) => (value.toUInt16, more)
    | none => (letter, rest)
  | char =>
    match namedControl? char with
    | some unit => (unit, rest)
    | none =>
      match digitValue? 8 letter with
      | some first =>
        let (value, more) := octal first rest
        (value.toUInt16, more)
      | none => (letter, rest)

/-- A backslash that escapes nothing. -/
def backslash : CodeUnit := 0x5C

/-- One atom of a bracketed class: a unit or a named set. -/
def classAtom? (outline : Outline) : List CodeUnit → Option ((CodeUnit ⊕ UnitSet × Bool) × List CodeUnit)
  | [] => none
  | unit :: rest =>
    if unit ≠ backslash then some (.inl unit, rest)
    else
      match rest with
      | [] => none
      | letter :: more =>
        match namedSet? (symbol letter) with
        | some set => some (.inr set, more)
        | none =>
          match symbol letter with
          | 'b' => some (.inl 0x08, more)
          | 'c' =>
            match more with
            | control :: after =>
              if UnitSet.isWord control then some (.inl (control &&& 0x1F), after)
              else some (.inl backslash, rest)
            | [] => some (.inl backslash, rest)
          | 'k' => if outline.hasNames then none else some (.inl letter, more)
          | _ =>
            let (unit, after) := unitEscape letter more
            some (.inl unit, after)

def atomItem : CodeUnit ⊕ UnitSet × Bool → ClassItem
  | .inl unit => .range unit unit
  | .inr (base, negated) => .set base negated

/-- The items of a class up to its closing bracket. A hyphen between two units makes a range, which
must not run backwards; next to a named set, or at the end, it stands for itself. -/
def classItems? (outline : Outline) : Nat → List CodeUnit → Option (List ClassItem × List CodeUnit)
  | 0, _ => none
  | fuel + 1, units =>
    match (units.take 1).map symbol with
    | [] => none
    | [']'] => some ([], units.drop 1)
    | _ => do
      let (first, rest) ← classAtom? outline units
      match (rest.take 2).map symbol with
      | ['-', ']'] => return ([atomItem first, .range 0x2D 0x2D], rest.drop 2)
      | '-' :: _ =>
        let (second, rest) ← classAtom? outline (rest.drop 1)
        match first, second with
        | .inl low, .inl high =>
          if high < low then none
          else
            let (items, rest) ← classItems? outline fuel rest
            return (.range low high :: items, rest)
        | _, _ =>
          let (items, rest) ← classItems? outline fuel rest
          return (atomItem first :: .range 0x2D 0x2D :: atomItem second :: items, rest)
      | _ =>
        let (items, rest) ← classItems? outline fuel rest
        return (atomItem first :: items, rest)

/-- The code point that begins a text of units, where two surrogates form one. -/
def codePoint? : List CodeUnit → Option (Nat × List CodeUnit)
  | [] => none
  | high :: rest =>
    match rest with
    | low :: more =>
      if 0xD800 ≤ high ∧ high < 0xDC00 ∧ 0xDC00 ≤ low ∧ low < 0xE000 then
        some (0x10000 + (high.toNat - 0xD800) * 0x400 + (low.toNat - 0xDC00), more)
      else some (high.toNat, rest)
    | [] => some (high.toNat, rest)

/-- The code point of a `\u` escape inside a name, four digits or any number in braces. -/
def nameEscape? (units : List CodeUnit) : Option (Nat × List CodeUnit) :=
  match (units.take 1).map symbol with
  | ['{'] =>
    let digits := (units.drop 1).takeWhile fun unit => (digitValue? 16 unit).isSome
    let rest := units.drop (1 + digits.length)
    match (rest.take 1).map symbol, hexDigits? digits.length digits with
    | ['}'], some (value, _) =>
      if digits = [] ∨ value > 0x10FFFF then none else some (value, rest.drop 1)
    | _, _ => none
  | _ => do
    let (high, rest) ← hexDigits? 4 units
    if 0xD800 ≤ high ∧ high < 0xDC00 then
      match (rest.take 2).map symbol with
      | ['\\', 'u'] =>
        match hexDigits? 4 (rest.drop 2) with
        | some (low, more) =>
          if 0xDC00 ≤ low ∧ low < 0xE000 then
            return (0x10000 + (high - 0xD800) * 0x400 + (low - 0xDC00), more)
          else return (high, rest)
        | none => return (high, rest)
      | _ => return (high, rest)
    else return (high, rest)

def beginsName (code : Nat) : Bool :=
  let char := Char.ofNat code
  char.isAlpha || char = '$' || char = '_' || (code ≥ 0x80 && inRanges IdentifierData.start char)

/-- Whether a capture's name may go on with the code point. -/
def continuesName (code : Nat) : Bool :=
  let char := Char.ofNat code
  beginsName code || char.isDigit || (code ≥ 0x80 && inRanges IdentifierData.further char)

/-- A capture's name up to its closing angle bracket; `read` holds its characters so far, latest
first. -/
def captureName? : Nat → List Char → List CodeUnit → Option (String × List CodeUnit)
  | 0, _, _ => none
  | fuel + 1, read, units =>
    match (units.take 2).map symbol with
    | [] => none
    | '>' :: _ => if read = [] then none else some (String.ofList read.reverse, units.drop 1)
    | start => do
      let (code, rest) ←
        if start = ['\\', 'u'] then nameEscape? (units.drop 2) else codePoint? units
      let fits := if read = [] then beginsName code else continuesName code
      if fits then captureName? fuel (Char.ofNat code :: read) rest else none

/-- The greatest number of rounds that an interval can ask for. -/
def roundBound : Nat := Nat.pow 2 31 - 1

/-- An interval after its opening brace: `n}`, `n,}` or `n,m}`. -/
def interval? (units : List CodeUnit) : Option (Nat × Option Nat × List CodeUnit) := do
  let (least, rest) ← decimal? units
  let least := min least roundBound
  match (rest.take 2).map symbol with
  | '}' :: _ => return (least, some least, rest.drop 1)
  | [',', '}'] => return (least, none, rest.drop 2)
  | ',' :: _ =>
    let (most, rest) ← decimal? (rest.drop 1)
    match (rest.take 1).map symbol with
    | ['}'] => return (least, some (min most roundBound), rest.drop 1)
    | _ => none
  | _ => none

/-- Whether a quantifier is greedy, which a question mark after it denies. -/
def greed (units : List CodeUnit) : Bool × List CodeUnit :=
  match (units.take 1).map symbol with
  | ['?'] => (false, units.drop 1)
  | _ => (true, units)

def quantified (least : Nat) (most : Option Nat) (rest : List CodeUnit) : Token × List CodeUnit :=
  let (greedy, rest) := greed rest
  (.quantifier least most greedy, rest)

/-- A unit that stands for itself. -/
def literal (unit : CodeUnit) : Token :=
  .test (.exactly unit)

/-- The token of an escape outside brackets, after its backslash. -/
def escapeToken? (outline : Outline) : List CodeUnit → Option (Token × List CodeUnit)
  | [] => none
  | letter :: rest =>
    match namedSet? (symbol letter) with
    | some (base, negated) => some (.test (.items [.set base negated] false), rest)
    | none =>
      match symbol letter with
      | 'b' => some (.boundary false, rest)
      | 'B' => some (.boundary true, rest)
      | 'c' =>
        match rest with
        | control :: more =>
          if isLetter control then some (literal (control &&& 0x1F), more)
          else some (literal backslash, letter :: rest)
        | [] => some (literal backslash, letter :: rest)
      | 'k' =>
        if outline.hasNames then
          match (rest.take 1).map symbol with
          | ['<'] => do
            let (name, rest) ← captureName? (rest.length + 1) [] (rest.drop 1)
            return (.recallName name, rest)
          | _ => none
        else some (literal letter, rest)
      | _ =>
        let plain : Token × List CodeUnit :=
          let (unit, rest) := unitEscape letter rest
          (literal unit, rest)
        if UnitSet.isDigit letter && letter ≠ 0x30 then
          match decimal? (letter :: rest) with
          | some (index, more) =>
            if index ≤ outline.captureCount then some (.recall index, more) else some plain
          | none => some plain
        else some plain

def openingToken? (units : List CodeUnit) : Option (Token × List CodeUnit) :=
  match (units.take 3).map symbol with
  | '?' :: ':' :: _ => some (.opening .group, units.drop 2)
  | '?' :: '=' :: _ => some (.opening (.look true false), units.drop 2)
  | '?' :: '!' :: _ => some (.opening (.look true true), units.drop 2)
  | ['?', '<', '='] => some (.opening (.look false false), units.drop 3)
  | ['?', '<', '!'] => some (.opening (.look false true), units.drop 3)
  | '?' :: '<' :: _ => do
    let (name, rest) ← captureName? (units.length + 1) [] (units.drop 2)
    return (.opening (.capture (some name)), rest)
  | '?' :: _ => none
  | _ => some (.opening (.capture none), units)

/-- The first token of a text that is not empty, and what follows it. -/
def token? (outline : Outline) : List CodeUnit → Option (Token × List CodeUnit)
  | [] => none
  | unit :: rest =>
    match symbol unit with
    | '^' => some (.textStart, rest)
    | '$' => some (.textEnd, rest)
    | '.' => some (.test .notLineEnd, rest)
    | '|' => some (.bar, rest)
    | ')' => some (.closing, rest)
    | '(' => openingToken? rest
    | '*' => some (quantified 0 none rest)
    | '+' => some (quantified 1 none rest)
    | '?' => some (quantified 0 (some 1) rest)
    | '{' =>
      match interval? rest with
      | some (least, most, rest) =>
        if most.any (· < least) then none else some (quantified least most rest)
      | none => some (literal unit, rest)
    | '[' =>
      let (negated, rest) :=
        match (rest.take 1).map symbol with
        | ['^'] => (true, rest.drop 1)
        | _ => (false, rest)
      do
        let (items, rest) ← classItems? outline (rest.length + 1) rest
        return (.test (.items items negated), rest)
    | '\\' => escapeToken? outline rest
    | _ => some (literal unit, rest)

/-- All tokens of a text; `none` when one is malformed. Every token takes at least one unit, so the
length of the text bounds their number. -/
def tokens? (outline : Outline) : Nat → List CodeUnit → Option (List Token)
  | _, [] => some []
  | 0, _ :: _ => none
  | fuel + 1, units => do
    let (token, rest) ← token? outline units
    return token :: (← tokens? outline fuel rest)

end HttpRouting.Regex

import HttpRouting.Text.CaseData

/-! # Upper and lower case

The full, language-independent case mappings: a character may become several (`ß` is `SS` in upper
case), and a capital sigma becomes the final form at the end of a word. ASCII letters keep to
ASCII; the converse fails, since the dotless `ı` and the long `ſ` have ASCII capitals.
-/

namespace HttpRouting.Text

open CaseData

/-- Whether one of the `ranges` holds the code point of `char`. -/
def inRanges (ranges : List (Nat × Nat)) (char : Char) : Bool :=
  ranges.any fun (first, last) => first ≤ char.toNat && char.toNat ≤ last

/-- The image of a character under a table of runs and of special mappings. -/
def caseImage (runs : List Run) (special : List (Nat × List Nat)) (char : Char) : List Char :=
  match special.lookup char.toNat with
  | some image => image.map Char.ofNat
  | none => [Char.ofNat ((runs.findSome? (·.image? char.toNat)).getD char.toNat)]

/-- The capital sigma, whose lower case depends on where it stands. -/
def capitalSigma : Char := 'Σ'

/-- Whether the characters beginning here, past those that case rules look through, start with a
cased one. -/
def meetsCased (chars : List Char) : Bool :=
  match chars.dropWhile (inRanges caseIgnorable) with
  | [] => false
  | char :: _ => inRanges cased char

/-- The lower-case form of one character, given the characters before it (nearest first) and
after it. -/
def lowerChar (earlier : List Char) (char : Char) (later : List Char) : List Char :=
  if char.toNat < 0x80 then [char.toLower]
  else if char = capitalSigma then
    if meetsCased earlier && !meetsCased later then ['ς'] else ['σ']
  else caseImage lowerRuns lowerSpecial char

def upperChar (char : Char) : List Char :=
  if char.toNat < 0x80 then [char.toUpper] else caseImage upperRuns upperSpecial char

/-- Lower-case characters, given those already passed, nearest first. -/
def lowerChars (earlier : List Char) : List Char → List Char
  | [] => []
  | char :: later => lowerChar earlier char later ++ lowerChars (char :: earlier) later

def lower (text : String) : String :=
  String.ofList (lowerChars [] text.toList)

def upper (text : String) : String :=
  String.ofList (text.toList.flatMap upperChar)

end HttpRouting.Text

/-! # Ordered fields

A record of named values that remembers the order in which names were first set. Setting a name
again changes its value and not its place. Names that are array indexes stand apart: they come
first, in numeric order, however late they are set. Every list of fields in the library is built
by `Fields.set`, so the order of iteration is that of `toList`.
-/

namespace HttpRouting

/-- Named values, in order. -/
abbrev Fields (α : Type) := List (String × α)

namespace Fields

/-- One more than the greatest array index. -/
def indexBound : Nat := Nat.pow 2 32 - 1

/-- The array index that a name spells: digits without a leading zero, below the bound. -/
def index? (name : String) : Option Nat :=
  let chars := name.toList
  let value := chars.foldl (fun total char => 10 * total + (char.toNat - '0'.toNat)) 0
  if chars ≠ [] ∧ chars.all Char.isDigit ∧ (chars.head? ≠ some '0' ∨ chars.length = 1) ∧
      value < indexBound then some value
  else none

/-- Whether a field named `name` stands before one named `other` although it was set later. -/
def overtakes (name other : String) : Bool :=
  match index? name, index? other with
  | some left, some right => left < right
  | some _, none => true
  | none, _ => false

variable {α β : Type}

def set (name : String) (value : α) : Fields α → Fields α
  | [] => [(name, value)]
  | (other, old) :: rest =>
    if other = name then (name, value) :: rest
    else if overtakes name other then (name, value) :: (other, old) :: rest
    else (other, old) :: set name value rest

/-- The fields made by setting each of `pairs` in turn. -/
def ofPairs (pairs : List (String × α)) : Fields α :=
  pairs.foldl (fun fields pair => fields.set pair.1 pair.2) []

def merge (fields later : Fields α) : Fields α :=
  later.foldl (fun fields pair => fields.set pair.1 pair.2) fields

def get? (name : String) (fields : Fields α) : Option α :=
  fields.lookup name

/-- The same names, in the same order, with every value changed by `change`. -/
def mapValues (change : α → β) (fields : Fields α) : Fields β :=
  List.map (fun pair => (pair.1, change pair.2)) fields

theorem get?_set_self (name : String) (value : α) (fields : Fields α) :
    (fields.set name value).get? name = some value := by
  induction fields with
  | nil => simp [set, get?]
  | cons head rest ih =>
    obtain ⟨other, old⟩ := head
    by_cases same : other = name
    · simp [set, get?, same]
    · by_cases overtaken : overtakes name other = true
      · simp [set, get?, same, overtaken]
      · have differs : (name == other) = false := by simpa using fun h => same h.symm
        simp only [set, same, overtaken, get?, List.lookup_cons, differs, Bool.false_eq_true, ↓reduceIte]
        exact ih

theorem get?_set_of_ne {name other : String} (differs : other ≠ name) (value : α)
    (fields : Fields α) : (fields.set name value).get? other = fields.get? other := by
  have differs' : (other == name) = false := by simpa using differs
  induction fields with
  | nil => simp [set, get?, List.lookup_cons, differs']
  | cons head rest ih =>
    obtain ⟨third, old⟩ := head
    by_cases same : third = name
    · subst same
      simp [set, get?, List.lookup_cons, differs']
    · by_cases overtaken : overtakes name third = true
      · simp [set, get?, List.lookup_cons, same, overtaken, differs']
      · simp only [set, same, overtaken, get?, List.lookup_cons, Bool.false_eq_true, ↓reduceIte]
        split
        · rfl
        · exact ih

end Fields

end HttpRouting

/-! # Entries in order of first use

Named values in the order in which their names were first put. Unlike `Fields`, no name is treated
apart from others.
-/

namespace HttpRouting

/-- Named values, in order of first use. -/
abbrev Entries (α : Type) := List (String × α)

namespace Entries

variable {α : Type}

/-- Give `name` the value `value`; a name already there keeps its place. -/
def put (name : String) (value : α) : Entries α → Entries α
  | [] => [(name, value)]
  | (other, old) :: rest =>
    if other = name then (name, value) :: rest else (other, old) :: put name value rest

/-- The entries made by putting each of `pairs` in turn. -/
def ofPairs (pairs : List (String × α)) : Entries α :=
  pairs.foldl (fun entries pair => entries.put pair.1 pair.2) []

def get? (name : String) (entries : Entries α) : Option α :=
  entries.lookup name

theorem get?_cons (name : String) (entry : String × α) (rest : Entries α) :
    get? name (entry :: rest) = if name = entry.1 then some entry.2 else rest.get? name := by
  rw [get?, List.lookup_cons]
  by_cases same : name = entry.1
  · simp [same]
  · simp [beq_false_of_ne same, same, get?]

/-- What is put under a name is found there, and nothing else changes. -/
theorem get?_put (name : String) (value : α) (entries : Entries α) (other : String) :
    (entries.put name value).get? other = if other = name then some value else entries.get? other := by
  induction entries with
  | nil => exact get?_cons other (name, value) []
  | cons entry rest ih =>
    by_cases here : entry.1 = name
    · subst here
      rw [put, if_pos rfl, get?_cons, get?_cons]
      by_cases same : other = entry.1 <;> simp [same]
    · rw [put, if_neg here, get?_cons, get?_cons, ih]
      by_cases same : other = entry.1
      · rw [if_pos same, if_pos same, if_neg (same ▸ here)]
      · rw [if_neg same, if_neg same]

def has (name : String) (entries : Entries α) : Bool :=
  (entries.get? name).isSome

end Entries

end HttpRouting

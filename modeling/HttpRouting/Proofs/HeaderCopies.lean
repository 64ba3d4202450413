import HttpRouting.Proofs.HeaderFields
import HttpRouting.Proofs.Lists
import Mathlib.Data.List.DropRight

/-! # Copies of header fields

A copy of a collection is made of what the collection lists, so it has one value under a name that has several, which
joins them; only cookies stay apart. What joins several values may end with a blank, if the last of them is empty, and
the copy drops that. So a copy has all that was there, but not always the text that is read under a name. A copy of a
copy is no different from it.
-/

namespace HttpRouting

open Text

/-- A text without blanks at its ends stays as it is. -/
theorem trim_trim (blank : Char → Bool) (text : String) : trim blank (trim blank text) = trim blank text := by
  have front (chars : List Char) (clean : chars.dropWhile blank = chars) :
      (chars.rdropWhile blank).dropWhile blank = chars.rdropWhile blank := by
    rw [List.dropWhile_eq_self_iff] at clean ⊢
    intro long
    have start : chars.rdropWhile blank <+: chars := List.rdropWhile_prefix blank chars
    have first := clean (Nat.lt_of_lt_of_le long start.length_le)
    simpa [start.getElem] using first
  have clean := front (text.toList.dropWhile blank) (List.dropWhile_idempotent blank text.toList)
  rw [List.rdropWhile] at clean
  rw [trim, trim, String.toList_ofList, clean, List.reverse_reverse, List.dropWhile_idempotent]

namespace Headers

variable {headers : Headers} {name value : String} {listed : List String}

theorem lowerName_lowerName (name : String) : lowerName (lowerName name) = lowerName name := by
  have small (char : Char) : char.toLower.toLower = char.toLower := by
    unfold Char.toLower
    split_ifs <;> grind
  rw [lowerName, lowerName, String.toList_ofList, List.map_map]
  congr 1
  exact List.map_congr_left fun char _ => small char

private theorem values_lowerName (headers : Headers) (name : String) :
    headers.values (lowerName name) = headers.values name := by
  rw [values, values, lowerName_lowerName]

private theorem get?_of_values {found : Option String} (given : headers.values name = found.toList) :
    headers.get? name = found := by
  cases found with
  | none => rw [get?, given]; rfl
  | some value => exact get?_of_singleton given

private theorem mem_names_iff (name : String) : lowerName name ∈ headers.names ↔ headers.values name ≠ [] := by
  rw [names, List.mem_mergeSort, List.mem_eraseDups, List.mem_map, values, Ne, List.map_eq_nil_iff,
    List.filter_eq_nil_iff]
  simp

/-- Under each name a listing has the values themselves if they are cookies, and else one value that joins them. -/
theorem values_listing (headers : Headers) (name : String) :
    (⟨headers.listing⟩ : Headers).values name =
      if lowerName name = setCookie then headers.values name else (headers.get? name).toList := by
  have unique : headers.names.Nodup := (List.mergeSort_perm _ _).nodup_iff.mpr (nodup_eraseDups _)
  rw [values, listing, filter_flatMap_key Prod.fst ?own unique]
  case own =>
    intro own field member
    split_ifs at member
    · obtain ⟨value, _, rfl⟩ := List.mem_map.mp member
      rfl
    · rw [List.mem_singleton.mp member]
  by_cases absent : headers.values name = []
  · have missing : lowerName name ∉ headers.names := (mem_names_iff name).not_left.mpr absent
    have nothing : headers.get? name = none := get?_of_values absent
    rw [if_neg missing, nothing, absent]
    split_ifs <;> rfl
  · have joined : headers.get? name = some (join (glue (lowerName name)) (headers.values name)) := by
      rw [get?]
      split
      · contradiction
      · rfl
    rw [if_pos ((mem_names_iff name).mpr absent), values_lowerName, joined]
    split_ifs
    · rw [List.map_map]
      exact List.map_id' _
    · rfl

/-- What a copy has of the values of a name: all of them if they are cookies, and else one value that joins them. -/
def copiedValues (name : String) (listed : List String) : List String :=
  if lowerName name = setCookie then listed.map normalValue
  else if listed = [] then []
  else [normalValue (join (glue (lowerName name)) listed)]

theorem copiedValues_values (headers : Headers) (name : String) :
    copiedValues name (headers.values name) =
      if lowerName name = setCookie then (headers.values name).map normalValue
      else ((headers.get? name).map normalValue).toList := by
  rw [copiedValues, get?]
  split_ifs with cookie absent
  · rfl
  · rw [absent]
    rfl
  · split
    · contradiction
    · rfl

theorem values_copied (headers : Headers) (name : String) :
    headers.copied.values name = copiedValues name (headers.values name) := by
  have mapped : headers.copied.values name = ((⟨headers.listing⟩ : Headers).values name).map normalValue := by
    rw [values, values, copied, List.filter_map, List.map_map, List.map_map]
    rfl
  rw [mapped, values_listing, copiedValues_values]
  split_ifs
  · rfl
  · exact Option.toList_map.symm

/-- A copy is listed as it is. -/
theorem values_listing_copied (headers : Headers) (name : String) :
    (⟨headers.copied.listing⟩ : Headers).values name = headers.copied.values name := by
  rw [values_listing]
  split_ifs with cookie
  · rfl
  · have alone := values_copied headers name
    rw [copiedValues_values, if_neg cookie] at alone
    rw [get?_of_values alone, alone]

@[simp] theorem copiedValues_nil (name : String) : copiedValues name [] = [] := by
  simp [copiedValues]

@[simp] theorem copiedValues_singleton (name value : String) : copiedValues name [value] = [normalValue value] := by
  rw [copiedValues]
  split_ifs with cookie absent
  · rfl
  · cases absent
  · simp [join]

theorem normalValue_normalValue (value : String) : normalValue (normalValue value) = normalValue value :=
  trim_trim isEndBlank value

theorem copiedValues_copiedValues (name : String) (listed : List String) :
    copiedValues name (copiedValues name listed) = copiedValues name listed := by
  by_cases cookie : lowerName name = setCookie
  · simp [copiedValues, cookie, normalValue_normalValue]
  · by_cases absent : listed = []
    · simp [absent]
    · have alone : copiedValues name listed = [normalValue (join (glue (lowerName name)) listed)] := by
        rw [copiedValues, if_neg cookie, if_neg absent]
      rw [alone, copiedValues_singleton, normalValue_normalValue]

end Headers

/-- An endpoint that answers with one field twice, the second time empty. -/
def Endpoint.repeating : Endpoint :=
  Endpoint.notFound.after fun response => return { response with headers := ⟨[("x-a", "a"), ("x-a", "")]⟩ }

theorem Endpoint.call_repeating (request : Request) (sites : Sites) (world : World) : ∃ own,
    repeating.call request sites world = (.ok own, world) ∧ own.status = 404 ∧ own.bodyUsed = false ∧
      own.headers = ⟨[("x-a", "a"), ("x-a", "")]⟩ :=
  ⟨_, rfl, rfl, rfl, rfl⟩

end HttpRouting

import HttpRouting.Http.Request
import HttpRouting.Proofs.Throwing

/-! # Changes of header fields

A change of a collection of header fields is accepted exactly when its name and its value are well formed, and
it touches the values of its own name alone. So do several changes in turn. A value that was read from well
formed fields can be written again, joined ones included.
-/

namespace HttpRouting

open Text

namespace Headers

variable {headers edited : Headers} {name value other : String}

theorem field?_eq_ok {field : String × String} :
    field? name value = .ok field ↔
      (isToken name = true ∧ isValue (normalValue value) = true) ∧ field = (lowerName name, normalValue value) := by
  rw [field?, ← Bool.and_eq_true]
  split_ifs with proper
  · simp [proper, eq_comm]
  · simp [proper]

theorem append_eq_ok : headers.append name value = .ok edited ↔
    (isToken name = true ∧ isValue (normalValue value) = true) ∧
      edited = ⟨headers.fields ++ [(lowerName name, normalValue value)]⟩ := by
  rw [append, bind_eq_ok]
  simp only [field?_eq_ok, pure_eq_ok]
  constructor
  · rintro ⟨_, ⟨proper, rfl⟩, rfl⟩
    exact ⟨proper, rfl⟩
  · rintro ⟨proper, rfl⟩
    exact ⟨_, ⟨proper, rfl⟩, rfl⟩

theorem set_eq_ok : headers.set name value = .ok edited ↔
    (isToken name = true ∧ isValue (normalValue value) = true) ∧
      edited = ⟨(headers.without (lowerName name)).fields ++ [(lowerName name, normalValue value)]⟩ := by
  rw [set, bind_eq_ok]
  simp only [field?_eq_ok, pure_eq_ok]
  constructor
  · rintro ⟨_, ⟨proper, rfl⟩, rfl⟩
    exact ⟨proper, rfl⟩
  · rintro ⟨proper, rfl⟩
    exact ⟨_, ⟨proper, rfl⟩, rfl⟩

theorem delete_eq_ok : headers.delete name = .ok edited ↔
    isToken name = true ∧ edited = headers.without (lowerName name) := by
  rw [delete]
  split_ifs with proper
  · simp [proper, eq_comm]
  · simp [proper]

theorem values_concat (headers : Headers) (field : String × String) (other : String) :
    (⟨headers.fields ++ [field]⟩ : Headers).values other =
      headers.values other ++ if field.1 = lowerName other then [field.2] else [] := by
  rw [values, values, List.filter_append, List.map_append]
  by_cases same : field.1 = lowerName other <;> simp [same]

/-- Dropping the fields of a name leaves the values of all others. -/
theorem values_without (headers : Headers) (name other : String) :
    (headers.without name).values other = if name = lowerName other then [] else headers.values other := by
  rw [without, values, values, List.filter_filter]
  split_ifs with same
  · subst same
    simp
  · congr 1
    refine List.filter_congr fun field _ => ?_
    by_cases here : field.1 = lowerName other
    · simp [here, Ne.symm same]
    · simp [here]

/-- One more value comes after those that a name has, and no other name is touched. -/
theorem values_append (added : headers.append name value = .ok edited) (other : String) :
    edited.values other =
      headers.values other ++ if lowerName name = lowerName other then [normalValue value] else [] := by
  obtain ⟨_, rfl⟩ := append_eq_ok.mp added
  exact values_concat headers _ other

/-- A value takes the place of all that its name has, and no other name is touched. -/
theorem values_set (put : headers.set name value = .ok edited) (other : String) :
    edited.values other =
      if lowerName name = lowerName other then [normalValue value] else headers.values other := by
  obtain ⟨_, rfl⟩ := set_eq_ok.mp put
  rw [values_concat, values_without]
  split_ifs <;> simp

theorem get?_of_singleton (alone : headers.values name = [value]) : headers.get? name = some value := by
  rw [get?, alone]
  simp [join]

theorem has_iff : headers.has name = true ↔ headers.values name ≠ [] := by
  simp [has]

end Headers

namespace HeaderEdit

def name : HeaderEdit → String
  | .set name _ | .append name _ | .delete name => name

/-- Whether the name and the value of a change are well formed. -/
def isProper : HeaderEdit → Bool
  | .set name value | .append name value =>
    Headers.isToken name && Headers.isValue (Headers.normalValue value)
  | .delete name => Headers.isToken name

variable {headers edited : Headers} {edit : HeaderEdit}

private theorem exists_apply_iff : (∃ edited, edit.apply headers = .ok edited) ↔ edit.isProper = true := by
  cases edit <;> simp [apply, isProper, Headers.set_eq_ok, Headers.append_eq_ok, Headers.delete_eq_ok]

private theorem values_apply (applied : edit.apply headers = .ok edited) {other : String}
    (differs : Headers.lowerName edit.name ≠ Headers.lowerName other) :
    edited.values other = headers.values other := by
  cases edit with
  | set name value =>
    have apart : Headers.lowerName name ≠ Headers.lowerName other := differs
    rw [Headers.values_set applied, if_neg apart]
  | append name value =>
    have apart : Headers.lowerName name ≠ Headers.lowerName other := differs
    rw [Headers.values_append applied, if_neg apart, List.append_nil]
  | delete name =>
    have apart : Headers.lowerName name ≠ Headers.lowerName other := differs
    obtain ⟨_, rfl⟩ := Headers.delete_eq_ok.mp applied
    rw [Headers.values_without, if_neg apart]

end HeaderEdit

namespace Headers

variable {headers edited : Headers} {edits : List HeaderEdit} {other : String}

theorem edit_cons (headers : Headers) (edit : HeaderEdit) (edits : List HeaderEdit) :
    headers.edit (edit :: edits) = edit.apply headers >>= (·.edit edits) :=
  List.foldlM_cons ..

theorem edit_append (headers : Headers) (edits later : List HeaderEdit) :
    headers.edit (edits ++ later) = headers.edit edits >>= (·.edit later) :=
  List.foldlM_append

/-- Changes that are well formed are all made. -/
theorem exists_edit (proper : ∀ edit ∈ edits, edit.isProper = true) (headers : Headers) :
    ∃ edited, headers.edit edits = .ok edited := by
  induction edits generalizing headers with
  | nil => exact ⟨headers, rfl⟩
  | cons edit edits ih =>
    obtain ⟨here, later⟩ := List.forall_mem_cons.mp proper
    obtain ⟨middle, applied⟩ := HeaderEdit.exists_apply_iff.mpr here
    obtain ⟨edited, ran⟩ := ih later middle
    exact ⟨edited, by rw [edit_cons, bind_eq_ok]; exact ⟨middle, applied, ran⟩⟩

/-- Changes leave the values of every name that none of them is about. -/
theorem values_edit (ran : headers.edit edits = .ok edited)
    (apart : ∀ edit ∈ edits, lowerName edit.name ≠ lowerName other) :
    edited.values other = headers.values other := by
  have keep (current : Headers) (edit : HeaderEdit) (member : edit ∈ edits) (next : Headers)
      (kept : current.values other = headers.values other) (applied : edit.apply current = .ok next) :
      next.values other = headers.values other := by
    rw [HeaderEdit.values_apply applied (apart edit member), kept]
  exact foldlM_ok_induction_mem keep rfl ran

end Headers

section

variable {text : String}

def Headers.IsValueChar (char : Char) : Prop :=
  char.toNat ≤ 0xFF ∧ char ≠ '\x00' ∧ char ≠ '\r' ∧ char ≠ '\n'

instance (char : Char) : Decidable (Headers.IsValueChar char) :=
  inferInstanceAs (Decidable (_ ∧ _))

theorem Headers.isValue_iff : isValue text = true ↔ ∀ char ∈ text.toList, IsValueChar char := by
  simp only [isValue, fitsOctets, Bool.and_eq_true, List.all_eq_true, decide_eq_true_eq, IsValueChar]
  constructor
  · rintro ⟨octets, marks⟩ char member
    obtain ⟨⟨nul, carriage⟩, line⟩ := marks char member
    exact ⟨octets char member, nul, carriage, line⟩
  · intro proper
    refine ⟨fun char member => (proper char member).1, fun char member => ?_⟩
    obtain ⟨_, nul, carriage, line⟩ := proper char member
    exact ⟨⟨nul, carriage⟩, line⟩

private theorem mem_of_mem_trim {blank : Char → Bool} {char : Char} (member : char ∈ (trim blank text).toList) :
    char ∈ text.toList := by
  rw [trim, String.toList_ofList, List.mem_reverse] at member
  exact (List.dropWhile_suffix _).mem (List.mem_reverse.mp ((List.dropWhile_suffix _).mem member))

private theorem mem_join {glue : String} {texts : List String} {char : Char}
    (member : char ∈ (join glue texts).toList) : char ∈ glue.toList ∨ ∃ text ∈ texts, char ∈ text.toList := by
  induction texts with
  | nil => simp [join] at member
  | cons text texts ih =>
    by_cases alone : texts = []
    · subst alone
      exact .inr ⟨text, by simp, by simpa [join] using member⟩
    · rw [join, String.intercalate_cons_of_ne_nil alone, String.toList_append, String.toList_append,
        List.mem_append, List.mem_append] at member
      rcases member with (here | between) | later
      · exact .inr ⟨text, by simp, here⟩
      · exact .inl between
      · exact (ih later).imp_right fun ⟨other, otherMem, inside⟩ => ⟨other, List.mem_cons_of_mem _ otherMem, inside⟩

namespace Headers

variable {headers edited : Headers} {name value : String}

theorem isValue_normalValue (proper : isValue value = true) : isValue (normalValue value) = true :=
  isValue_iff.mpr fun char member => isValue_iff.mp proper char (mem_of_mem_trim member)

/-- Whether every value in a collection may stand in a field. -/
def Writable (headers : Headers) : Prop :=
  ∀ field ∈ headers.fields, isValue field.2 = true

theorem Writable.append (writable : headers.Writable) (added : headers.append name value = .ok edited) :
    edited.Writable := by
  obtain ⟨⟨_, proper⟩, rfl⟩ := append_eq_ok.mp added
  intro field member
  rcases List.mem_append.mp member with old | new
  · exact writable field old
  · rw [List.mem_singleton.mp new]
    exact proper

private theorem writable_ofPairs {pairs : List (String × String)} (made : ofPairs pairs = .ok headers) :
    headers.Writable :=
  foldlM_ok_induction (fun _ _ _ writable added => writable.append added)
    (fun _ member => absurd member List.not_mem_nil) made

/-- What is read from a collection, joined or not, may be written again. -/
theorem Writable.get? (writable : headers.Writable) (read : headers.get? name = some value) :
    isValue value = true := by
  rw [Headers.get?] at read
  split at read
  · cases read
  · cases read
    refine isValue_iff.mpr fun char member => ?_
    rcases mem_join member with between | ⟨text, textMem, inside⟩
    · have glues (name : String) : ∀ char ∈ (glue name).toList, IsValueChar char := by
        rw [glue]
        split_ifs <;> simp [IsValueChar]
      exact glues _ char between
    · obtain ⟨field, fieldMem, rfl⟩ := List.mem_map.mp textMem
      exact isValue_iff.mp (writable field (List.mem_of_mem_filter fieldMem)) char inside

end Headers

namespace Number

open Headers (IsValueChar isValue isValue_iff)

private theorem isValueChar_of_mem_toDigits {value : Nat} {char : Char} (member : char ∈ Nat.toDigits 10 value) :
    IsValueChar char := by
  have digit : char.isDigit = true := Nat.isDigit_of_mem_toDigits (by decide) (by decide) member
  rw [Char.isDigit, Bool.and_eq_true, decide_eq_true_eq, decide_eq_true_eq] at digit
  obtain ⟨least, most⟩ := digit
  have lower : 0x30 ≤ char.toNat := least
  have upper : char.toNat ≤ 0x39 := most
  refine ⟨by omega, ?_, ?_, ?_⟩ <;> rintro rfl <;> exact absurd lower (by decide)

/-- A positive decimal is written with digits, a point and an exponent. -/
theorem forall_mem_write (format : Format) (decimal : Decimal) :
    ∀ char ∈ format.write decimal, IsValueChar char := by
  have digits (value : Nat) : ∀ char ∈ Nat.toDigits 10 value, IsValueChar char :=
    fun _ => isValueChar_of_mem_toDigits
  have first (value count : Nat) : ∀ char ∈ (Nat.toDigits 10 value).take count, IsValueChar char :=
    fun char member => digits value char (List.mem_of_mem_take member)
  have rest (value count : Nat) : ∀ char ∈ '.' :: (Nat.toDigits 10 value).drop count, IsValueChar char :=
    List.forall_mem_cons.mpr
      ⟨by decide, fun char member => digits value char (List.mem_of_mem_drop member)⟩
  have zeros (count : Nat) : ∀ char ∈ List.replicate count '0', IsValueChar char := by
    intro char member
    rw [List.eq_of_mem_replicate member]
    decide
  rw [Format.write]
  dsimp only
  split
  · exact List.forall_mem_append.mpr ⟨digits _, zeros _⟩
  · split
    · exact List.forall_mem_append.mpr ⟨first _ _, rest _ _⟩
    · split
      · refine List.forall_mem_append.mpr ⟨?_, digits _⟩
        exact List.forall_mem_cons.mpr ⟨by decide, List.forall_mem_cons.mpr ⟨by decide, zeros _⟩⟩
      · refine List.forall_mem_append.mpr ⟨List.forall_mem_append.mpr ⟨first _ _, ?_⟩, ?_⟩
        · split_ifs
          · exact rest _ _
          · exact List.forall_mem_nil _
        · refine List.forall_mem_cons.mpr ⟨by decide, List.forall_mem_cons.mpr ⟨?_, digits _⟩⟩
          split_ifs <;> decide

/-- A number as text may stand in a field. -/
theorem isValue_render (number : Number) : isValue number.render = true := by
  cases number with
  | infinite negative => cases negative <;> decide
  | finite negative multiple exponent =>
    have written := forall_mem_write plainFormat (shortest multiple exponent)
    rw [render, isValue_iff, String.toList_ofList, renderChars]
    split_ifs
    · exact List.forall_mem_singleton.mpr (by decide)
    · exact List.forall_mem_cons.mpr ⟨by decide, written⟩
    · exact written

end Number

/-- What a message is made of: the method that the platform makes of the given one, and the given headers, perhaps
with a media type for the body. -/
theorem Message.of_make {address : Option Address} {options : MessageOptions} {message : Message}
    (made : Message.make address options = .ok message) :
    messageMethod (options.method.getD "GET") = .ok message.method ∧
      ∃ headers, Headers.ofPairs options.headers = .ok headers ∧
        (message.headers = headers ∨
          headers.append "content-type" Response.plainTextType = .ok message.headers) := by
  cases address with
  | none => cases made
  | some address =>
    rw [Message.make] at made
    split_ifs at made
    · cases made
    · obtain ⟨method, read, made⟩ := bind_eq_ok.mp made
      obtain ⟨headers, given, made⟩ := bind_eq_ok.mp made
      split at made
      · cases pure_eq_ok.mp made
        exact ⟨read, headers, given, .inl rfl⟩
      · split_ifs at made <;> obtain ⟨_, first, made⟩ := bind_eq_ok.mp made
        · exact (throw_ne_ok first).elim
        · cases pure_eq_ok.mp made
          exact ⟨read, headers, given, .inl (pure_eq_ok.mp first).symm⟩
        · exact (throw_ne_ok first).elim
        · cases pure_eq_ok.mp made
          exact ⟨read, headers, given, .inr first⟩

/-- The headers of a message can be written again. -/
theorem Message.writable_of_make {address : Option Address} {options : MessageOptions} {message : Message}
    (made : Message.make address options = .ok message) : message.headers.Writable := by
  obtain ⟨_, headers, given, same | added⟩ := of_make made
  · rw [same]
    exact Headers.writable_ofPairs given
  · exact (Headers.writable_ofPairs given).append added

end

end HttpRouting

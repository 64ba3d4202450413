import HttpRouting.Text.Percent
import Mathlib.Data.List.Basic
import Mathlib.Tactic.IntervalCases

/-! # Escapes are read back

A text with some characters escaped is read back as it was, as long as `%` itself is escaped. The reader
works on octets, so the argument is on octets too: an escaped octet is read as that octet, an unescaped
character as the octets of its UTF-8 form, and the octets of all characters are the UTF-8 form of the text.
-/

namespace HttpRouting.Text

private theorem hexValue?_hexDigit {value : Nat} (small : value < 16) :
    hexValue? (hexDigit value) = some value := by
  interval_cases value <;> decide

/-- An escaped octet is read as that octet. -/
theorem unescapeOctets?_escapeOctet (octet : UInt8) (rest : List Char) :
    unescapeOctets? (escapeOctet octet ++ rest) = (unescapeOctets? rest).map (octet :: ·) := by
  have small : octet.toNat < 256 := octet.toNat_lt
  have high : hexValue? (hexDigit (octet.toNat / 16)) = some (octet.toNat / 16) :=
    hexValue?_hexDigit (by omega)
  have low : hexValue? (hexDigit (octet.toNat % 16)) = some (octet.toNat % 16) :=
    hexValue?_hexDigit (by omega)
  have whole : (16 * (octet.toNat / 16) + octet.toNat % 16).toUInt8 = octet := by
    rw [Nat.div_add_mod]
    exact UInt8.ofNat_toNat
  change (do
    let high ← hexValue? (hexDigit (octet.toNat / 16))
    let low ← hexValue? (hexDigit (octet.toNat % 16))
    return (16 * high + low).toUInt8 :: (← unescapeOctets? rest)) = _
  rw [high, low, Option.map_eq_bind]
  simp only [Option.bind_eq_bind, Option.bind_some, whole]
  rfl

private theorem unescapeOctets?_escapeOctets (octets : List UInt8) (rest : List Char) :
    unescapeOctets? (octets.flatMap escapeOctet ++ rest) = (unescapeOctets? rest).map (octets ++ ·) := by
  induction octets with
  | nil => simp
  | cons octet octets ih =>
    rw [List.flatMap_cons, List.append_assoc, unescapeOctets?_escapeOctet, ih, Option.map_map]
    rfl

/-- A character that begins no escape is read as the octets of its UTF-8 form. -/
theorem unescapeOctets?_cons {char : Char} (plain : char ≠ '%') (rest : List Char) :
    unescapeOctets? (char :: rest) = (unescapeOctets? rest).map (String.utf8EncodeChar char ++ ·) := by
  rw [unescapeOctets?.eq_def]
  split
  · contradiction
  · rename_i same
    exact (plain (List.cons.inj same).1).elim
  · rename_i same
    obtain ⟨rfl, rfl⟩ := List.cons.inj same
    rw [if_neg plain, Option.map_eq_bind]
    rfl

/-- Escaped characters are read as the octets of all of them. -/
theorem unescapeOctets?_escapeChars {plain : Char → Bool} (escaped : plain '%' = false)
    (chars : List Char) : unescapeOctets? (escapeChars plain chars) = some (octets chars) := by
  induction chars with
  | nil => rfl
  | cons char chars ih =>
    rw [escapeChars, List.flatMap_cons, ← escapeChars, octets, List.flatMap_cons, ← octets]
    split_ifs with kept
    · have differs : char ≠ '%' := by
        rintro rfl
        rw [escaped] at kept
        cases kept
      rw [List.singleton_append, unescapeOctets?_cons differs, ih, Option.map_some]
    · rw [unescapeOctets?_escapeOctets, ih, Option.map_some]

/-- The octets of characters are the UTF-8 form of their text. -/
theorem fromUTF8?_octets (chars : List Char) :
    String.fromUTF8? ⟨(octets chars).toArray⟩ = some (String.ofList chars) := by
  have form : (⟨(octets chars).toArray⟩ : ByteArray) = chars.utf8Encode :=
    ByteArray.ext List.data_toByteArray.symm
  rw [form, String.fromUTF8?, dif_pos ByteArray.isValidUTF8_utf8Encode]
  rfl

theorem unescape?_escape {plain : Char → Bool} (escaped : plain '%' = false) (text : String) :
    unescape? (escape plain text) = some text := by
  rw [unescape?, escape, String.toList_ofList, unescapeOctets?_escapeChars escaped]
  change String.fromUTF8? ⟨(octets text.toList).toArray⟩ = some text
  rw [fromUTF8?_octets, String.ofList_toList]

/-- Escaped characters are plain ones, `%` and hexadecimal digits. -/
theorem mem_escapeChars {plain : Char → Bool} {chars : List Char} {char : Char}
    (member : char ∈ escapeChars plain chars) :
    plain char ∨ char = '%' ∨ ∃ value < 16, char = hexDigit value := by
  obtain ⟨origin, _, member⟩ := List.mem_flatMap.mp member
  split_ifs at member with kept
  · rw [List.mem_singleton.mp member]
    exact .inl kept
  · obtain ⟨octet, _, member⟩ := List.mem_flatMap.mp member
    have small : octet.toNat < 256 := octet.toNat_lt
    simp only [escapeOctet, List.mem_cons, List.not_mem_nil, or_false] at member
    rcases member with rfl | rfl | rfl
    · exact .inr (.inl rfl)
    · exact .inr (.inr ⟨_, by omega, rfl⟩)
    · exact .inr (.inr ⟨_, by omega, rfl⟩)

/-- An escaped text holds neither a slash nor a question mark. -/
theorem not_mem_escapeSegment {stop : Char} (mark : stop = '/' ∨ stop = '?') (text : String) :
    stop ∉ (escapeSegment text).toList := by
  intro member
  rw [escapeSegment, escape, String.toList_ofList] at member
  have digits : ∀ value < 16, hexDigit value ≠ '/' ∧ hexDigit value ≠ '?' := by decide
  rcases mem_escapeChars member with plain | percent | ⟨value, small, digit⟩
  · rcases mark with rfl | rfl <;> revert plain <;> decide
  · rcases mark with rfl | rfl <;> revert percent <;> decide
  · rcases mark with rfl | rfl
    · exact (digits value small).1 digit.symm
    · exact (digits value small).2 digit.symm

theorem escapeSegment_eq_empty {text : String} : escapeSegment text = "" ↔ text = "" := by
  constructor
  · intro nothing
    have read : unescape? (escapeSegment text) = some text := unescape?_escape (by decide) text
    rw [nothing] at read
    exact (Option.some.inj read).symm
  · rintro rfl
    rfl

/-- Whatever is read from some text is some text. -/
theorem ne_empty_of_unescape? {text found : String} (some : text ≠ "")
    (read : unescape? text = .some found) : found ≠ "" := by
  obtain ⟨octets, first, rest⟩ := Option.bind_eq_some_iff.mp read
  have filled : octets ≠ [] := by
    rw [unescapeOctets?.eq_def] at first
    split at first
    · rename_i nothing
      exact (some (by simpa using nothing)).elim
    · obtain ⟨high, _, first⟩ := Option.bind_eq_some_iff.mp first
      obtain ⟨low, _, first⟩ := Option.bind_eq_some_iff.mp first
      obtain ⟨later, _, first⟩ := Option.bind_eq_some_iff.mp first
      cases first
      exact List.cons_ne_nil _ _
    · split_ifs at first
      obtain ⟨later, _, first⟩ := Option.bind_eq_some_iff.mp first
      cases first
      exact List.append_ne_nil_of_left_ne_nil String.utf8EncodeChar_ne_nil _
  rintro rfl
  rw [String.fromUTF8?] at rest
  split_ifs at rest
  exact filled (congrArg (fun found => found.toByteArray.data.toList) (Option.some.inj rest))

end HttpRouting.Text

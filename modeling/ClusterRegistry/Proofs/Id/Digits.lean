import ClusterRegistry.Id

/-!
# The digits of an id

An id that was assigned is found again in its digits, which is how one resource names another. What
counts as a digit can be told by the bytes of a text as well as by its characters
(`Id.isNumeral_iff_allDigits`), since a character that takes several bytes starts with a larger one.
-/

namespace ClusterRegistry.Id

theorem toList_digits (i : Id) : i.digits.toList = Nat.toDigits 10 i.value.toNat := by
  rw [digits, Nat.toString_eq_ofList_toDigits, String.toList_ofList]

theorem isNumeral_digits (i : Id) : isNumeral i.digits = true := by
  rw [isNumeral, toList_digits, Bool.and_eq_true, Bool.not_eq_true', List.isEmpty_eq_false_iff,
    List.all_eq_true]
  exact ⟨Nat.toDigits_ne_nil, fun c hc => Nat.isDigit_of_mem_toDigits (by decide) (by decide) hc⟩

theorem valueOf_digits (i : Id) : valueOf i.digits = i.value.toNat := by
  rw [valueOf, toList_digits, Nat.ofDigitChars_ten_toDigits]

/-- Whether a text spells an id: it consists of digits whose value is the id, with any number of
zeros before them. -/
structure SpelledBy (i : Id) (raw : String) : Prop where
  numeral : isNumeral raw = true
  value : valueOf raw = i.value.toNat

theorem spelledBy_digits (i : Id) : i.SpelledBy i.digits :=
  ⟨isNumeral_digits i, valueOf_digits i⟩

/-- However an assigned id is spelled, it is read as this id. -/
theorem parse_of_spelledBy {i : Id} {raw : String} (hraw : i.SpelledBy raw)
    (h : i.isAssigned = true) : parse raw = .assigned i := by
  have hne : i.value ≠ 0 := by simpa [isAssigned] using h
  have hpos : 0 < i.value.toNat := by
    rw [Nat.pos_iff_ne_zero]
    intro hzero
    exact hne (UInt64.toNat_inj.mp hzero)
  rw [parse, if_pos hraw.numeral, hraw.value, if_pos ⟨hpos, i.value.toNat_lt_size⟩,
    UInt64.ofNat_toNat]

/-- The digits of an assigned id are read as this id. -/
theorem parse_digits {i : Id} (h : i.isAssigned = true) : parse i.digits = .assigned i :=
  parse_of_spelledBy (spelledBy_digits i) h

/-- A text names an id exactly if it is read as one. -/
theorem parse?_eq_some_iff {raw : String} {i : Id} :
    parse? raw = some i ↔ parse raw = .assigned i := by
  rw [parse?]
  cases parse raw <;> simp

/-- A numeral is not blank. -/
theorem ne_empty_of_isNumeral {raw : String} (h : isNumeral raw = true) : raw ≠ "" := by
  rintro rfl
  cases h

/-! ## Bytes -/

/-- Whether a byte is the code of an ASCII digit. -/
def IsDigitByte (b : UInt8) : Prop := 48 ≤ b.toNat ∧ b.toNat ≤ 57

/-- Whether a text is not empty and all its bytes are the codes of ASCII digits. -/
def AllDigits (raw : String) : Prop := raw ≠ "" ∧ ∀ b ∈ raw.toUTF8.data, IsDigitByte b

theorem mem_toUTF8_iff {raw : String} {b : UInt8} :
    b ∈ raw.toUTF8.data ↔ ∃ c ∈ raw.toList, b ∈ String.utf8EncodeChar c := by
  have hbytes : raw.toUTF8 = raw.toList.utf8Encode := by
    rw [← String.toByteArray_ofList, String.ofList_toList]
    rfl
  rw [hbytes, List.utf8Encode, ← Array.mem_toList_iff, List.toList_data_toByteArray,
    List.mem_flatMap]

/-- The bytes of a character are the codes of digits exactly if it is a digit itself. -/
theorem forall_mem_utf8EncodeChar_iff (c : Char) :
    (∀ b ∈ String.utf8EncodeChar c, IsDigitByte b) ↔ c.isDigit = true := by
  have hdigit : c.isDigit = true ↔ 48 ≤ c.val.toNat ∧ c.val.toNat ≤ 57 := by
    simp only [Char.isDigit, Bool.and_eq_true, decide_eq_true_eq, ge_iff_le,
      UInt32.le_iff_toNat_le]
    rfl
  rw [hdigit]
  by_cases hascii : c.val.toNat ≤ 127
  · simp only [String.utf8EncodeChar, if_pos hascii, List.forall_mem_singleton, IsDigitByte,
      UInt8.toNat_ofNat']
    omega
  · -- the first of several bytes is larger than any code in ASCII
    have hlead : ∃ b ∈ String.utf8EncodeChar c, 192 ≤ b.toNat := by
      simp only [String.utf8EncodeChar, if_neg hascii]
      split
      · exact ⟨_, List.mem_cons_self, by rw [UInt8.toNat_ofNat']; omega⟩
      · split <;> exact ⟨_, List.mem_cons_self, by rw [UInt8.toNat_ofNat']; omega⟩
    obtain ⟨b, hb, hlarge⟩ := hlead
    refine ⟨fun h => ?_, fun h => by omega⟩
    have hsmall : b.toNat ≤ 57 := (h b hb).2
    omega

/-- A text is a numeral exactly if all its bytes are digits. -/
theorem isNumeral_iff_allDigits {raw : String} : isNumeral raw = true ↔ AllDigits raw := by
  rw [isNumeral, AllDigits, Bool.and_eq_true, Bool.not_eq_true', List.isEmpty_eq_false_iff, ne_eq,
    String.toList_eq_nil_iff, List.all_eq_true]
  refine and_congr_right fun _ => ⟨fun h b hb => ?_, fun h c hc => ?_⟩
  · obtain ⟨c, hc, hbc⟩ := mem_toUTF8_iff.mp hb
    exact (forall_mem_utf8EncodeChar_iff c).mpr (h c hc) b hbc
  · exact (forall_mem_utf8EncodeChar_iff c).mp fun b hb => h b (mem_toUTF8_iff.mpr ⟨c, hc, hb⟩)

end ClusterRegistry.Id

import Mathlib.Algebra.Order.Field.Basic
import Mathlib.Algebra.Order.Ring.Rat
import ClusterRegistry.Scaling.Quantity
import ClusterRegistry.Proofs.Decimal.Hundredths
import ClusterRegistry.Proofs.Text.Trimmed

/-!
# Amounts

A text such as `2.5 GiB` says an exact decimal, of which a quantity holds the nearest double
(`Amount.parse_rounded`). The exact decimal is an `Amount`, and it is what a reader of the text
sees. A printed quantity reads back as an amount in hundredths of the same unit
(`Quantity.parse_print`), which is the larger, the larger the quantity is, since the hundredths of
a double are (`Decimal.hundredthsOf_mono`).
-/

namespace ClusterRegistry

open Decimal

/-- A decimal with a unit, as a text says it. -/
structure Amount where
  /-- The digits without the point. -/
  digits : Nat
  /-- How many digits stand after the point. -/
  places : Nat
  unit : String
deriving DecidableEq, Repr

namespace Amount

/-- The number that the digits say. -/
def value (a : Amount) : ℚ := a.digits / tenPow a.places

/-- The quantity with the nearest double. -/
def rounded (a : Amount) : Quantity := ⟨.ofScientific a.digits true a.places, a.unit⟩

/-- Digits with at most one point among them: the number without the point, and how many digits
stand after it. -/
def decimal? (cs : List Char) : Option (Nat × Nat) :=
  let (whole, fraction) := (Text.splitFirst '.' cs).getD (cs, [])
  if fraction.contains '.' || (whole.isEmpty && fraction.isEmpty) then none
  else some (Nat.ofDigitChars 10 (whole ++ fraction) 0, fraction.length)

/-- The amount that a text says, blanks around number and unit aside. -/
def parse (raw : String) : Option Amount :=
  let cs := Text.trimChars raw.toList
  (decimal? (cs.takeWhile Quantity.isNumberChar)).map fun d =>
    ⟨d.1, d.2, String.ofList (Text.trimChars (cs.dropWhile Quantity.isNumberChar))⟩

theorem number?_eq (cs : List Char) :
    Quantity.number? cs = (decimal? cs).map fun d => .ofScientific d.1 true d.2 := by
  unfold Quantity.number? decimal?
  dsimp only
  split <;> rfl

/-- **A text is read as the quantity nearest to the amount that it says.** -/
theorem parse_rounded (raw : String) : Quantity.parse raw = (parse raw).map rounded := by
  unfold Quantity.parse parse
  dsimp only
  rw [number?_eq, Option.map_map, Option.map_map]
  rfl

theorem value_le_iff {a b : Amount} :
    a.value ≤ b.value ↔ a.digits * tenPow b.places ≤ b.digits * tenPow a.places := by
  have ha : (0 : ℚ) < tenPow a.places := by exact_mod_cast tenPow_pos a.places
  have hb : (0 : ℚ) < tenPow b.places := by exact_mod_cast tenPow_pos b.places
  rw [value, value, div_le_div_iff₀ ha hb]
  exact_mod_cast Iff.rfl

theorem value_whole (n : Nat) (unit : String) : value ⟨n, 0, unit⟩ = n := by
  rw [value, show tenPow 0 = 1 from rfl, Nat.cast_one, div_one]

theorem value_hundredths (n : Nat) (unit : String) : value ⟨n, 2, unit⟩ = n / 100 := by
  rw [value, show tenPow 2 = 100 from rfl, Nat.cast_ofNat]

/-! ## Texts of numbers -/

theorem isBlank_of_isNumberChar {c : Char} (h : Quantity.isNumberChar c = true) :
    Text.isBlank c = false := by
  rw [Quantity.isNumberChar, Bool.or_eq_true, beq_iff_eq] at h
  rcases h with h | rfl
  · simp only [Char.isDigit, Bool.and_eq_true, decide_eq_true_eq, ge_iff_le,
      UInt32.le_iff_toNat_le] at h
    have hlow : 48 ≤ c.toNat := h.1
    have hhigh : c.toNat ≤ 57 := h.2
    simp [Text.isBlank]
    omega
  · rfl

variable {raw : String} {ds rest core : List Char} {n k : Nat}

/-- A text that starts with digits, after which none follow, is read as these digits and as what
stands between the blanks after them. -/
theorem parse_of_append (hraw : raw.toList = ds ++ rest)
    (hds : ∀ c ∈ ds, Quantity.isNumberChar c = true) (hdecimal : decimal? ds = some (n, k))
    (hstop : ∀ c ∈ rest.head?, Quantity.isNumberChar c = false)
    (hlast : ∀ c ∈ rest.getLast?, Text.isBlank c = false) (htrims : Text.Trims rest core) :
    parse raw = some ⟨n, k, String.ofList core⟩ := by
  have hne : ds ≠ [] := by
    rintro rfl
    cases hdecimal
  have htrim : Text.trimChars (ds ++ rest) = ds ++ rest := by
    refine Text.trimChars_eq_iff.mpr ⟨⟨[], [], by simp, by simp, by simp⟩, ?_, ?_⟩
    · intro c hc
      rw [List.head?_append_of_ne_nil _ hne] at hc
      exact isBlank_of_isNumberChar (hds c (List.mem_of_head? hc))
    · intro c hc
      cases rest with
      | nil =>
        rw [List.append_nil] at hc
        exact isBlank_of_isNumberChar (hds c (List.mem_of_getLast? hc))
      | cons d rest =>
        rw [List.getLast?_append_of_ne_nil _ (List.cons_ne_nil d rest)] at hc
        exact hlast c hc
  have htake : (ds ++ rest).takeWhile Quantity.isNumberChar = ds := by
    rw [List.takeWhile_append_of_pos hds]
    cases rest with
    | nil => exact List.append_nil ds
    | cons d rest =>
      rw [List.takeWhile_cons_of_neg (by rw [hstop d rfl]; exact Bool.false_ne_true),
        List.append_nil]
  have hdrop : (ds ++ rest).dropWhile Quantity.isNumberChar = rest := by
    rw [List.dropWhile_append_of_pos hds]
    cases rest with
    | nil => rfl
    | cons d rest =>
      rw [List.dropWhile_cons_of_neg (by rw [hstop d rfl]; exact Bool.false_ne_true)]
  unfold parse
  dsimp only
  rw [hraw, htrim, htake, hdrop, hdecimal, Text.trimChars_eq_iff.mpr htrims]
  rfl

/-- What does not start with a number is not read. -/
theorem parse_eq_none {c : Char} (hfirst : raw.toList.head? = some c)
    (hblank : Text.isBlank c = false) (hc : Quantity.isNumberChar c = false) :
    parse raw = none := by
  obtain ⟨before, after, hcs, hbefore, -⟩ := (Text.trims_trimChars raw.toList).around
  have htake : (Text.trimChars raw.toList).takeWhile Quantity.isNumberChar = [] := by
    cases hcore : Text.trimChars raw.toList with
    | nil => rfl
    | cons d rest =>
      rw [hcs, hcore] at hfirst
      cases before with
      | nil =>
        obtain rfl : d = c := by simpa using hfirst
        rw [List.takeWhile_cons_of_neg (by rw [hc]; exact Bool.false_ne_true)]
      | cons b before =>
        obtain rfl : b = c := by simpa using hfirst
        rw [hbefore b List.mem_cons_self] at hblank
        cases hblank
  unfold parse
  dsimp only
  rw [htake]
  rfl

theorem trims_unit {a : Amount} (h : parse raw = some a) :
    Text.Trims a.unit.toList a.unit.toList := by
  obtain ⟨d, -, rfl⟩ := Option.map_eq_some_iff.mp h
  rw [String.toList_ofList]
  have htrims := Text.trims_trimChars
    ((Text.trimChars raw.toList).dropWhile Quantity.isNumberChar)
  exact ⟨⟨[], [], by simp, by simp, by simp⟩, htrims.first, htrims.last⟩

/-- A number with a unit is read as both. -/
theorem parse_number_unit {number unit : String}
    (hnumber : ∀ c ∈ number.toList, Quantity.isNumberChar c = true)
    (hdecimal : decimal? number.toList = some (n, k))
    (hunit : Text.Trims unit.toList unit.toList) :
    parse (if unit = "" then number else number ++ " " ++ unit) = some ⟨n, k, unit⟩ := by
  split
  · next hblank =>
    subst hblank
    exact parse_of_append (List.append_nil _).symm hnumber hdecimal (by simp) (by simp) hunit
  · next hne =>
    have hlist : unit.toList ≠ [] := mt String.toList_eq_nil_iff.mp hne
    have hraw : (number ++ " " ++ unit).toList = number.toList ++ ' ' :: unit.toList := by simp
    have htrims : Text.Trims (' ' :: unit.toList) unit.toList :=
      ⟨⟨[' '], [], by simp, by simp [Text.isBlank], by simp⟩, hunit.first, hunit.last⟩
    have hparse := parse_of_append hraw hnumber hdecimal
      (fun c hc => by cases hc; rfl)
      (fun c hc => by
        rw [List.getLast?_cons_of_ne_nil hlist] at hc
        exact hunit.last c hc)
      htrims
    rwa [String.ofList_toList] at hparse

theorem isNumberChar_of_mem_toDigits {c : Char} (h : c ∈ Nat.toDigits 10 n) :
    Quantity.isNumberChar c = true := by
  rw [Quantity.isNumberChar, Nat.isDigit_of_mem_toDigits (by decide) (by decide) h]
  rfl

theorem point_not_mem_toDigits : '.' ∉ Nat.toDigits 10 n := by
  intro h
  exact absurd (Nat.isDigit_of_mem_toDigits (by decide) (by decide) h) (by decide)

theorem decimal?_toDigits (n : Nat) : decimal? (Nat.toDigits 10 n) = some (n, 0) := by
  have hnone : Text.splitFirst '.' (Nat.toDigits 10 n) = none :=
    Text.splitFirst_eq_none_iff.mpr point_not_mem_toDigits
  have hne : (Nat.toDigits 10 n).isEmpty = false :=
    List.isEmpty_eq_false_iff.mpr Nat.toDigits_ne_nil
  unfold decimal?
  rw [hnone]
  simp [hne]

theorem toList_hundredths (n : Nat) :
    (hundredths n).toList = Nat.toDigits 10 (n / 100) ++
      '.' :: [(n % 100 / 10).digitChar, (n % 10).digitChar] := by
  have htens : n % 100 / 10 < 10 := by omega
  have hones : n % 100 % 10 = n % 10 := by omega
  unfold hundredths
  dsimp only
  rw [hones]
  simp only [String.toList_append, Nat.toString_eq_ofList_toDigits, String.toList_ofList,
    Nat.toDigits_of_lt_base htens, Nat.toDigits_of_lt_base (Nat.mod_lt n (by decide : 10 > 0))]
  simp

theorem isNumberChar_of_mem_hundredths {c : Char} (h : c ∈ (hundredths n).toList) :
    Quantity.isNumberChar c = true := by
  have hdigit : ∀ d, d < 10 → Quantity.isNumberChar d.digitChar = true := by decide
  rw [toList_hundredths, List.mem_append, List.mem_cons, List.mem_cons, List.mem_singleton] at h
  rcases h with h | rfl | rfl | rfl
  · exact isNumberChar_of_mem_toDigits h
  · rfl
  · exact hdigit _ (by omega)
  · exact hdigit _ (by omega)

theorem decimal?_hundredths (n : Nat) : decimal? (hundredths n).toList = some (n, 2) := by
  have hdigit : ∀ d, d < 10 → d.digitChar ≠ '.' := by decide
  have htens := hdigit (n % 100 / 10) (by omega)
  have hones := hdigit (n % 10) (by omega)
  have hsplit : Text.splitFirst '.' (hundredths n).toList =
      some (Nat.toDigits 10 (n / 100), [(n % 100 / 10).digitChar, (n % 10).digitChar]) :=
    Text.splitFirst_eq_some_iff.mpr ⟨toList_hundredths n, point_not_mem_toDigits⟩
  have hvalue : Nat.ofDigitChars 10
      (Nat.toDigits 10 (n / 100) ++ [(n % 100 / 10).digitChar, (n % 10).digitChar]) 0 = n := by
    rw [Nat.ofDigitChars_append, Nat.ofDigitChars_ten_toDigits,
      Nat.ofDigitChars_cons_digitChar_of_lt_ten (by omega),
      Nat.ofDigitChars_cons_digitChar_of_lt_ten (by omega), Nat.ofDigitChars_nil]
    omega
  unfold decimal?
  rw [hsplit]
  simp [htens.symm, hones.symm, hvalue]

end Amount

namespace Quantity

/-! ## Printed quantities -/

variable {x : Float} {unit : String}

theorem isNegative_of_key (h : 0 ≤ key x) (hne : magnitude x ≠ 0) : isNegative x = false := by
  unfold key signOf at h
  cases hx : isNegative x with
  | false => rfl
  | true =>
    rw [hx, if_pos rfl] at h
    simp only [Float.Model.UnpackedFloat.Sign.apply] at h
    omega

theorem truncate_of_key (h : 0 ≤ key x) : truncate x = (quanta x / twoPow 1074 : Nat) := by
  rw [truncate_eq]
  by_cases hzero : magnitude x = 0
  · rw [quanta, hzero, show quantaOf 0 = 0 from rfl, Nat.zero_div]
    cases signOf x <;> rfl
  · unfold signOf
    rw [isNegative_of_key h hzero]
    rfl

theorem saturate_natCast (n : Nat) : saturate n = (min n (twoPow 63 - 1) : Nat) := by
  have hleast : leastInteger ≤ 0 := by decide
  have hgreatest : greatestInteger = (twoPow 63 - 1 : Nat) := rfl
  unfold saturate
  omega

/-- The text of a number that is neither infinite nor below zero. -/
theorem numberText_eq (hfinite : x.isFinite = true) (hkey : 0 ≤ key x) :
    numberText x =
      if twoPow 1074 ∣ quanta x then toString (min (quanta x / twoPow 1074) (twoPow 63 - 1))
      else hundredths (roundHalfEven (quanta x * 100) (twoPow 1074)) := by
  have hlt := isFinite_iff.mp hfinite
  have hnan : ¬x.isNaN = true := by
    rw [isNaN_iff]
    omega
  have hinf : ¬x.isInf = true := by
    rw [isInf_iff]
    omega
  rw [numberText, if_neg hnan, if_neg hinf]
  by_cases hdvd : twoPow 1074 ∣ quanta x
  · rw [if_pos ((isIntegral_iff x).mpr hdvd), if_pos hdvd, truncate_of_key hkey, saturate_natCast]
    rfl
  · have hne : magnitude x ≠ 0 := by
      intro hzero
      rw [quanta, hzero] at hdvd
      exact hdvd (Nat.dvd_zero _)
    rw [if_neg (mt (isIntegral_iff x).mp hdvd), if_neg hdvd, twoPlaces, isNegative_of_key hkey hne,
      units_eq]
    exact String.empty_append

/-- **What is printed reads back as an amount in hundredths.** -/
theorem parse_print (hfinite : x.isFinite = true) (hkey : 0 ≤ key x)
    (hunit : Text.Trims unit.toList unit.toList) :
    ∃ v, Amount.parse (print ⟨x, unit⟩) = some v ∧ v.unit = unit ∧
      v.value = hundredthsOf (quanta x) / 100 := by
  unfold print
  dsimp only
  rw [numberText_eq hfinite hkey]
  by_cases hdvd : twoPow 1074 ∣ quanta x
  · obtain ⟨n, hn⟩ := hdvd
    rw [hn, if_pos (Nat.dvd_mul_right _ _), Nat.mul_div_cancel_left _ (twoPow_pos _),
      Nat.mul_comm, hundredthsOf_mul, Nat.toString_eq_ofList_toDigits]
    generalize min n (twoPow 63 - 1) = whole
    refine ⟨⟨whole, 0, unit⟩, Amount.parse_number_unit ?_ ?_ hunit, rfl, ?_⟩
    · rw [String.toList_ofList]
      exact fun c => Amount.isNumberChar_of_mem_toDigits
    · rw [String.toList_ofList]
      exact Amount.decimal?_toDigits whole
    · rw [Amount.value_whole, Nat.cast_mul, Nat.cast_ofNat, mul_div_cancel_right₀ _ (by norm_num)]
  · rw [if_neg hdvd, hundredthsOf_of_not_dvd hdvd]
    generalize roundHalfEven (quanta x * 100) (twoPow 1074) = cents
    exact ⟨⟨cents, 2, unit⟩, Amount.parse_number_unit
      (fun c => Amount.isNumberChar_of_mem_hundredths) (Amount.decimal?_hundredths cents) hunit,
      rfl, Amount.value_hundredths cents unit⟩

/-- What is infinite is not printed as a number. -/
theorem parse_print_of_infinite (hinf : magnitude x = infinityBits) (hkey : 0 ≤ key x) :
    Amount.parse (print ⟨x, unit⟩) = none := by
  have hnan : ¬x.isNaN = true := by
    rw [isNaN_iff]
    omega
  have hne : magnitude x ≠ 0 := by
    rw [hinf]
    decide
  have htext : numberText x = "inf" := by
    rw [numberText, if_neg hnan, if_pos (isInf_iff.mpr hinf), isNegative_of_key hkey hne]
    rfl
  have hfirst : (print ⟨x, unit⟩).toList.head? = some 'i' := by
    rw [print]
    dsimp only
    rw [htext]
    split
    · rfl
    · simp
  exact Amount.parse_eq_none hfirst rfl rfl

end Quantity

namespace Amount

/-! ## The nearest double -/

variable {a b : Amount}

theorem toBits_rounded (a : Amount) :
    a.rounded.value.toBits.toNat =
      min infinityBits (nearestBits (a.digits * twoPow 1074) (tenPow a.places)) :=
  bits_ofScientific a.digits a.places

theorem toBits_rounded_le (a : Amount) : a.rounded.value.toBits.toNat ≤ infinityBits := by
  rw [toBits_rounded]
  exact Nat.min_le_left _ _

theorem magnitude_rounded (a : Amount) :
    magnitude a.rounded.value =
      min infinityBits (nearestBits (a.digits * twoPow 1074) (tenPow a.places)) := by
  rw [(of_toBits_le a.toBits_rounded_le).2, toBits_rounded]

theorem magnitude_rounded_le (a : Amount) : magnitude a.rounded.value ≤ infinityBits := by
  rw [(of_toBits_le a.toBits_rounded_le).2]
  exact a.toBits_rounded_le

theorem key_rounded (a : Amount) : key a.rounded.value = magnitude a.rounded.value := by
  rw [key, (of_toBits_le a.toBits_rounded_le).1]
  rfl

theorem isNaN_rounded (a : Amount) : a.rounded.value.isNaN = false := by
  rw [Bool.eq_false_iff, Ne, isNaN_iff]
  exact Nat.not_lt.mpr a.magnitude_rounded_le

/-- The larger of two amounts is never read as the smaller double. -/
theorem magnitude_rounded_mono (h : a.value ≤ b.value) :
    magnitude a.rounded.value ≤ magnitude b.rounded.value := by
  rw [magnitude_rounded, magnitude_rounded]
  refine min_le_min_left _ (nearestBits_mono (tenPow_pos _) (tenPow_pos _) ?_)
  rw [Nat.mul_right_comm, Nat.mul_right_comm b.digits]
  exact Nat.mul_le_mul_right _ (value_le_iff.mp h)

theorem key_rounded_nonneg (a : Amount) : 0 ≤ key a.rounded.value := by
  rw [key_rounded]
  exact Int.natCast_nonneg _

/-- Whether the nearest double is a number and not infinite. -/
def Fits (a : Amount) : Prop := magnitude a.rounded.value < infinityBits

theorem magnitude_of_not_fits (h : ¬a.Fits) : magnitude a.rounded.value = infinityBits :=
  Nat.le_antisymm a.magnitude_rounded_le (Nat.le_of_not_lt h)

/-- What is read back where an amount is printed as a quantity. -/
def shown (a : Amount) : Option Amount := parse a.rounded.print

/-- The number that the text of the quantity says, as long as it is not infinite. -/
def shownValue (a : Amount) : ℚ := hundredthsOf (quanta a.rounded.value) / 100

theorem shown_of_fits (h : a.Fits) (hunit : Text.Trims a.unit.toList a.unit.toList) :
    ∃ v, a.shown = some v ∧ v.value = a.shownValue := by
  obtain ⟨v, hv, -, hvalue⟩ :=
    Quantity.parse_print (isFinite_iff.mpr h) a.key_rounded_nonneg hunit
  exact ⟨v, hv, hvalue⟩

theorem shown_of_not_fits (h : ¬a.Fits) : a.shown = none :=
  Quantity.parse_print_of_infinite (magnitude_of_not_fits h) a.key_rounded_nonneg

/-- When a number is at most what is read back. -/
theorem le_shown_iff (hunit : Text.Trims a.unit.toList a.unit.toList) {c : ℚ} :
    (∃ v, a.shown = some v ∧ c ≤ v.value) ↔ a.Fits ∧ c ≤ a.shownValue := by
  by_cases h : a.Fits
  · obtain ⟨v, hv, hvalue⟩ := shown_of_fits h hunit
    rw [hv, ← hvalue, and_iff_right h]
    exact ⟨fun ⟨w, hw, hle⟩ => Option.some.inj hw ▸ hle, fun hle => ⟨v, rfl, hle⟩⟩
  · rw [shown_of_not_fits h]
    exact iff_of_false (fun ⟨_, hv, _⟩ => nomatch hv) (fun hfits => h hfits.1)

/-- When whatever is read back is at most a number. -/
theorem shown_le_iff (hunit : Text.Trims a.unit.toList a.unit.toList) {c : ℚ} :
    (∀ v, a.shown = some v → v.value ≤ c) ↔ (a.Fits → a.shownValue ≤ c) := by
  by_cases h : a.Fits
  · obtain ⟨v, hv, hvalue⟩ := shown_of_fits h hunit
    rw [hv, ← hvalue, imp_iff_right h]
    exact ⟨fun hall => hall v rfl, fun hle w hw => Option.some.inj hw ▸ hle⟩
  · rw [shown_of_not_fits h]
    exact iff_of_true (fun _ hv => nomatch hv) (fun hfits => absurd hfits h)

/-- What is too large for a double is larger than every integer of 64 bits. -/
theorem le_value_of_not_fits (h : ¬a.Fits) : (mostHundredths : ℚ) / 100 ≤ a.value := by
  have hplaces : (0 : ℚ) < tenPow a.places := by exact_mod_cast tenPow_pos a.places
  have hlarge : twoPow 63 * tenPow a.places < a.digits := by
    by_contra hle
    have hlt : nearestBits (a.digits * twoPow 1074) (tenPow a.places) < infinityBits := by
      refine nearestBits_lt_infinityBits (tenPow_pos _) ?_
      rw [Nat.mul_right_comm]
      exact Nat.mul_le_mul_right _ (Nat.le_of_not_lt hle)
    rw [Fits, magnitude_rounded] at h
    omega
  have hmost : (mostHundredths : ℚ) / 100 ≤ twoPow 63 := by
    rw [div_le_iff₀ (by norm_num)]
    exact_mod_cast (by decide : mostHundredths ≤ twoPow 63 * 100)
  refine hmost.trans ?_
  rw [value, le_div_iff₀ hplaces]
  exact_mod_cast hlarge.le

/-- Whether an amount has at most two places and is so small that the doubles about it are closer
together than hundredths. -/
structure InHundredths (a : Amount) : Prop where
  places : a.places ≤ 2
  value : a.value < twoPow 46

/-- What has two places is printed as it is. -/
theorem InHundredths.shownValue_eq (h : a.InHundredths) : a.Fits ∧ a.shownValue = a.value := by
  obtain ⟨k, hk⟩ : ∃ k, tenPow k * tenPow a.places = 100 := by
    refine ⟨2 - a.places, (Nat.pow_add 10 _ _).symm.trans ?_⟩
    rw [Nat.sub_add_cancel h.places]
  have hplaces : (0 : ℚ) < tenPow a.places := by exact_mod_cast tenPow_pos a.places
  have hsmall : a.digits < twoPow 46 * tenPow a.places := by
    have hvalue := h.value
    rw [Amount.value, div_lt_iff₀ hplaces] at hvalue
    exact_mod_cast hvalue
  have hcents : a.digits * tenPow k < twoPow 46 * 100 := by
    calc a.digits * tenPow k < twoPow 46 * tenPow a.places * tenPow k :=
          Nat.mul_lt_mul_of_pos_right hsmall (tenPow_pos k)
      _ = twoPow 46 * 100 := by rw [Nat.mul_assoc, Nat.mul_comm (tenPow a.places), hk]
  have hbits : nearestBits (a.digits * twoPow 1074) (tenPow a.places) =
      nearestBits (a.digits * tenPow k * twoPow 1074) 100 := by
    refine nearestBits_congr (tenPow_pos _) (by decide) ?_
    rw [← hk]
    ring
  have hlt : nearestBits (a.digits * tenPow k * twoPow 1074) 100 < infinityBits := by
    refine nearestBits_lt_infinityBits (by decide) ?_
    rw [Nat.mul_right_comm (twoPow 63)]
    exact Nat.mul_le_mul_right _ (hcents.le.trans (by decide))
  rw [Fits, shownValue, quanta, magnitude_rounded, hbits, Nat.min_eq_right hlt.le,
    hundredthsOf_nearest hcents]
  refine ⟨hlt, ?_⟩
  rw [Amount.value, div_eq_div_iff (by norm_num) hplaces.ne']
  push_cast
  rw [mul_assoc]
  exact_mod_cast congrArg (a.digits * ·) hk

end Amount

end ClusterRegistry

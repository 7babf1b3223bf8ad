import ClusterRegistry.Scaling.Recommendation
import ClusterRegistry.Proofs.Scaling.Amount
import ClusterRegistry.Proofs.Table.Entries

/-!
# Recommendations within bounds

A reading is brought within its bounds as a double, and what is recommended is the text of this
double, which has two places at most. The text may say less than the lower bound or more than the
upper one, but only where the text of the bound itself does: between the bounds the texts are in the
order of the readings. So two texts tell for all readings whether a metric is kept within its bounds
(`Recommendation.desired_kept_iff`), and bounds in hundredths keep it.
-/

namespace ClusterRegistry

open Decimal

/-! ## The larger and the smaller of two numbers -/

variable {x y : Float}

theorem key_larger (hx : x.isNaN = false) (hy : y.isNaN = false) :
    (larger x y).isNaN = false ∧ key (larger x y) = max (key x) (key y) := by
  unfold larger
  rw [hx, hy, if_neg Bool.false_ne_true, if_neg Bool.false_ne_true]
  split
  · next hlt => exact ⟨hy, (max_eq_right ((lt_iff_key hx hy).mp hlt).le).symm⟩
  · next hge => exact ⟨hx, (max_eq_left (not_lt.mp (mt (lt_iff_key hx hy).mpr hge))).symm⟩

theorem key_smaller (hx : x.isNaN = false) (hy : y.isNaN = false) :
    (smaller x y).isNaN = false ∧ key (smaller x y) = min (key x) (key y) := by
  unfold smaller
  rw [hx, hy, if_neg Bool.false_ne_true, if_neg Bool.false_ne_true]
  split
  · next hlt => exact ⟨hy, (min_eq_right ((lt_iff_key hy hx).mp hlt).le).symm⟩
  · next hge => exact ⟨hx, (min_eq_left (not_lt.mp (mt (lt_iff_key hy hx).mpr hge))).symm⟩

namespace Recommendation

/-! ## Readings within their bounds -/

/-- Both bounds that a policy sets for a metric are amounts of one unit, the upper one not below the
lower one. -/
structure Bounded (policy : VerticalScalingSpec) (metric : String) (lo hi : Amount) : Prop where
  lower : (policy.minResource.get? metric).bind Amount.parse = some lo
  upper : (policy.maxResource.get? metric).bind Amount.parse = some hi
  unit : lo.unit = hi.unit
  le : lo.value ≤ hi.value

/-- Whether a text reads back as an amount within bounds and of their unit. -/
def Within (lo hi : Amount) (text : String) : Prop :=
  ∃ v, Amount.parse text = some v ∧ Quantity.parse text = some v.rounded ∧ v.unit = lo.unit ∧
    lo.value ≤ v.value ∧ v.value ≤ hi.value

/-- Whether a policy recommends something within bounds for every finite reading of a metric. -/
def Keeps (policy : VerticalScalingSpec) (metric : String) (lo hi : Amount) : Prop :=
  ∀ (factory : Id) (usage : Table String Float) (reading : Float),
    usage.get? metric = some reading → reading.isFinite = true →
    ∃ text, (ofPolicy policy factory usage).desired.get? metric = some text ∧ Within lo hi text

variable {policy : VerticalScalingSpec} {metric : String} {lo hi : Amount}

theorem bound_eq {bounds : Table String String} {a : Amount}
    (h : (bounds.get? metric).bind Amount.parse = some a) :
    bound bounds metric = some a.rounded := by
  obtain ⟨raw, hraw, hparse⟩ := Option.bind_eq_some_iff.mp h
  change (bounds.get? metric).bind Quantity.parse = _
  rw [hraw, Option.bind_some, Amount.parse_rounded, hparse]
  rfl

theorem Bounded.trims (h : Bounded policy metric lo hi) :
    Text.Trims lo.unit.toList lo.unit.toList := by
  obtain ⟨raw, -, hparse⟩ := Option.bind_eq_some_iff.mp h.lower
  exact Amount.trims_unit hparse

theorem Bounded.unit_eq (h : Bounded policy metric lo hi) :
    Recommendation.unit policy metric = lo.unit := by
  unfold Recommendation.unit
  rw [bound_eq h.upper]
  exact h.unit.symm

/-- A reading is raised to the lower bound and lowered to the upper one. -/
theorem Bounded.key_within (h : Bounded policy metric lo hi) {reading : Float}
    (hreading : reading.isNaN = false) :
    key (within policy metric reading) =
      min (max (key reading) (magnitude lo.rounded.value)) (magnitude hi.rounded.value) := by
  obtain ⟨hraised, hmax⟩ := key_larger hreading lo.isNaN_rounded
  obtain ⟨hwithin, hmin⟩ := key_smaller hraised hi.isNaN_rounded
  unfold within
  rw [bound_eq h.lower, bound_eq h.upper]
  dsimp only
  rw [hmin, hmax, Amount.key_rounded, Amount.key_rounded]

theorem Bounded.magnitude_le (h : Bounded policy metric lo hi) :
    magnitude lo.rounded.value ≤ magnitude hi.rounded.value := Amount.magnitude_rounded_mono h.le

/-- What a reading within its bounds is, its sign aside. -/
theorem Bounded.magnitude_within (h : Bounded policy metric lo hi) {reading : Float}
    (hreading : reading.isNaN = false) :
    0 ≤ key (within policy metric reading) ∧ (magnitude (within policy metric reading) : Int) =
      min (max (key reading) (magnitude lo.rounded.value)) (magnitude hi.rounded.value) := by
  have hkey := h.key_within hreading
  have hpos : 0 ≤ key (within policy metric reading) := by omega
  exact ⟨hpos, (key_eq_magnitude hpos).symm.trans hkey⟩

/-- The text that is recommended for a reading. -/
def recommended (policy : VerticalScalingSpec) (metric : String) (reading : Float) : String :=
  Quantity.print ⟨within policy metric reading, Recommendation.unit policy metric⟩

theorem desired_eq {usage : Table String Float} {reading : Float}
    (h : usage.get? metric = some reading) (factory : Id) :
    (ofPolicy policy factory usage).desired.get? metric =
      some (recommended policy metric reading) :=
  (Table.mem_entries_iff _).mp (List.mem_map.mpr
    ⟨(metric, reading), (Table.mem_entries_iff usage).mpr h, rfl⟩)

/-- Every reading is recommended something by itself. -/
theorem keeps_iff_forall :
    Keeps policy metric lo hi ↔
      ∀ reading : Float, reading.isFinite = true →
        Within lo hi (recommended policy metric reading) := by
  constructor
  · intro h reading hfinite
    have hget : (Table.empty.insert metric reading).get? metric = some reading := by
      rw [Table.get?_insert, if_pos Std.ReflCmp.compare_self]
    obtain ⟨text, htext, hwithin⟩ := h ⟨0⟩ _ reading hget hfinite
    rw [desired_eq hget] at htext
    cases htext
    exact hwithin
  · intro h factory usage reading hget hfinite
    exact ⟨_, desired_eq hget factory, h reading hfinite⟩

/-- The text of a reading within bounds reads back as an amount in hundredths. -/
theorem Bounded.parse_recommended (h : Bounded policy metric lo hi) {reading : Float}
    (hfinite : reading.isFinite = true) (hfits : lo.Fits) :
    ∃ v, Amount.parse (recommended policy metric reading) = some v ∧ v.unit = lo.unit ∧
      v.value = hundredthsOf (quanta (within policy metric reading)) / 100 := by
  obtain ⟨hpos, hmagnitude⟩ := h.magnitude_within (isNaN_eq_false_of_isFinite hfinite)
  have hkey := key_le_magnitude reading
  have hreading := isFinite_iff.mp hfinite
  have hlo : magnitude lo.rounded.value < infinityBits := hfits
  have hwithin : magnitude (within policy metric reading) < infinityBits := by omega
  unfold recommended
  rw [h.unit_eq]
  exact Quantity.parse_print (isFinite_iff.mpr hwithin) hpos h.trims

/-- The text of a reading lies between the texts of the bounds. -/
theorem Bounded.recommended_within (h : Bounded policy metric lo hi) {reading : Float}
    (hfinite : reading.isFinite = true) (hfits : lo.Fits) (hlow : lo.value ≤ lo.shownValue)
    (hhigh : hi.Fits → hi.shownValue ≤ hi.value) :
    Within lo hi (recommended policy metric reading) := by
  obtain ⟨v, hv, hunit, hvalue⟩ := h.parse_recommended hfinite hfits
  obtain ⟨-, hmagnitude⟩ := h.magnitude_within (isNaN_eq_false_of_isFinite hfinite)
  have hle := h.magnitude_le
  refine ⟨v, hv, by rw [Amount.parse_rounded, hv, Option.map_some], hunit, ?_, ?_⟩
  · have hmono : hundredthsOf (quanta lo.rounded.value) ≤
        hundredthsOf (quanta (within policy metric reading)) :=
      hundredthsOf_mono (quantaOf_le_iff.mpr (by omega))
    rw [hvalue]
    exact hlow.trans (div_le_div_of_nonneg_right (by exact_mod_cast hmono) (by norm_num))
  · rw [hvalue]
    by_cases hfin : hi.Fits
    · have hmono : hundredthsOf (quanta (within policy metric reading)) ≤
          hundredthsOf (quanta hi.rounded.value) :=
        hundredthsOf_mono (quantaOf_le_iff.mpr (by omega))
      exact (div_le_div_of_nonneg_right (by exact_mod_cast hmono) (by norm_num)).trans (hhigh hfin)
    · -- an infinite bound is above the greatest integer, which is the most that a text says
      refine (div_le_div_of_nonneg_right ?_ (by norm_num)).trans (Amount.le_value_of_not_fits hfin)
      exact_mod_cast hundredthsOf_le _

/-- What is kept within bounds is so where the reading is an amount between them. -/
theorem Bounded.of_keeps (h : Bounded policy metric lo hi) (hkeeps : Keeps policy metric lo hi)
    {a : Amount} (hfits : a.Fits) (hlow : magnitude lo.rounded.value ≤ magnitude a.rounded.value)
    (hhigh : magnitude a.rounded.value ≤ magnitude hi.rounded.value) :
    lo.value ≤ a.shownValue ∧ a.shownValue ≤ hi.value := by
  have hreading := isFinite_iff.mpr hfits
  obtain ⟨v, hv, -, -, hle, hge⟩ := keeps_iff_forall.mp hkeeps _ hreading
  obtain ⟨v', hv', -, hvalue⟩ := h.parse_recommended hreading (hlow.trans_lt hfits)
  obtain rfl : v' = v := Option.some.inj (hv'.symm.trans hv)
  have hmagnitude := (h.magnitude_within a.isNaN_rounded).2
  rw [a.key_rounded] at hmagnitude
  have hsame : magnitude (within policy metric a.rounded.value) = magnitude a.rounded.value := by
    omega
  rw [hvalue, quanta, hsame] at hle hge
  exact ⟨hle, hge⟩

/-- Above an infinite bound nothing is recommended that reads back. -/
theorem Bounded.fits_of_keeps (h : Bounded policy metric lo hi)
    (hkeeps : Keeps policy metric lo hi) : lo.Fits := by
  by_contra hfits
  have hinf := Amount.magnitude_of_not_fits hfits
  have hzero : Amount.Fits ⟨0, 0, ""⟩ := by
    rw [Amount.Fits, Amount.magnitude_rounded, Nat.zero_mul, nearestBits_eq_zero (tenPow_pos 0)]
    decide
  obtain ⟨v, hv, -⟩ := keeps_iff_forall.mp hkeeps _ (isFinite_iff.mpr hzero)
  obtain ⟨hpos, hmagnitude⟩ := h.magnitude_within (Amount.isNaN_rounded ⟨0, 0, ""⟩)
  have hkey := key_le_magnitude (Amount.rounded ⟨0, 0, ""⟩).value
  have hle := h.magnitude_le
  have hupper := hi.magnitude_rounded_le
  have hnone : Amount.parse (recommended policy metric (Amount.rounded ⟨0, 0, ""⟩).value) = none :=
    Quantity.parse_print_of_infinite (by omega) hpos
  rw [hnone] at hv
  cases hv

/-- A metric is kept within bounds whose own texts do not leave them. -/
theorem Bounded.keeps_iff (h : Bounded policy metric lo hi) :
    Keeps policy metric lo hi ↔
      (lo.Fits ∧ lo.value ≤ lo.shownValue) ∧ (hi.Fits → hi.shownValue ≤ hi.value) := by
  have hle := h.magnitude_le
  constructor
  · intro hkeeps
    have hfits := h.fits_of_keeps hkeeps
    exact ⟨⟨hfits, (h.of_keeps hkeeps hfits (Nat.le_refl _) hle).1⟩,
      fun hfin => (h.of_keeps hkeeps hfin hle (Nat.le_refl _)).2⟩
  · rintro ⟨⟨hfits, hlow⟩, hhigh⟩
    exact keeps_iff_forall.mpr fun reading hfinite =>
      h.recommended_within hfinite hfits hlow hhigh

/-- **Two texts tell for all readings whether a metric is kept within its bounds**: those of the
bounds themselves. Bounds with two places at most that are not too large are always kept. -/
theorem desired_kept_iff (h : Bounded policy metric lo hi) :
    (Keeps policy metric lo hi ↔
      (∃ v, lo.shown = some v ∧ lo.value ≤ v.value) ∧
        ∀ v, hi.shown = some v → v.value ≤ hi.value) ∧
    (lo.InHundredths → hi.InHundredths → Keeps policy metric lo hi) := by
  constructor
  · rw [h.keeps_iff, Amount.le_shown_iff h.trims, Amount.shown_le_iff (h.unit ▸ h.trims)]
  · intro hlo hhi
    obtain ⟨hfits, hlow⟩ := hlo.shownValue_eq
    obtain ⟨-, hhigh⟩ := hhi.shownValue_eq
    exact h.keeps_iff.mpr ⟨⟨hfits, hlow.ge⟩, fun _ => hhigh.le⟩

/-- A policy with whole bounds. -/
def wholeBounds : VerticalScalingSpec where
  minResource := .ofList [("cpu", "2"), ("ram", "1000 MiB")]
  maxResource := .ofList [("cpu", "4"), ("ram", "4000 MiB")]

theorem bounded_wholeBounds :
    Bounded wholeBounds "ram" ⟨1000, 0, "MiB"⟩ ⟨4000, 0, "MiB"⟩ where
  lower := by decide +kernel
  upper := by decide +kernel
  unit := rfl
  le := Amount.value_le_iff.mpr (by decide)

/-- Whole bounds are kept for every reading. -/
theorem desired_kept_of_wholeBounds :
    Bounded wholeBounds "ram" ⟨1000, 0, "MiB"⟩ ⟨4000, 0, "MiB"⟩ ∧
      Keeps wholeBounds "ram" ⟨1000, 0, "MiB"⟩ ⟨4000, 0, "MiB"⟩ :=
  ⟨bounded_wholeBounds, (desired_kept_iff bounded_wholeBounds).2
    ⟨by decide, by rw [Amount.value_whole]; exact_mod_cast (by decide : 1000 < twoPow 46)⟩
    ⟨by decide, by rw [Amount.value_whole]; exact_mod_cast (by decide : 4000 < twoPow 46)⟩⟩

/-- A policy with bounds that are no hundredths and with bounds that are too large for an integer of
64 bits. -/
def extremeBounds : VerticalScalingSpec where
  minResource := .ofList [("cpu", "0.001"), ("disk", "10000000000000000000 B")]
  maxResource := .ofList [("cpu", "0.004"), ("disk", "20000000000000000000 B")]

/-- Rounding to two places as well as the greatest integer may leave the bounds. -/
theorem desired_below_extremeBounds :
    Bounded extremeBounds "cpu" ⟨1, 3, ""⟩ ⟨4, 3, ""⟩ ∧
      Bounded extremeBounds "disk" ⟨10000000000000000000, 0, "B"⟩ ⟨20000000000000000000, 0, "B"⟩ ∧
      (0.5 : Float).isFinite = true ∧
      (ofPolicy extremeBounds ⟨1⟩ (.ofList [("cpu", 0.5), ("disk", 0.5)])).desired.entries =
        [("cpu", "0.00"), ("disk", "9223372036854775807 B")] ∧
      ¬Within ⟨1, 3, ""⟩ ⟨4, 3, ""⟩ "0.00" ∧
      ¬Within ⟨10000000000000000000, 0, "B"⟩ ⟨20000000000000000000, 0, "B"⟩
        "9223372036854775807 B" := by
  refine ⟨⟨by decide +kernel, by decide +kernel, rfl, Amount.value_le_iff.mpr (by decide)⟩,
    ⟨by decide +kernel, by decide +kernel, rfl, Amount.value_le_iff.mpr (by decide)⟩,
    by decide +kernel, by decide +kernel, ?_, ?_⟩
  · rintro ⟨v, hv, -, -, hle, -⟩
    rw [show Amount.parse "0.00" = some ⟨0, 2, ""⟩ by decide +kernel] at hv
    cases hv
    exact absurd (Amount.value_le_iff.mp hle) (by decide)
  · rintro ⟨v, hv, -, -, hle, -⟩
    rw [show Amount.parse "9223372036854775807 B" = some ⟨9223372036854775807, 0, "B"⟩ by
      decide +kernel] at hv
    cases hv
    exact absurd (Amount.value_le_iff.mp hle) (by decide)

end Recommendation

end ClusterRegistry

import ClusterRegistry.Proofs.Decimal.Doubles

/-!
# Rounding to a double

Arithmetic on doubles calculates a quotient to more bits than a double holds, keeps of the
remainder only how it compares with a half, and drops the bits that are too many. Nothing is lost on
the way: a quotient that is cut off and its two residual bits (`extended`) stay those of the exact
quotient however far they are shifted, so that what is rounded in the end is the exact quotient, and
the double got is the nearest one (`roundWithAccuracy_rounds`, `toNat_pack`).
-/

namespace ClusterRegistry.Decimal

open Float.Model Float.Model.UnpackedFloat

variable {a b : Nat}

/-! ## Residual bits -/

/-- A quotient cut off to a natural, with the two bits that say how the rest compares with a
half. -/
def extended (a b : Nat) : ExtendedMantissa where
  mantissa := a / b
  roundBit := decide (b ≤ 2 * (a % b))
  stickyBit := decide (2 * a % b ≠ 0)

/-- Where nothing is left after the bit for a half, the rest is none or a half. -/
theorem two_mul_mod_eq_zero_iff (hb : 0 < b) :
    2 * a % b = 0 ↔ a % b = 0 ∨ 2 * (a % b) = b := by
  have hmod := Nat.mod_lt a hb
  have htwice : 2 * a % b = 2 * (a % b) % b := by
    rw [Nat.mul_mod, Nat.mul_mod 2 (a % b), Nat.mod_mod]
  rw [htwice]
  constructor
  · intro h
    by_cases hsmall : 2 * (a % b) < b
    · rw [Nat.mod_eq_of_lt hsmall] at h
      omega
    · rw [Nat.mod_eq_sub_mod (Nat.le_of_not_lt hsmall), Nat.mod_eq_of_lt (by omega)] at h
      omega
  · rintro (h | h)
    · rw [h]
      exact Nat.zero_mod b
    · rw [h, Nat.mod_self]

theorem shiftRightOne_extended (hb : 0 < b) :
    (extended a b).shiftRightOne = extended a (b * 2) := by
  have hmod := Nat.mod_lt a hb
  have hbit := Nat.mod_two_eq_zero_or_one (a / b)
  have hrest : a % (b * 2) = a % b + b * (a / b % 2) := Nat.mod_mul
  have hsticky : 2 * a % (b * 2) = 2 * (a % b) := by rw [Nat.mul_comm b 2, Nat.mul_mod_mul_left]
  have hiff := two_mul_mod_eq_zero_iff (a := a) hb
  unfold extended ExtendedMantissa.shiftRightOne
  congr 1
  · exact Nat.div_div_eq_div_mul a b 2
  · rw [hrest]
    rcases hbit with h | h <;> rw [h] <;> simp <;> omega
  · rw [hsticky, ← Bool.decide_or]
    refine decide_eq_decide.mpr ?_
    rw [Ne, hiff]
    omega

theorem shiftRight_extended (hb : 0 < b) (n : Nat) :
    extended a b >>> n = extended a (b * twoPow n) := by
  change n.repeat ExtendedMantissa.shiftRightOne (extended a b) = _
  induction n with
  | zero => exact congrArg (extended a) (Nat.mul_one b).symm
  | succ n ih =>
    rw [Nat.repeat, ih, shiftRightOne_extended (Nat.mul_pos hb (twoPow_pos n)), Nat.mul_assoc]
    rfl

/-- The residual bits say all that rounding needs to know. -/
theorem roundedMantissa_extended (hb : 0 < b) :
    (extended a b).roundedMantissa = roundHalfEven a b := by
  have hmod := Nat.mod_lt a hb
  have hiff := two_mul_mod_eq_zero_iff (a := a) hb
  unfold extended ExtendedMantissa.roundedMantissa roundHalfEven
  dsimp only
  rcases lt_trichotomy (2 * (a % b)) b with h | h | h
  · rw [Nat.compare_eq_lt.mpr h, decide_eq_false (Nat.not_le.mpr h)]
    by_cases hzero : 2 * a % b = 0
    · rw [decide_eq_false (not_not.mpr hzero)]
      rfl
    · rw [decide_eq_true hzero]
      rfl
  · rw [Nat.compare_eq_eq.mpr h, decide_eq_true h.ge,
      decide_eq_false (not_not.mpr (hiff.mpr (.inr h)))]
    change a / b + a / b % 2 = if a / b % 2 = 0 then a / b else a / b + 1
    split <;> omega
  · rw [Nat.compare_eq_gt.mpr h, decide_eq_true h.le, decide_eq_true (mt hiff.mp (by omega))]
    rfl

/-- What is kept of the remainder of a division. -/
theorem ofMantissaAndAccuracy_fraction (hb : 0 < b) :
    ExtendedMantissa.ofMantissaAndAccuracy (a / b) (accuracyOfFraction (a % b) b) =
      extended a b := by
  have hmod := Nat.mod_lt a hb
  have hiff := two_mul_mod_eq_zero_iff (a := a) hb
  unfold accuracyOfFraction extended
  split
  · next hzero =>
    rw [hzero, decide_eq_false (by omega), decide_eq_false (not_not.mpr (hiff.mpr (.inl hzero)))]
    rfl
  · next hne =>
    rcases lt_trichotomy (2 * (a % b)) b with h | h | h
    · rw [Nat.compare_eq_lt.mpr h, decide_eq_false (Nat.not_le.mpr h),
        decide_eq_true (mt hiff.mp (by omega))]
      rfl
    · rw [Nat.compare_eq_eq.mpr h, decide_eq_true h.ge,
        decide_eq_false (not_not.mpr (hiff.mpr (.inr h)))]
      rfl
    · rw [Nat.compare_eq_gt.mpr h, decide_eq_true h.le, decide_eq_true (mt hiff.mp (by omega))]
      rfl

/-! ## The nearest double -/

/-- A double as rounding leaves it, which may still be too large. -/
inductive Rounds (bits : Nat) : UnpackedFloat → Prop
  | zero (h : bits = 0) : Rounds bits (.zero .positive)
  | finite {m : Nat} {e : Int} (hm : 0 < m) (h : Denotes m e bits) :
    Rounds bits (.finite .positive m e hm)

theorem targetExponent_binary64 (t : Int) :
    Format.binary64.targetExponent t = max (t - 53) (-1074) := rfl

theorem targetExponent_eq (m : Nat) (e : Int) :
    Format.binary64.targetExponent (totalExponent m e) = max (m.log2 + e - 52) (-1074) := by
  rw [targetExponent_binary64]
  change max ((m.log2 : Int) + 1 + e - 53) (-1074) = _
  omega

/-- Scaling a quotient by a power of two moves its leading bit. -/
theorem log2_div_scaled (hb : 0 < b) (h : a / b ≠ 0) (p q : Nat) :
    (a * twoPow q / (b * twoPow p)).log2 = (a / b).log2 + q - p := by
  have hscaled : 0 < b * twoPow p := Nat.mul_pos hb (twoPow_pos p)
  have hlow : twoPow (a / b).log2 * b ≤ a := (Nat.le_div_iff_mul_le hb).mp (Nat.log2_self_le h)
  have hhigh : a < twoPow ((a / b).log2 + 1) * b := (Nat.div_lt_iff_lt_mul hb).mp Nat.lt_log2_self
  generalize (a / b).log2 = l at hlow hhigh ⊢
  have hbelow : a * twoPow q < twoPow (l + q + 1) * b := by
    calc a * twoPow q < twoPow (l + 1) * b * twoPow q :=
          Nat.mul_lt_mul_of_pos_right hhigh (twoPow_pos q)
      _ = twoPow (l + q + 1) * b := by rw [Nat.add_right_comm, twoPow_add (l + 1)]; ring
  by_cases hle : p ≤ l + q
  · obtain ⟨k, hk⟩ := Nat.exists_eq_add_of_le hle
    rw [hk, Nat.add_sub_cancel_left]
    have hquot : twoPow k ≤ a * twoPow q / (b * twoPow p) := by
      rw [Nat.le_div_iff_mul_le hscaled]
      calc twoPow k * (b * twoPow p) = twoPow (l + q) * b := by rw [hk, twoPow_add]; ring
        _ = twoPow l * b * twoPow q := by rw [twoPow_add]; ring
        _ ≤ a * twoPow q := Nat.mul_le_mul_right _ hlow
    refine (Nat.log2_eq_iff (Nat.ne_of_gt (Nat.lt_of_lt_of_le (twoPow_pos k) hquot))).mpr
      ⟨hquot, ?_⟩
    rw [Nat.div_lt_iff_lt_mul hscaled]
    calc a * twoPow q < twoPow (l + q + 1) * b := hbelow
      _ = twoPow (k + 1) * (b * twoPow p) := by rw [hk, Nat.add_assoc, twoPow_add p]; ring
  · -- what is left is less than one
    rw [Nat.sub_eq_zero_of_le (by omega), Nat.div_eq_of_lt, Nat.log2_zero]
    calc a * twoPow q < twoPow (l + q + 1) * b := hbelow
      _ ≤ twoPow p * b := Nat.mul_le_mul_right b (twoPow_mono (by omega))
      _ = b * twoPow p := Nat.mul_comm _ _

/-- The exponent that rounding aims at is the gap of the quotient. -/
theorem targetExponent_eq_gap (hb : 0 < b) {e : Int} {p q : Nat} (hscale : (q : Int) = p + e + 1074)
    (he : e ≤ Format.binary64.targetExponent (totalExponent (a / b) e)) :
    Format.binary64.targetExponent (totalExponent (a / b) e) =
      (gap (a * twoPow q) (b * twoPow p) : Int) - 1074 := by
  rw [targetExponent_eq] at he ⊢
  unfold gap
  by_cases h : a / b = 0
  · have hsmall : a * twoPow q / (b * twoPow p) = 0 := by
      have hlt : a < b := (Nat.div_eq_zero_iff_lt hb).mp h
      rw [h, Nat.log2_zero] at he
      refine Nat.div_eq_of_lt ?_
      calc a * twoPow q < b * twoPow q := Nat.mul_lt_mul_of_pos_right hlt (twoPow_pos q)
        _ ≤ b * twoPow p :=
          Nat.mul_le_mul_left b (twoPow_mono (by omega))
    rw [h, Nat.log2_zero] at he ⊢
    rw [hsmall, Nat.log2_zero]
    omega
  · rw [log2_div_scaled hb h]
    omega

theorem shiftToTargetExponent_exact {r : Nat} {e : Int} (hr : r < twoPow 53) (he : -1074 ≤ e) :
    shiftToTargetExponent Format.binary64 r e .exact = (⟨r, false, false⟩, e) := by
  have hlog : r.log2 < 53 := log2_lt_of_lt (by decide) hr
  have hstay : (Format.binary64.targetExponent (totalExponent r e) - e).toNat = 0 := by
    rw [targetExponent_eq]
    omega
  unfold shiftToTargetExponent shiftToExponent
  dsimp only
  rw [hstay]
  exact Prod.ext rfl (Int.add_zero e)

/-- Where rounding reaches one bit more, the significand is halved. -/
theorem shiftToTargetExponent_carry {e : Int} (he : -1074 ≤ e) :
    shiftToTargetExponent Format.binary64 (twoPow 53) e .exact =
      (⟨twoPow 52, false, false⟩, e + 1) := by
  have hstep : (Format.binary64.targetExponent (totalExponent (twoPow 53) e) - e).toNat = 1 := by
    rw [targetExponent_eq, show (twoPow 53).log2 = 53 from Nat.log2_two_pow]
    omega
  unfold shiftToTargetExponent shiftToExponent
  dsimp only
  rw [hstep]
  rfl

/-- The first shift leaves the exact quotient on its gaps. -/
theorem shiftToTargetExponent_quotient (hb : 0 < b) {e : Int} {p q : Nat}
    (hscale : (q : Int) = p + e + 1074)
    (he : e ≤ Format.binary64.targetExponent (totalExponent (a / b) e)) :
    ∃ s, shiftToTargetExponent Format.binary64 (a / b) e (accuracyOfFraction (a % b) b) =
        (extended a (b * twoPow s), (gap (a * twoPow q) (b * twoPow p) : Int) - 1074) ∧
      (extended a (b * twoPow s)).roundedMantissa = roundHalfEven (a * twoPow q)
        (b * twoPow p * twoPow (gap (a * twoPow q) (b * twoPow p))) := by
  have htarget := targetExponent_eq_gap hb hscale he
  rw [htarget] at he
  generalize gap (a * twoPow q) (b * twoPow p) = g at *
  obtain ⟨s, hs⟩ : ∃ s : Nat, (g : Int) - 1074 - e = s :=
    ⟨_, (Int.toNat_of_nonneg (by omega)).symm⟩
  refine ⟨s, ?_, ?_⟩
  · unfold shiftToTargetExponent shiftToExponent
    dsimp only
    rw [htarget, hs, Int.toNat_natCast, ofMantissaAndAccuracy_fraction hb, shiftRight_extended hb]
    exact Prod.ext rfl (by omega)
  · rw [roundedMantissa_extended (Nat.mul_pos hb (twoPow_pos s))]
    refine roundHalfEven_congr (Nat.mul_pos hb (twoPow_pos s))
      (Nat.mul_pos (Nat.mul_pos hb (twoPow_pos p)) (twoPow_pos g)) ?_
    have hexp : p + g = q + s := by omega
    calc a * (b * twoPow p * twoPow g) = a * b * twoPow (p + g) := by rw [twoPow_add]; ring
      _ = a * twoPow q * (b * twoPow s) := by rw [hexp, twoPow_add]; ring

/-- **Rounding a quotient gives the nearest double.** -/
theorem roundWithAccuracy_rounds (hb : 0 < b) {e : Int} {p q : Nat}
    (hscale : (q : Int) = p + e + 1074)
    (he : e ≤ Format.binary64.targetExponent (totalExponent (a / b) e)) :
    Rounds (nearestBits (a * twoPow q) (b * twoPow p))
      (roundWithAccuracy Format.binary64 .positive (a / b) e (accuracyOfFraction (a % b) b)) := by
  have hB : 0 < b * twoPow p := Nat.mul_pos hb (twoPow_pos p)
  obtain ⟨s, hfirst, hround⟩ := shiftToTargetExponent_quotient hb hscale he
  have hleast : (-1074 : Int) ≤ (gap (a * twoPow q) (b * twoPow p) : Int) - 1074 := by omega
  unfold roundWithAccuracy
  rw [hfirst]
  dsimp only
  rw [hround]
  -- the second shift is none unless rounding has carried
  rcases (roundHalfEven_gap_le hB).lt_or_eq with hlt | hcarry
  · have hdenotes := denotes_nearestBits hB hlt
    rw [shiftToTargetExponent_exact hlt hleast]
    dsimp only
    generalize roundHalfEven (a * twoPow q) _ = r at *
    by_cases hzero : r = 0
    · rw [dif_pos hzero]
      exact .zero (hzero ▸ hdenotes).eq_zero
    · rw [dif_neg hzero]
      exact .finite _ hdenotes
  · have hdenotes := denotes_nearestBits_carry hcarry
    rw [hcarry, shiftToTargetExponent_carry hleast]
    dsimp only
    rw [dif_neg (by decide)]
    exact .finite _ hdenotes

/-! ## Packing -/

theorem toNat_packComponents (E : BitVec 11) (M : BitVec 52) :
    (packComponents Format.binary64 .positive E M).toNat = E.toNat * twoPow 52 + M.toNat := by
  change (0#1 ++ E ++ M).toNat = _
  rw [BitVec.toNat_append, BitVec.toNat_append, ← Nat.shiftLeft_add_eq_or_of_lt M.isLt,
    Nat.shiftLeft_eq]
  simp [twoPow]

/-- **The bits of the nearest double, which from a point on is infinite.** -/
theorem toNat_pack {bits : Nat} {u : UnpackedFloat} (h : Rounds bits u) :
    (UnpackedFloat.pack Format.binary64 u).toNat = min infinityBits bits := by
  cases h with
  | zero h => rw [h, Nat.min_zero]; rfl
  | @finite m e hm h =>
    have hleast := h.least
    have hsmall := h.lt
    have hfinite := h.lt_infinityBits_iff
    obtain ⟨k, hk⟩ : ∃ k : Nat, e + 1074 = k := ⟨_, (Int.toNat_of_nonneg (by omega)).symm⟩
    have hbits : bits = k * twoPow 52 + m := by rw [h.eq, hk, Int.toNat_natCast]
    have hbiased : (e + Format.binary64.exponentBias + (52 : Nat)).toNat = k + 1 := by
      change (e + 1023 + 52).toNat = k + 1
      omega
    unfold UnpackedFloat.pack
    dsimp only
    rw [hbiased]
    by_cases hlarge : 972 ≤ e
    · rw [if_pos (by change 2048 ≤ _; omega), Nat.min_eq_left (by omega)]
      exact toNat_packComponents _ _
    · rw [if_neg (by change ¬2048 ≤ _; omega), Nat.min_eq_right (by omega)]
      by_cases hnormal : twoPow 52 ≤ m
      · -- the leading bit of the significand is the last one of the exponent
        have hlog : m.log2 = 52 := (Nat.log2_eq_iff hm.ne').mpr ⟨hnormal, hsmall⟩
        obtain ⟨f, rfl⟩ := Nat.exists_eq_add_of_le hnormal
        rw [twoPow_fiftyThree] at hsmall
        rw [if_pos (by rw [hlog]; rfl), toNat_packComponents, BitVec.toNat_ofNat,
          BitVec.toNat_ofNat, Nat.mod_eq_of_lt (by omega), hbits]
        change _ + (twoPow 52 + f) % twoPow 52 = _
        rw [Nat.add_mod_left, Nat.mod_eq_of_lt (by omega)]
        ring
      · have hlt := Nat.not_le.mp hnormal
        have hlog : m.log2 < 52 := log2_lt_of_lt (by decide) hlt
        obtain rfl : k = 0 := by
          have hexponent := h.normal.resolve_left hnormal
          omega
        rw [if_neg (by change ¬m.log2 + 1 = 53; omega), toNat_packComponents, BitVec.toNat_ofNat,
          hbits]
        change 0 * twoPow 52 + m % twoPow 52 = _
        rw [Nat.mod_eq_of_lt hlt]

end ClusterRegistry.Decimal

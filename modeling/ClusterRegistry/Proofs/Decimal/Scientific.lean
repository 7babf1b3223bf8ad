import ClusterRegistry.Proofs.Decimal.Rounding

/-!
# Decimals as doubles

A decimal of any length is read as the double nearest to it (`bits_ofScientific`): short ones by one
division of two doubles that are exact, longer ones by a division of integers. So the larger of two
decimals is never read as the smaller double, and a decimal is read as a number that is not below
zero.
-/

namespace ClusterRegistry.Decimal

open Float.Model Float.Model.UnpackedFloat

/-! ## Quotients and naturals -/

/-- With enough bits appended, a quotient has as many as are wanted. -/
theorem le_log2_div {m n k s : Nat} (hm : 0 < m) (hn : 0 < n) (h : n.log2 + 1 + k ≤ m.log2 + s) :
    k ≤ (m * twoPow s / n).log2 := by
  have hlow : twoPow m.log2 ≤ m := Nat.log2_self_le hm.ne'
  have hhigh : n < twoPow (n.log2 + 1) := Nat.lt_log2_self
  have hquot : twoPow k ≤ m * twoPow s / n := by
    rw [Nat.le_div_iff_mul_le hn]
    calc twoPow k * n ≤ twoPow k * twoPow (n.log2 + 1) := Nat.mul_le_mul_left _ hhigh.le
      _ = twoPow (n.log2 + 1 + k) := by rw [← twoPow_add, Nat.add_comm]
      _ ≤ twoPow (m.log2 + s) := twoPow_mono h
      _ = twoPow m.log2 * twoPow s := twoPow_add _ _
      _ ≤ m * twoPow s := Nat.mul_le_mul_right _ hlow
  exact (Nat.le_log2 (Nat.ne_of_gt (Nat.lt_of_lt_of_le (twoPow_pos k) hquot))).mpr hquot

/-- The quotient of two doubles is the double nearest to the exact quotient. -/
theorem div_rounds {m n : Nat} {e f : Int} (hm : 0 < m) (hn : 0 < n) (he : -1074 ≤ e)
    (hf : -1074 ≤ f) :
    Rounds (nearestBits (m * twoPow (e + 1074).toNat * twoPow 1074) (n * twoPow (f + 1074).toNat))
      (UnpackedFloat.div Format.binary64 (.finite .positive m e hm)
        (.finite .positive n f hn)) := by
  -- bits are appended until the quotient has as many as a double
  obtain ⟨t, ht⟩ : ∃ t, t = min (e - f)
      (Format.binary64.targetExponent (totalExponent m e - totalExponent n f)) := ⟨_, rfl⟩
  have hmax : Format.binary64.targetExponent (totalExponent m e - totalExponent n f) =
      max (m.log2 + e - (n.log2 + f) - 53) (-1074) := by
    rw [targetExponent_binary64]
    change max ((m.log2 : Int) + 1 + e - (n.log2 + 1 + f) - 53) (-1074) = _
    omega
  rw [hmax] at ht
  obtain ⟨s, hs⟩ : ∃ s : Nat, e - f - t = s := ⟨_, (Int.toNat_of_nonneg (by omega)).symm⟩
  have henough : t ≤ Format.binary64.targetExponent (totalExponent (m * twoPow s / n) t) := by
    rw [targetExponent_eq]
    by_cases hleast : t ≤ -1074
    · omega
    · have hlog := le_log2_div (k := 52) hm hn (s := s) (by omega)
      omega
  obtain ⟨p, q, hscale⟩ : ∃ p q : Nat, (q : Int) = p + t + 1074 :=
    ⟨(-t - 1074).toNat, (t + 1074).toNat, by omega⟩
  have hround := roundWithAccuracy_rounds hn hscale henough
  have hcore : UnpackedFloat.div Format.binary64 (.finite .positive m e hm)
      (.finite .positive n f hn) = roundWithAccuracy Format.binary64 .positive (m * twoPow s / n) t
        (accuracyOfFraction (m * twoPow s % n) n) := by
    unfold UnpackedFloat.div divCore
    dsimp only
    rw [hmax, ← ht, hs, Int.toNat_natCast, Nat.shiftLeft_eq]
    rfl
  rw [hcore]
  have hsame : nearestBits (m * twoPow (e + 1074).toNat * twoPow 1074)
      (n * twoPow (f + 1074).toNat) = nearestBits (m * twoPow s * twoPow q) (n * twoPow p) := by
    refine nearestBits_congr (Nat.mul_pos hn (twoPow_pos _)) (Nat.mul_pos hn (twoPow_pos _)) ?_
    have hexp : (e + 1074).toNat + 1074 + p = s + q + (f + 1074).toNat := by omega
    calc m * twoPow (e + 1074).toNat * twoPow 1074 * (n * twoPow p)
        = m * n * twoPow ((e + 1074).toNat + 1074 + p) := by rw [twoPow_add, twoPow_add]; ring
      _ = m * twoPow s * twoPow q * (n * twoPow (f + 1074).toNat) := by
        rw [hexp, twoPow_add, twoPow_add]
        ring
  rw [hsame]
  exact hround

theorem roundWithAccuracy_exact_rounds {m p q : Nat} {e : Int} (hscale : (q : Int) = p + e + 1074)
    (he : e ≤ Format.binary64.targetExponent (totalExponent m e)) :
    Rounds (nearestBits (m * twoPow q) (1 * twoPow p))
      (roundWithAccuracy Format.binary64 .positive m e .exact) := by
  have hround := roundWithAccuracy_rounds (a := m) Nat.one_pos hscale (by rwa [Nat.div_one])
  rw [Nat.div_one, Nat.mod_one] at hround
  exact hround

theorem log2_mul_twoPow {n : Nat} (hn : 0 < n) (s : Nat) :
    (n * twoPow s).log2 = n.log2 + s := by
  have hlog := log2_div_scaled (a := n) Nat.one_pos (by rw [Nat.div_one]; exact hn.ne') 0 s
  rwa [show 1 * twoPow 0 = 1 from rfl, Nat.div_one, Nat.div_one, Nat.sub_zero] at hlog

/-- A natural is read as the double nearest to it. -/
theorem ofNat_rounds (n : Nat) :
    Rounds (nearestBits (n * twoPow 1074) 1) (UnpackedFloat.ofNat Format.binary64 n) := by
  rcases Nat.eq_zero_or_pos n with rfl | hn
  · exact .zero (by decide +kernel)
  · -- bits are appended to a short natural until it has as many as a double
    have htarget := targetExponent_eq n 0
    obtain ⟨t, ht⟩ : ∃ t, t = max ((n.log2 : Int) + 0 - 52) (-1074) := ⟨_, rfl⟩
    rw [← ht] at htarget
    obtain ⟨s, hs⟩ : ∃ s, (0 - t).toNat = s := ⟨_, rfl⟩
    have hround : UnpackedFloat.ofNat Format.binary64 n =
        roundWithAccuracy Format.binary64 .positive (n * twoPow s) (0 - s) .exact := by
      unfold UnpackedFloat.ofNat UnpackedFloat.ofInt UnpackedFloat.normalize UnpackedFloat.round
        decreaseExponent
      rw [Int.compare_eq_gt.mpr (by omega)]
      dsimp only
      rw [Int.toNat_natCast, htarget, hs, Nat.shiftLeft_eq]
      rfl
    have hlog := log2_mul_twoPow hn s
    rw [hround]
    obtain ⟨q, hq⟩ : ∃ q, 1074 = s + q := ⟨1074 - s, by omega⟩
    have hrounds := roundWithAccuracy_exact_rounds (m := n * twoPow s) (e := 0 - s) (p := 0)
      (q := q) (by omega) (by rw [targetExponent_eq, hlog]; omega)
    rw [Nat.mul_assoc, ← twoPow_add, ← hq] at hrounds
    exact hrounds

/-! ## Exact operands -/

/-- The integers of 64 bits are far from being infinite. -/
theorem nearestBits_lt_infinityBits {a b : Nat} (hb : 0 < b)
    (h : a ≤ twoPow 63 * twoPow 1074 * b) : nearestBits a b < infinityBits := by
  have hquanta : quantaOf (1086 * twoPow 52) = twoPow 63 * twoPow 1074 := by decide +kernel
  refine Nat.lt_of_le_of_lt
    (nearestBits_mono hb Nat.one_pos (c := quantaOf (1086 * twoPow 52)) ?_) ?_
  · rw [Nat.mul_one, hquanta]
    exact h
  · rw [nearestBits_quanta]
    decide

/-- The quotient of two doubles without a sign. -/
theorem toBits_div {x y : Float} (hx : x.toBits.toNat < infinityBits)
    (hy : y.toBits.toNat < infinityBits) (hpos : 0 < y.toBits.toNat) :
    (x / y).toBits.toNat = min infinityBits
      (nearestBits (quantaOf x.toBits.toNat * twoPow 1074) (quantaOf y.toBits.toNat)) := by
  have hux := unpacks_of_toBits_le hx.le
  have huy := unpacks_of_toBits_le hy.le
  change (UnpackedFloat.pack Format.binary64
    (UnpackedFloat.div Format.binary64 x.toModel.unpack y.toModel.unpack)).toNat = _
  revert hux huy
  generalize x.toModel.unpack = u
  generalize y.toModel.unpack = v
  intro hux huy
  cases huy with
  | infinity h => omega
  | notANumber h => omega
  | zero h => omega
  | finite hn hd hlt =>
    cases hux with
    | infinity h => omega
    | notANumber h => omega
    | zero h =>
      rw [h, show quantaOf 0 = 0 from rfl, Nat.zero_mul, hd.quantaOf_eq,
        nearestBits_eq_zero (Nat.mul_pos hn (twoPow_pos _))]
      rfl
    | finite hm hd' hlt' =>
      rw [hd.quantaOf_eq, hd'.quantaOf_eq]
      exact toNat_pack (div_rounds hm hn hd'.least hd.least)

theorem toBits_toFloat {n : Nat} (hn : n < twoPow 53) :
    n.toUInt64.toFloat.toBits.toNat < infinityBits ∧
      quantaOf n.toUInt64.toFloat.toBits.toNat = n * twoPow 1074 := by
  have hnat : n.toUInt64.toNat = n := Nat.mod_eq_of_lt (Nat.lt_trans hn (by decide))
  have hlt : nearestBits (n * twoPow 1074) 1 < infinityBits := by
    refine nearestBits_lt_infinityBits Nat.one_pos ?_
    rw [Nat.mul_one]
    exact Nat.mul_le_mul_right _ (hn.le.trans (by decide))
  have hbits : n.toUInt64.toFloat.toBits.toNat = nearestBits (n * twoPow 1074) 1 := by
    change (UnpackedFloat.pack Format.binary64
      (UnpackedFloat.ofNat Format.binary64 n.toUInt64.toNat)).toNat = _
    rw [hnat, toNat_pack (ofNat_rounds n), Nat.min_eq_right hlt.le]
  rw [hbits, quantaOf_nearestBits_of_lt hn]
  exact ⟨hlt, rfl⟩

/-- The tabulated powers of ten are exact. -/
theorem toBits_powerOfTen : ∀ k : Fin 23,
    let x := Float.exactlyRepresentablePowersOfTen[k.val]
    0 < x.toBits.toNat ∧ x.toBits.toNat < infinityBits ∧
      quantaOf x.toBits.toNat = tenPow k * twoPow 1074 := by
  decide +kernel

/-! ## Decimals -/

/-- Division by a power of ten that is far larger leaves nothing. -/
theorem nearestBits_of_tiny {n k : Nat} (h : 2048 + n.log2 < k) :
    nearestBits (n * twoPow 1074) (tenPow k) = 0 := by
  have hsmall : n * twoPow 1074 * 2 < tenPow k := by
    calc n * twoPow 1074 * 2 = n * twoPow 1075 := by rw [twoPow_add 1074 1, ← Nat.mul_assoc]; rfl
      _ < twoPow (n.log2 + 1) * twoPow 1075 :=
        Nat.mul_lt_mul_of_pos_right Nat.lt_log2_self (twoPow_pos 1075)
      _ = twoPow (n.log2 + 1 + 1075) := (twoPow_add _ _).symm
      _ ≤ twoPow k := twoPow_mono (by omega)
      _ ≤ tenPow k := Nat.pow_le_pow_left (by decide) k
  exact nearestBits_eq_zero (by omega)

/-- A product with one is the natural itself. -/
theorem mul_one_rounds {n : Nat} (hn : 0 < n) (h : 0 < n <<< 53) (h' : 0 < 10 ^ 0) :
    Rounds (nearestBits (n * twoPow 1074) 1)
      (UnpackedFloat.mul Format.binary64 (.finite .positive (n <<< 53) (-(53 : Nat)) h)
        (.finite .positive (10 ^ 0) 0 h')) := by
  have hmul : UnpackedFloat.mul Format.binary64 (.finite .positive (n <<< 53) (-(53 : Nat)) h)
      (.finite .positive (10 ^ 0) 0 h') =
        roundWithAccuracy Format.binary64 .positive (n * twoPow 53) (-(53 : Nat)) .exact := by
    unfold UnpackedFloat.mul
    dsimp only
    rw [Nat.pow_zero, Nat.mul_one, Nat.shiftLeft_eq]
    rfl
  rw [hmul]
  have hrounds := roundWithAccuracy_exact_rounds (m := n * twoPow 53) (e := -(53 : Nat)) (p := 0)
    (q := 1021) (by omega) (by rw [targetExponent_eq, log2_mul_twoPow hn]; omega)
  rw [Nat.mul_assoc, ← twoPow_add] at hrounds
  exact hrounds

/-- A quotient with a power of ten. -/
theorem div_tenPow_rounds {n k j : Nat} (hn : 0 < n) (hj : j = k) (h : 0 < 10 ^ j) :
    Rounds (nearestBits (n * twoPow 1074) (tenPow k))
      (UnpackedFloat.div Format.binary64 (.finite .positive n 0 hn)
        (.finite .positive (10 ^ j) 0 h)) := by
  subst hj
  have hrounds := div_rounds (e := 0) (f := 0) hn h (by decide) (by decide)
  have hsame : nearestBits (n * twoPow 1074 * twoPow 1074) (tenPow j * twoPow 1074) =
      nearestBits (n * twoPow 1074) (tenPow j) :=
    nearestBits_congr (Nat.mul_pos (tenPow_pos j) (twoPow_pos _)) (tenPow_pos j) (by ring)
  rw [← hsame]
  exact hrounds

/-- Decimals that are too long for one division are read exactly as well. -/
theorem ofScientific_rounds (n k : Nat) :
    Rounds (nearestBits (n * twoPow 1074) (tenPow k))
      (UnpackedFloat.ofScientific Format.binary64 n (Int.negOfNat k)) := by
  have hneg : Int.negOfNat k = -(k : Int) := Int.negOfNat_eq
  have hguard : (2 : Int) ^ Format.binary64.exponentBits = 2048 := rfl
  rw [hneg]
  unfold UnpackedFloat.ofScientific
  rw [hguard]
  by_cases hn : n = 0
  · rw [dif_pos hn, hn, Nat.zero_mul, nearestBits_eq_zero (tenPow_pos k)]
    exact .zero rfl
  · have hpos : 0 < n := Nat.pos_of_ne_zero hn
    rw [dif_neg hn, if_neg (by omega)]
    by_cases htiny : 2048 + n.log2 < k
    · rw [if_pos (by omega)]
      exact .zero (nearestBits_of_tiny htiny)
    · rw [if_neg (by omega)]
      by_cases hzero : k = 0
      · subst hzero
        rw [if_pos (by decide)]
        exact mul_one_rounds hpos _ _
      · rw [if_neg (by omega)]
        exact div_tenPow_rounds hpos (by omega) _

/-- **A decimal is read as the double nearest to it.** -/
theorem bits_ofScientific (n k : Nat) :
    (Float.ofScientific n true k).toBits.toNat =
      min infinityBits (nearestBits (n * twoPow 1074) (tenPow k)) := by
  unfold Float.ofScientific
  split
  · next h =>
    obtain ⟨hbits, hquanta⟩ := toBits_toFloat h.1
    obtain ⟨hpos, hlt, htable⟩ := toBits_powerOfTen ⟨k, by omega⟩
    dsimp only at hpos hlt htable
    rw [if_pos rfl, toBits_div hbits hlt hpos, hquanta, htable]
    refine congrArg (min infinityBits) (nearestBits_congr
      (Nat.mul_pos (tenPow_pos k) (twoPow_pos _)) (tenPow_pos k) ?_)
    ring
  · exact toNat_pack (ofScientific_rounds n k)

end ClusterRegistry.Decimal

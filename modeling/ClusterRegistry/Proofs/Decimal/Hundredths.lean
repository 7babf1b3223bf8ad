import ClusterRegistry.Proofs.Decimal.Scientific

/-!
# The hundredths of a double

The text of a double says a whole number of hundredths (`hundredthsOf`): the nearest one, but at
most the greatest integer of 64 bits. The larger double has the larger number of hundredths
(`hundredthsOf_mono`), and a decimal with two places is not changed by being read as a double and
written again, as long as the doubles about it are closer together than hundredths are
(`hundredthsOf_nearest`).
-/

namespace ClusterRegistry.Decimal

/-! ## Significand and exponent -/

/-- The two numbers that texts are computed from. -/
theorem denotes_ofFloat (x : Float) :
    Denotes (Binary.ofFloat x).m (Binary.ofFloat x).q (magnitude x) := by
  obtain ⟨hexponent, hfraction⟩ := fields_magnitude x
  have hsplit := Nat.div_add_mod' (magnitude x) (twoPow 52)
  have hlt := Nat.mod_lt (magnitude x) (twoPow_pos 52)
  unfold Binary.ofFloat
  dsimp only
  rw [show twoPow 11 = 2048 from rfl, hexponent, hfraction]
  generalize magnitude x = bits at *
  generalize bits % twoPow 52 = f at *
  split
  · next hzero =>
    rw [hzero, Nat.zero_mul, Nat.zero_add] at hsplit
    dsimp only
    refine ⟨Int.le_refl _, ?_, .inr rfl, by simp [hsplit]⟩
    rw [twoPow_fiftyThree]
    omega
  · next hne =>
    obtain ⟨k, hk⟩ := Nat.exists_eq_add_one_of_ne_zero hne
    rw [hk] at hsplit ⊢
    dsimp only
    have hnat : (((k + 1 : Nat) : Int) - 1075 + 1074).toNat = k := by omega
    refine ⟨by omega, ?_, .inl (Nat.le_add_right _ _), ?_⟩
    · rw [twoPow_fiftyThree]
      omega
    · rw [hnat, ← hsplit]
      ring

variable (x : Float)

/-- The quotient that texts are computed from is the double in quanta. -/
theorem ofFloat_ratio :
    (Binary.ofFloat x).m * twoPow (Binary.ofFloat x).q.toNat * twoPow 1074 =
      quanta x * twoPow (-(Binary.ofFloat x).q).toNat := by
  have hd := denotes_ofFloat x
  have hleast := hd.least
  rw [quanta, hd.quantaOf_eq, Nat.mul_assoc, Nat.mul_assoc, ← twoPow_add, ← twoPow_add]
  congr 2
  omega

theorem units_eq (places : Nat) :
    (Binary.ofFloat x).units places =
      roundHalfEven (quanta x * tenPow places) (twoPow 1074) := by
  refine roundHalfEven_congr (twoPow_pos _) (twoPow_pos _) ?_
  rw [Nat.mul_right_comm, ofFloat_ratio, Nat.mul_right_comm]

theorem isIntegral_iff : isIntegral x = true ↔ twoPow 1074 ∣ quanta x := by
  have hratio := ofFloat_ratio x
  unfold isIntegral
  dsimp only
  rw [beq_iff_eq, ← Nat.dvd_iff_mod_eq_zero]
  constructor
  · rintro ⟨t, ht⟩
    rw [ht, Nat.mul_assoc, Nat.mul_comm] at hratio
    exact ⟨t, (Nat.eq_of_mul_eq_mul_right (twoPow_pos _) hratio).symm.trans (Nat.mul_comm _ _)⟩
  · rintro ⟨t, ht⟩
    rw [ht, Nat.mul_comm, Nat.mul_assoc] at hratio
    exact ⟨t, (Nat.eq_of_mul_eq_mul_left (twoPow_pos _) hratio).trans (Nat.mul_comm _ _)⟩

theorem truncate_eq : truncate x = (signOf x).apply (quanta x / twoPow 1074 : Nat) := by
  have hquot : (Binary.ofFloat x).m * twoPow (Binary.ofFloat x).q.toNat /
      twoPow (-(Binary.ofFloat x).q).toNat = quanta x / twoPow 1074 := by
    rw [← Nat.mul_div_mul_right _ _ (twoPow_pos 1074), ofFloat_ratio, Nat.mul_comm (quanta x),
      Nat.mul_div_mul_left _ _ (twoPow_pos _)]
  unfold truncate signOf
  dsimp only
  rw [hquot]
  cases isNegative x <;> rfl

/-- Doubles from `2 ^ 52` on are integers. -/
theorem quanta_lt_of_not_dvd {x : Float} (h : ¬twoPow 1074 ∣ quanta x) :
    quanta x < twoPow 52 * twoPow 1074 := by
  have hd := denotes_ofFloat x
  have hleast := hd.least
  have hsmall := hd.lt
  rw [quanta, hd.quantaOf_eq] at h ⊢
  have hexponent : (Binary.ofFloat x).q < 0 := by
    by_contra hge
    obtain ⟨k, hk⟩ : ∃ k, ((Binary.ofFloat x).q + 1074).toNat = k + 1074 :=
      ⟨(Binary.ofFloat x).q.toNat, by omega⟩
    rw [hk, twoPow_add, ← Nat.mul_assoc] at h
    exact h (Nat.dvd_mul_left _ _)
  obtain ⟨k, hk⟩ : ∃ k, ((Binary.ofFloat x).q + 1074).toNat = k := ⟨_, rfl⟩
  rw [hk]
  calc (Binary.ofFloat x).m * twoPow k
      < twoPow 53 * twoPow k := Nat.mul_lt_mul_of_pos_right hsmall (twoPow_pos k)
    _ = twoPow 52 * twoPow (k + 1) := by
        rw [twoPow_add k 1, twoPow_fiftyThree, show twoPow 1 = 2 from rfl]
        ring
    _ ≤ twoPow 52 * twoPow 1074 :=
        Nat.mul_le_mul_left _ (twoPow_mono (by omega))

/-! ## Hundredths -/

/-- The largest number of hundredths that a text says. -/
def mostHundredths : Nat := (twoPow 63 - 1) * 100

/-- How many hundredths the text of a double of so many quanta says. -/
def hundredthsOf (n : Nat) : Nat := min (roundHalfEven (n * 100) (twoPow 1074)) mostHundredths

variable {m n c : Nat} {x}

theorem hundredthsOf_le (n : Nat) : hundredthsOf n ≤ mostHundredths := Nat.min_le_right _ _

/-- **The larger double has the larger number of hundredths.** -/
theorem hundredthsOf_mono (h : m ≤ n) : hundredthsOf m ≤ hundredthsOf n :=
  min_le_min_right _ (roundHalfEven_mono (twoPow_pos _) (twoPow_pos _)
    (Nat.mul_le_mul_right _ (Nat.mul_le_mul_right _ h)))

theorem hundredthsOf_mul (n : Nat) :
    hundredthsOf (n * twoPow 1074) = min n (twoPow 63 - 1) * 100 := by
  rw [hundredthsOf, Nat.mul_right_comm, roundHalfEven_mul_right _ (twoPow_pos _), mostHundredths,
    ← Nat.mul_min_mul_right]

theorem hundredthsOf_of_not_dvd (h : ¬twoPow 1074 ∣ quanta x) :
    hundredthsOf (quanta x) = roundHalfEven (quanta x * 100) (twoPow 1074) := by
  refine Nat.min_eq_left (Nat.le_trans (roundHalfEven_le (n := twoPow 52 * 100) (twoPow_pos _) ?_)
    (by decide))
  rw [Nat.mul_right_comm]
  exact Nat.mul_le_mul_right _ (quanta_lt_of_not_dvd h).le

/-- **What has two places is written as it was read**, if it is below `2 ^ 46`. -/
theorem hundredthsOf_nearest (hc : c < twoPow 46 * 100) :
    hundredthsOf (quantaOf (nearestBits (c * twoPow 1074) 100)) = c := by
  have hgap : gap (c * twoPow 1074) 100 ≤ 1067 := by
    refine gap_le_of_lt (by decide) ?_
    calc c * twoPow 1074 < twoPow 46 * 100 * twoPow 1074 :=
          Nat.mul_lt_mul_of_pos_right hc (twoPow_pos _)
      _ = twoPow (46 + 1074) * 100 := by rw [twoPow_add]; ring
      _ = twoPow (53 + 1067) * 100 := congrArg (twoPow · * 100) (by decide)
  rw [quantaOf_nearestBits (by decide)]
  obtain ⟨hlow, hhigh⟩ := roundHalfEven_within (c * twoPow 1074)
    (Nat.mul_pos (by decide : 0 < 100) (twoPow_pos (gap (c * twoPow 1074) 100)))
  generalize roundHalfEven (c * twoPow 1074) (100 * twoPow (gap (c * twoPow 1074) 100)) = r at *
  -- a gap is less than a hundredth, so that half of it does not reach midway between two of them
  have hsmall : 100 * twoPow (gap (c * twoPow 1074) 100) < twoPow 1074 := by
    calc 100 * twoPow (gap (c * twoPow 1074) 100) ≤ 100 * twoPow 1067 :=
          Nat.mul_le_mul_left _ (twoPow_mono hgap)
      _ < twoPow 7 * twoPow 1067 := Nat.mul_lt_mul_of_pos_right (by decide) (twoPow_pos _)
      _ = twoPow 1074 := (twoPow_add 7 1067).symm
  generalize twoPow (gap (c * twoPow 1074) 100) = w at *
  have hround : roundHalfEven (r * w * 100) (twoPow 1074) = c := by
    refine roundHalfEven_eq (twoPow_pos _) ?_ ?_ <;> linarith
  have hmost : twoPow 46 * 100 ≤ mostHundredths := by decide
  rw [hundredthsOf, hround]
  exact Nat.min_eq_left (by omega)

end ClusterRegistry.Decimal

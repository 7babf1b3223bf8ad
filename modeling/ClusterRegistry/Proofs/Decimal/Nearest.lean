import Mathlib.Data.Nat.Log
import Mathlib.Tactic.Linarith
import Mathlib.Tactic.Ring
import ClusterRegistry.Decimal.Binary

/-!
# The nearest double

Every finite double is a whole number of quanta, a quantum being the least positive double. Its
bits without the sign are a natural number as well, and both numbers are in the same order. So the
double nearest to a quotient of naturals can be told without an exponent that has a sign: the
doubles about the quotient are spaced by a power of two (`gap`), on which the quotient is rounded,
half to even, and where rounding reaches the next power of two, so do the bits (`nearestBits`).

The larger quotient has the larger double (`nearestBits_mono`), and what is a double already is its
own nearest one (`nearestBits_quanta`). From these two follows everything that is asked about
doubles and their texts.
-/

namespace ClusterRegistry.Decimal

theorem twoPow_pos (n : Nat) : 0 < twoPow n := Nat.two_pow_pos n

theorem twoPow_add (m n : Nat) : twoPow (m + n) = twoPow m * twoPow n := Nat.pow_add 2 m n

theorem twoPow_mono {m n : Nat} (h : m ≤ n) : twoPow m ≤ twoPow n :=
  Nat.pow_le_pow_right (by decide) h

theorem log2_lt_of_lt {n k : Nat} (hk : 0 < k) (h : n < twoPow k) : n.log2 < k := by
  by_cases hn : n = 0
  · rwa [hn, Nat.log2_zero]
  · exact (Nat.log2_lt hn).mpr h

theorem tenPow_pos (n : Nat) : 0 < tenPow n := Nat.pow_pos (by decide)

/-! ## Rounded quotients -/

variable {a b c d n : Nat}

/-- A quotient lies within a half of what it is rounded to. -/
theorem roundHalfEven_within (a : Nat) (hb : 0 < b) :
    2 * a ≤ (2 * roundHalfEven a b + 1) * b ∧ 2 * roundHalfEven a b * b ≤ 2 * a + b := by
  have hdiv := Nat.div_add_mod a b
  have hmod := Nat.mod_lt a hb
  have hsplit : 2 * (a / b) * b + 2 * (a % b) = 2 * a := by
    nth_rewrite 3 [← hdiv]
    ring
  have hnonneg := Nat.zero_le (a % b)
  unfold roundHalfEven
  dsimp only
  split
  · next h =>
    rw [Nat.compare_eq_lt] at h
    constructor <;> linarith
  · next h =>
    rw [Nat.compare_eq_gt] at h
    constructor <;> linarith
  · next h =>
    rw [Nat.compare_eq_eq] at h
    split <;> constructor <;> linarith

/-- What lies within less than a half of a natural is rounded to it. -/
theorem roundHalfEven_eq (hb : 0 < b) (hlow : 2 * a < (2 * n + 1) * b)
    (hhigh : 2 * n * b < 2 * a + b) : roundHalfEven a b = n := by
  obtain ⟨hle, hge⟩ := roundHalfEven_within a hb
  generalize roundHalfEven a b = m at *
  have hmn : m < n + 1 := by
    refine Nat.lt_of_mul_lt_mul_right (a := 2 * b) ?_
    linarith
  have hnm : n < m + 1 := by
    refine Nat.lt_of_mul_lt_mul_right (a := 2 * b) ?_
    linarith
  omega

/-- Midway between two naturals the even one is taken. -/
theorem even_roundHalfEven_of_tie (hb : 0 < b) {k : Nat} (h : 2 * a = (2 * k + 1) * b) :
    roundHalfEven a b % 2 = 0 := by
  have hdiv := Nat.div_add_mod a b
  have hmod := Nat.mod_lt a hb
  have hquot : a / b = k := by
    refine Nat.div_eq_of_lt_le ?_ ?_ <;> linarith
  have htie : 2 * (a % b) = b := by
    rw [hquot] at hdiv
    linarith
  unfold roundHalfEven
  dsimp only
  rw [htie, Nat.compare_eq_eq.mpr rfl, hquot]
  dsimp only
  split <;> omega

/-- The larger quotient is rounded to the larger number. -/
theorem roundHalfEven_mono (hb : 0 < b) (hd : 0 < d) (h : a * d ≤ c * b) :
    roundHalfEven a b ≤ roundHalfEven c d := by
  by_contra hlt
  obtain ⟨k, hk⟩ : ∃ k, roundHalfEven a b = roundHalfEven c d + k + 1 :=
    ⟨roundHalfEven a b - roundHalfEven c d - 1, by omega⟩
  have hlow := (roundHalfEven_within a hb).2
  have hhigh := (roundHalfEven_within c hd).1
  have hbd := Nat.mul_pos hb hd
  rw [hk] at hlow
  -- both quotients lie midway, so that both were rounded to an even number
  have hlow' := Nat.mul_le_mul_right d hlow
  have hhigh' := Nat.mul_le_mul_right b hhigh
  have hk0 : k = 0 := by
    by_contra hne
    have hpos : 1 ≤ k := Nat.one_le_iff_ne_zero.mpr hne
    nlinarith
  subst hk0
  have htie : 2 * a = (2 * roundHalfEven c d + 1) * b := by
    refine Nat.le_antisymm ?_ ?_
    · refine Nat.le_of_mul_le_mul_right ?_ hd
      nlinarith
    · linarith
  have htie' : 2 * c = (2 * roundHalfEven c d + 1) * d := by
    refine Nat.le_antisymm hhigh ?_
    refine Nat.le_of_mul_le_mul_right ?_ hb
    nlinarith
  have heven := even_roundHalfEven_of_tie hb htie
  have heven' := even_roundHalfEven_of_tie hd htie'
  omega

/-- Equal quotients are rounded alike, however they are written. -/
theorem roundHalfEven_congr (hb : 0 < b) (hd : 0 < d) (h : a * d = c * b) :
    roundHalfEven a b = roundHalfEven c d :=
  Nat.le_antisymm (roundHalfEven_mono hb hd h.le) (roundHalfEven_mono hd hb h.ge)

/-- What is a natural is not rounded. -/
theorem roundHalfEven_mul_right (n : Nat) (hb : 0 < b) : roundHalfEven (n * b) b = n :=
  roundHalfEven_eq hb (by linarith) (by linarith)

theorem le_roundHalfEven (hb : 0 < b) (h : n * b ≤ a) : n ≤ roundHalfEven a b := by
  rw [← roundHalfEven_mul_right n hb]
  exact roundHalfEven_mono hb hb (Nat.mul_le_mul_right b h)

theorem roundHalfEven_le (hb : 0 < b) (h : a ≤ n * b) : roundHalfEven a b ≤ n := by
  rw [← roundHalfEven_mul_right n hb]
  exact roundHalfEven_mono hb hb (Nat.mul_le_mul_right b h)

/-! ## Nearest doubles -/

/-- The bits of the infinite double. -/
def infinityBits : Nat := 2047 * twoPow 52

/-- The spacing of the doubles about a quotient of quanta, as a power of two. -/
def gap (a b : Nat) : Nat := (a / b).log2 - 52

/-- The bits of the double nearest to a quotient of quanta, half to even, as if the exponent were
not limited. -/
def nearestBits (a b : Nat) : Nat :=
  gap a b * twoPow 52 + roundHalfEven a (b * twoPow (gap a b))

/-- How many quanta the finite double with the given bits and no sign is. -/
def quantaOf (bits : Nat) : Nat :=
  if bits / twoPow 52 = 0 then bits % twoPow 52
  else (twoPow 52 + bits % twoPow 52) * twoPow (bits / twoPow 52 - 1)

theorem gap_le_of_lt (hb : 0 < b) {k : Nat} (h : a < twoPow (53 + k) * b) : gap a b ≤ k := by
  have hlog := log2_lt_of_lt (by omega) ((Nat.div_lt_iff_lt_mul hb).mpr h)
  unfold gap
  omega

/-- A quotient is less than `2 ^ 53` gaps. -/
theorem lt_of_gap (hb : 0 < b) : a < twoPow 53 * (b * twoPow (gap a b)) := by
  have hquot : a / b < twoPow 53 * twoPow (gap a b) := by
    calc a / b < 2 ^ ((a / b).log2 + 1) := Nat.lt_log2_self
      _ ≤ twoPow (53 + gap a b) := twoPow_mono (by unfold gap; omega)
      _ = twoPow 53 * twoPow (gap a b) := twoPow_add _ _
  have hlt := (Nat.div_lt_iff_lt_mul hb).mp hquot
  calc a < twoPow 53 * twoPow (gap a b) * b := hlt
    _ = twoPow 53 * (b * twoPow (gap a b)) := by ring

/-- A quotient is at least `2 ^ 52` gaps, unless these are a quantum each. -/
theorem le_of_gap (hb : 0 < b) (h : gap a b ≠ 0) : twoPow 52 * (b * twoPow (gap a b)) ≤ a := by
  have hlog : (a / b).log2 = 52 + gap a b := by
    unfold gap at h ⊢
    omega
  have hne : a / b ≠ 0 := by
    intro hzero
    rw [hzero, Nat.log2_zero] at hlog
    omega
  have hquot : twoPow 52 * twoPow (gap a b) ≤ a / b := by
    calc twoPow 52 * twoPow (gap a b) = 2 ^ (a / b).log2 := by rw [hlog, ← twoPow_add]; rfl
      _ ≤ a / b := Nat.log2_self_le hne
  calc twoPow 52 * (b * twoPow (gap a b)) = twoPow 52 * twoPow (gap a b) * b := by ring
    _ ≤ a := (Nat.le_div_iff_mul_le hb).mp hquot

theorem roundHalfEven_gap_le (hb : 0 < b) :
    roundHalfEven a (b * twoPow (gap a b)) ≤ twoPow 53 :=
  roundHalfEven_le (Nat.mul_pos hb (twoPow_pos _)) (lt_of_gap hb).le

theorem le_roundHalfEven_gap (hb : 0 < b) (h : gap a b ≠ 0) :
    twoPow 52 ≤ roundHalfEven a (b * twoPow (gap a b)) :=
  le_roundHalfEven (Nat.mul_pos hb (twoPow_pos _)) (le_of_gap hb h)

/-- The larger quotient has the larger gap. -/
theorem gap_mono (hb : 0 < b) (hd : 0 < d) (h : a * d ≤ c * b) : gap a b ≤ gap c d := by
  have hquot : a / b ≤ c / d := by
    refine (Nat.le_div_iff_mul_le hd).mpr (Nat.le_of_mul_le_mul_right ?_ hb)
    calc a / b * d * b = a / b * b * d := by ring
      _ ≤ a * d := Nat.mul_le_mul_right d (Nat.div_mul_le_self a b)
      _ ≤ c * b := h
  unfold gap
  have hlog : (a / b).log2 ≤ (c / d).log2 := by
    rw [Nat.log2_eq_log_two, Nat.log2_eq_log_two]
    exact Nat.log_mono_right hquot
  omega

/-- **The larger quotient has the larger nearest double.** -/
theorem nearestBits_mono (hb : 0 < b) (hd : 0 < d) (h : a * d ≤ c * b) :
    nearestBits a b ≤ nearestBits c d := by
  unfold nearestBits
  rcases (gap_mono hb hd h).lt_or_eq with hlt | heq
  · -- rounding on the smaller gaps reaches at most where the larger ones start
    have hlow := roundHalfEven_gap_le (a := a) hb
    have hhigh := le_roundHalfEven_gap (a := c) hd (by omega)
    have hdouble : twoPow 53 = twoPow 52 + twoPow 52 := rfl
    have hstep : (gap a b + 1) * twoPow 52 ≤ gap c d * twoPow 52 := Nat.mul_le_mul_right _ hlt
    rw [Nat.add_mul, Nat.one_mul] at hstep
    omega
  · rw [heq]
    refine Nat.add_le_add_left (roundHalfEven_mono (Nat.mul_pos hb (twoPow_pos _))
      (Nat.mul_pos hd (twoPow_pos _)) ?_) _
    calc a * (d * twoPow (gap c d)) = a * d * twoPow (gap c d) := by ring
      _ ≤ c * b * twoPow (gap c d) := Nat.mul_le_mul_right _ h
      _ = c * (b * twoPow (gap c d)) := by ring

/-- Equal quotients have one nearest double. -/
theorem nearestBits_congr (hb : 0 < b) (hd : 0 < d) (h : a * d = c * b) :
    nearestBits a b = nearestBits c d :=
  Nat.le_antisymm (nearestBits_mono hb hd h.le) (nearestBits_mono hd hb h.ge)

/-- **A double is the one nearest to itself.** -/
theorem nearestBits_quanta (bits : Nat) : nearestBits (quantaOf bits) 1 = bits := by
  have hsplit := Nat.div_add_mod bits (twoPow 52)
  have hfraction := Nat.mod_lt bits (twoPow_pos 52)
  unfold quantaOf
  split
  · next hzero =>
    -- below the least normal double the gaps are quanta
    have hgap : gap (bits % twoPow 52) 1 = 0 :=
      Nat.le_zero.mp (gap_le_of_lt Nat.one_pos (hfraction.trans (by decide)))
    rw [nearestBits, hgap, Nat.zero_mul, Nat.zero_add, Nat.one_mul]
    have hround := roundHalfEven_mul_right (bits % twoPow 52) (twoPow_pos 0)
    rw [hzero, Nat.mul_zero, Nat.zero_add] at hsplit
    rw [show twoPow 0 = 1 from rfl, Nat.mul_one] at hround
    rw [show twoPow 0 = 1 from rfl, hround, hsplit]
  · next hexponent =>
    obtain ⟨k, hk⟩ := Nat.exists_eq_add_one_of_ne_zero hexponent
    rw [hk, Nat.add_sub_cancel]
    have hlog : ((twoPow 52 + bits % twoPow 52) * twoPow k).log2 = 52 + k := by
      rw [Nat.log2_eq_iff (Nat.mul_pos (by omega) (twoPow_pos k)).ne']
      constructor
      · calc 2 ^ (52 + k) = twoPow 52 * twoPow k := twoPow_add 52 k
          _ ≤ _ := Nat.mul_le_mul_right _ (Nat.le_add_right _ _)
      · have hdouble : twoPow 53 = twoPow 52 + twoPow 52 := rfl
        calc _ < twoPow 53 * twoPow k := Nat.mul_lt_mul_of_pos_right (by omega) (twoPow_pos k)
          _ = 2 ^ (52 + k + 1) := by rw [← twoPow_add]; unfold twoPow; congr 1; omega
    have hgap : gap ((twoPow 52 + bits % twoPow 52) * twoPow k) 1 = k := by
      rw [gap, Nat.div_one, hlog]
      omega
    rw [nearestBits, hgap, Nat.one_mul, roundHalfEven_mul_right _ (twoPow_pos k)]
    rw [hk] at hsplit
    linarith

/-- Less than half a quantum is nearest to zero. -/
theorem nearestBits_eq_zero (h : 2 * a < b) : nearestBits a b = 0 := by
  have hb : 0 < b := Nat.zero_lt_of_lt h
  have hlt : a < twoPow (53 + 0) * b :=
    calc a < b := by omega
      _ ≤ twoPow (53 + 0) * b := Nat.le_mul_of_pos_left b (twoPow_pos _)
  rw [nearestBits, Nat.le_zero.mp (gap_le_of_lt hb hlt), Nat.zero_mul, Nat.zero_add,
    show twoPow 0 = 1 from rfl, Nat.mul_one]
  exact roundHalfEven_eq hb (by omega) (by omega)

/-- Doubles without a sign are in the order of their bits. -/
theorem quantaOf_le_iff {bits bits' : Nat} : quantaOf bits ≤ quantaOf bits' ↔ bits ≤ bits' := by
  have hmono : ∀ {x y : Nat}, quantaOf x ≤ quantaOf y → x ≤ y := by
    intro x y hle
    rw [← nearestBits_quanta x, ← nearestBits_quanta y]
    exact nearestBits_mono Nat.one_pos Nat.one_pos (Nat.mul_le_mul_right 1 hle)
  refine ⟨hmono, fun hle => ?_⟩
  by_contra hlt
  have heq := Nat.le_antisymm hle (hmono (Nat.le_of_not_le hlt))
  exact hlt (by rw [heq])

end ClusterRegistry.Decimal

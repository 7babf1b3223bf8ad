import ClusterRegistry.Decimal.Binary
import ClusterRegistry.Proofs.Decimal.Nearest

/-!
# Doubles and their order

A double is compared and calculated with by its sign, its significand and its exponent. All of
this can be told by its sign and by the bits without the sign (`magnitude`, `unpacks`): they say
whether it is a number at all, and with the sign they are an integer (`key`) that is the larger, the
larger the number is (`lt_iff_key`).
-/

namespace ClusterRegistry.Decimal

open Float.Model Float.Model.UnpackedFloat

/-! ## Significands and exponents -/

/-- Whether a double with a significand and an exponent has the given bits, its sign aside. -/
structure Denotes (m : Nat) (e : Int) (bits : Nat) : Prop where
  least : -1074 ≤ e
  lt : m < twoPow 53
  normal : twoPow 52 ≤ m ∨ e = -1074
  eq : bits = (e + 1074).toNat * twoPow 52 + m

variable {m m' bits bits' : Nat} {e e' : Int}

theorem twoPow_fiftyThree : twoPow 53 = twoPow 52 + twoPow 52 := rfl

theorem Denotes.pos (h : Denotes m e bits) (hm : 0 < m) : 0 < bits := by
  rw [h.eq]
  exact Nat.add_pos_right _ hm

/-- A smaller exponent makes smaller bits, whatever the significands are. -/
theorem Denotes.lt_of_exponent (h : Denotes m e bits) (h' : Denotes m' e' bits') (he : e < e') :
    bits < bits' := by
  have hleast := h.least
  have hsmall := h.lt
  have hnormal : twoPow 52 ≤ m' := h'.normal.resolve_right (by omega)
  have hstep : ((e + 1074).toNat + 1) * twoPow 52 ≤ (e' + 1074).toNat * twoPow 52 :=
    Nat.mul_le_mul_right _ (by omega)
  rw [Nat.add_mul, Nat.one_mul] at hstep
  rw [twoPow_fiftyThree] at hsmall
  rw [h.eq, h'.eq]
  omega

/-- Doubles compare as their bits do. -/
theorem Denotes.compare_eq (h : Denotes m e bits) (h' : Denotes m' e' bits') :
    (compare e e').then (compare m m') = compare bits bits' := by
  rcases lt_trichotomy e e' with hlt | rfl | hgt
  · rw [compare_lt_iff_lt.mpr hlt, compare_lt_iff_lt.mpr (h.lt_of_exponent h' hlt)]
    rfl
  · rw [compare_eq_iff_eq.mpr rfl, h.eq, h'.eq]
    rcases lt_trichotomy m m' with hm | rfl | hm
    · rw [compare_lt_iff_lt.mpr hm, compare_lt_iff_lt.mpr (Nat.add_lt_add_left hm _)]
      rfl
    · rw [compare_eq_iff_eq.mpr rfl, compare_eq_iff_eq.mpr rfl]
      rfl
    · rw [compare_gt_iff_gt.mpr hm, compare_gt_iff_gt.mpr (Nat.add_lt_add_left hm _)]
      rfl
  · rw [compare_gt_iff_gt.mpr hgt, compare_gt_iff_gt.mpr (h'.lt_of_exponent h hgt)]
    rfl

theorem Denotes.quantaOf_eq (h : Denotes m e bits) :
    quantaOf bits = m * twoPow (e + 1074).toNat := by
  have hsmall := h.lt
  rw [twoPow_fiftyThree] at hsmall
  have hpos := twoPow_pos 52
  obtain hsub | ⟨hlarge, k, hk⟩ :
      (m < twoPow 52 ∧ e = -1074) ∨ (twoPow 52 ≤ m ∧ ∃ k : Nat, (e + 1074).toNat = k) := by
    rcases Nat.lt_or_ge m (twoPow 52) with hlt | hge
    · exact .inl ⟨hlt, h.normal.resolve_left (Nat.not_le.mpr hlt)⟩
    · exact .inr ⟨hge, _, rfl⟩
  · obtain ⟨hlt, rfl⟩ := hsub
    have hbits : bits = m := by rw [h.eq]; simp
    rw [quantaOf, hbits, Nat.div_eq_of_lt hlt, if_pos rfl, Nat.mod_eq_of_lt hlt]
    exact (Nat.mul_one m).symm
  · obtain ⟨f, rfl⟩ := Nat.exists_eq_add_of_le hlarge
    have hbits : bits = f + (k + 1) * twoPow 52 := by
      rw [h.eq, hk]
      ring
    have hf : f < twoPow 52 := by omega
    rw [quantaOf, hbits, Nat.add_mul_div_right _ _ hpos, Nat.div_eq_of_lt hf, Nat.zero_add,
      if_neg (Nat.succ_ne_zero k), Nat.add_mul_mod_self_right, Nat.mod_eq_of_lt hf, hk,
      Nat.add_sub_cancel]

theorem Denotes.eq_zero (h : Denotes 0 e bits) : bits = 0 := by
  have he : e = -1074 := h.normal.resolve_left (by decide)
  rw [h.eq, he]
  rfl

theorem Denotes.lt_infinityBits_iff (h : Denotes m e bits) : bits < infinityBits ↔ e < 972 := by
  have hleast := h.least
  have hsmall := h.lt
  have hnormal := h.normal
  have htop : infinityBits = 2046 * twoPow 52 + twoPow 52 := rfl
  rw [h.eq]
  constructor
  · intro hlt
    by_contra hge
    have hstep : 2046 * twoPow 52 ≤ (e + 1074).toNat * twoPow 52 :=
      Nat.mul_le_mul_right _ (by omega)
    omega
  · intro hlt
    have hstep : ((e + 1074).toNat + 1) * twoPow 52 ≤ 2046 * twoPow 52 :=
      Nat.mul_le_mul_right _ (by omega)
    rw [Nat.add_mul, Nat.one_mul] at hstep
    rw [twoPow_fiftyThree] at hsmall
    omega

section Nearest

variable {a b : Nat}

/-- What a quotient is rounded to on its gaps is the significand of the nearest double. -/
theorem denotes_nearestBits (hb : 0 < b)
    (h : roundHalfEven a (b * twoPow (gap a b)) < twoPow 53) :
    Denotes (roundHalfEven a (b * twoPow (gap a b))) ((gap a b : Int) - 1074)
      (nearestBits a b) := by
  refine ⟨by omega, h, ?_, by unfold nearestBits; congr 2; omega⟩
  by_cases hleast : gap a b = 0
  · exact .inr (by omega)
  · exact .inl (le_roundHalfEven_gap hb hleast)

/-- Where rounding reaches one bit more, the nearest double has half the significand and twice the
gap. -/
theorem denotes_nearestBits_carry (h : roundHalfEven a (b * twoPow (gap a b)) = twoPow 53) :
    Denotes (twoPow 52) ((gap a b : Int) - 1074 + 1) (nearestBits a b) := by
  refine ⟨by omega, by decide, .inl (Nat.le_refl _), ?_⟩
  have hnext : ((gap a b : Int) - 1074 + 1 + 1074).toNat = gap a b + 1 := by omega
  rw [nearestBits, h, hnext, twoPow_fiftyThree]
  ring

/-- How many quanta the nearest double is. -/
theorem quantaOf_nearestBits (hb : 0 < b) :
    quantaOf (nearestBits a b) =
      roundHalfEven a (b * twoPow (gap a b)) * twoPow (gap a b) := by
  rcases (roundHalfEven_gap_le hb).lt_or_eq with h | h
  · rw [(denotes_nearestBits hb h).quantaOf_eq]
    congr 2
    omega
  · have hnext : ((gap a b : Int) - 1074 + 1 + 1074).toNat = 1 + gap a b := by omega
    rw [(denotes_nearestBits_carry h).quantaOf_eq, h, hnext, twoPow_add, ← Nat.mul_assoc]
    rfl

/-- Naturals of up to 53 bits are doubles. -/
theorem quantaOf_nearestBits_of_lt {n : Nat} (hn : n < twoPow 53) :
    quantaOf (nearestBits (n * twoPow 1074) 1) = n * twoPow 1074 := by
  have hgap : gap (n * twoPow 1074) 1 ≤ 1074 := by
    refine gap_le_of_lt Nat.one_pos ?_
    rw [Nat.mul_one, twoPow_add]
    exact Nat.mul_lt_mul_of_pos_right hn (twoPow_pos _)
  obtain ⟨k, hk⟩ := Nat.exists_eq_add_of_le' hgap
  rw [quantaOf_nearestBits Nat.one_pos, Nat.one_mul]
  generalize gap (n * twoPow 1074) 1 = g at *
  rw [hk, twoPow_add, ← Nat.mul_assoc, roundHalfEven_mul_right _ (twoPow_pos g)]

end Nearest

/-! ## What a double holds -/

/-- The bits of a double without its sign. -/
def magnitude (x : Float) : Nat := x.toBits.toNat % twoPow 63

/-- The sign of a double. -/
def signOf (x : Float) : Sign := if isNegative x then .negative else .positive

/-- How many quanta a finite double is, its sign aside. -/
def quanta (x : Float) : Nat := quantaOf (magnitude x)

/-- What the bits of a double with a sign say. -/
inductive Unpacks (s : Sign) (bits : Nat) : UnpackedFloat → Prop
  | infinity (h : bits = infinityBits) : Unpacks s bits (.infinity s)
  | notANumber (h : infinityBits < bits) : Unpacks s bits .notANumber
  | zero (h : bits = 0) : Unpacks s bits (.zero s)
  | finite {m : Nat} {e : Int} (hm : 0 < m) (h : Denotes m e bits) (hlt : bits < infinityBits) :
    Unpacks s bits (.finite s m e hm)

theorem toNat_unpackExponent (w : UInt64) :
    (@unpackExponent Format.binary64 w.toBitVec).toNat = w.toNat / twoPow 52 % 2048 := by
  change (w.toNat >>> 52) % 2048 = _
  rw [Nat.shiftRight_eq_div_pow]
  rfl

theorem toNat_unpackMantissa (w : UInt64) :
    (@unpackMantissa Format.binary64 w.toBitVec).toNat = w.toNat % twoPow 52 := by
  change (w.toNat >>> 0) % _ = _
  rw [Nat.shiftRight_zero]
  rfl

theorem unpackSign_eq (x : Float) :
    Sign.ofBitVec (@unpackSign Format.binary64 x.toBits.toBitVec) = signOf x := by
  have hsign : (@unpackSign Format.binary64 x.toBits.toBitVec).toNat =
      x.toBits.toNat / twoPow 63 := by
    change (x.toBits.toNat >>> 63) % 2 = _
    rw [Nat.shiftRight_eq_div_pow, Nat.mod_eq_of_lt]
    · rfl
    · exact (Nat.div_lt_iff_lt_mul (by decide)).mpr x.toBits.toNat_lt
  have hpositive : @unpackSign Format.binary64 x.toBits.toBitVec = 0#1 ↔
      x.toBits.toNat < twoPow 63 := by
    rw [← BitVec.toNat_inj, hsign]
    exact Nat.div_eq_zero_iff_lt (by decide)
  unfold Sign.ofBitVec signOf isNegative
  by_cases hneg : twoPow 63 ≤ x.toBits.toNat
  · rw [if_neg (mt hpositive.mp (Nat.not_lt.mpr hneg)), decide_eq_true hneg, if_pos rfl]
  · rw [if_pos (hpositive.mpr (Nat.not_le.mp hneg)), decide_eq_false hneg]
    rfl

/-- The fields of a double are those of its bits without the sign. -/
theorem fields_magnitude (x : Float) :
    x.toBits.toNat / twoPow 52 % 2048 = magnitude x / twoPow 52 ∧
      x.toBits.toNat % twoPow 52 = magnitude x % twoPow 52 := by
  unfold magnitude
  have hhigh : twoPow 63 = twoPow 52 * 2048 := rfl
  rw [hhigh, Nat.mod_mul_right_div_self, Nat.mod_mul_right_mod]
  exact ⟨rfl, rfl⟩

/-- A fraction with the leading bit that is not written. -/
theorem toNat_one_append (M : BitVec 52) : (1#1 ++ M).toNat = twoPow 52 + M.toNat := by
  rw [BitVec.toNat_append, ← Nat.shiftLeft_add_eq_or_of_lt M.isLt, Nat.shiftLeft_eq]
  exact congrArg (· + M.toNat) (Nat.one_mul _)

/-- What the fields of an exponent and a fraction say. -/
theorem unpacks_fields (s : Sign) (E : BitVec 11) (M : BitVec 52)
    (h : ¬M = 0#52 → 0 < M.toNat) (h' : 0 < (1#1 ++ M).toNat) :
    Unpacks s (E.toNat * twoPow 52 + M.toNat)
      (if E = -1#11 then if M = 0#52 then .infinity s else .notANumber
      else if E = 0#11 then
        if hM : M = 0#52 then .zero s
        else .finite s M.toNat ((E.toNat : Int) - (1023 + 52) + 1) (h hM)
      else .finite s (1#1 ++ M).toNat ((E.toNat : Int) - (1023 + 52)) h') := by
  have hM : M.toNat < twoPow 52 := M.isLt
  have hE : E.toNat < 2048 := E.isLt
  have hMzero : M = 0#52 ↔ M.toNat = 0 := by
    rw [← BitVec.toNat_inj]
    rfl
  by_cases hlast : E = -1#11
  · have hElast : E.toNat = 2047 := by rw [hlast]; rfl
    rw [if_pos hlast, hElast]
    by_cases hzero : M = 0#52
    · rw [if_pos hzero]
      exact .infinity (by rw [hMzero.mp hzero]; rfl)
    · rw [if_neg hzero]
      exact .notANumber (Nat.lt_add_of_pos_right (Nat.pos_of_ne_zero (mt hMzero.mpr hzero)))
  · have hElast : E.toNat < 2047 := by
      have hne : E.toNat ≠ 2047 := fun heq => hlast (BitVec.eq_of_toNat_eq heq)
      omega
    rw [if_neg hlast]
    by_cases hfirst : E = 0#11
    · have hEzero : E.toNat = 0 := by rw [hfirst]; rfl
      rw [if_pos hfirst]
      by_cases hzero : M = 0#52
      · rw [dif_pos hzero]
        exact .zero (by rw [hEzero, hMzero.mp hzero]; rfl)
      · rw [dif_neg hzero]
        have hdenotes : Denotes M.toNat ((E.toNat : Int) - (1023 + 52) + 1)
            (E.toNat * twoPow 52 + M.toNat) :=
          ⟨by omega, by rw [twoPow_fiftyThree]; omega, .inr (by omega), by rw [hEzero]; simp⟩
        exact .finite _ hdenotes (hdenotes.lt_infinityBits_iff.mpr (by omega))
    · have hEpos : E.toNat ≠ 0 := fun heq => hfirst (BitVec.eq_of_toNat_eq heq)
      have hdenotes : Denotes (1#1 ++ M).toNat ((E.toNat : Int) - (1023 + 52))
          (E.toNat * twoPow 52 + M.toNat) := by
        obtain ⟨k, hk⟩ := Nat.exists_eq_add_one_of_ne_zero hEpos
        have hexponent : (((E.toNat : Int) - (1023 + 52)) + 1074).toNat = k := by omega
        rw [toNat_one_append]
        refine ⟨by omega, by rw [twoPow_fiftyThree]; omega, .inl (Nat.le_add_right _ _), ?_⟩
        rw [hexponent, hk]
        ring
      rw [if_neg hfirst]
      exact .finite _ hdenotes (hdenotes.lt_infinityBits_iff.mpr (by omega))

/-- A double is told by its sign and by its bits without the sign. -/
theorem unpacks (x : Float) : Unpacks (signOf x) (magnitude x) x.toModel.unpack := by
  have hmagnitude : magnitude x =
      (@unpackExponent Format.binary64 x.toBits.toBitVec).toNat * twoPow 52 +
        (@unpackMantissa Format.binary64 x.toBits.toBitVec).toNat := by
    rw [toNat_unpackExponent, toNat_unpackMantissa, (fields_magnitude x).1, (fields_magnitude x).2]
    exact (Nat.div_add_mod' _ _).symm
  rw [hmagnitude, ← unpackSign_eq]
  exact unpacks_fields _ _ _
    (fun hne => Nat.pos_of_ne_zero fun hzero => hne (BitVec.eq_of_toNat_eq hzero)) _

/-- What has no sign bit is told by its bits. -/
theorem of_toBits_le {x : Float} (h : x.toBits.toNat ≤ infinityBits) :
    signOf x = .positive ∧ magnitude x = x.toBits.toNat := by
  have hlt : x.toBits.toNat < twoPow 63 := Nat.lt_of_le_of_lt h (by decide)
  refine ⟨?_, Nat.mod_eq_of_lt hlt⟩
  unfold signOf isNegative
  rw [decide_eq_false (Nat.not_le.mpr hlt)]
  rfl

theorem unpacks_of_toBits_le {x : Float} (h : x.toBits.toNat ≤ infinityBits) :
    Unpacks .positive x.toBits.toNat x.toModel.unpack := by
  obtain ⟨hsign, hmagnitude⟩ := of_toBits_le h
  rw [← hsign, ← hmagnitude]
  exact unpacks x

theorem isNaN_iff {x : Float} : x.isNaN = true ↔ infinityBits < magnitude x := by
  change x.toModel.unpack.isNaN = true ↔ _
  have hx := unpacks x
  revert hx
  generalize x.toModel.unpack = u
  rintro (h | h | h | ⟨-, -, h⟩)
  · exact iff_of_false Bool.false_ne_true (by omega)
  · exact iff_of_true rfl h
  · exact iff_of_false Bool.false_ne_true (by omega)
  · exact iff_of_false Bool.false_ne_true (by omega)

theorem isInf_iff {x : Float} : x.isInf = true ↔ magnitude x = infinityBits := by
  change x.toModel.unpack.isInf = true ↔ _
  have hx := unpacks x
  have hpos : 0 < infinityBits := by decide
  revert hx
  generalize x.toModel.unpack = u
  rintro (h | h | h | ⟨-, -, h⟩)
  · exact iff_of_true rfl h
  · exact iff_of_false Bool.false_ne_true (by omega)
  · exact iff_of_false Bool.false_ne_true (by omega)
  · exact iff_of_false Bool.false_ne_true (by omega)

theorem isFinite_iff {x : Float} : x.isFinite = true ↔ magnitude x < infinityBits := by
  change x.toModel.unpack.isFinite = true ↔ _
  have hx := unpacks x
  have hpos : 0 < infinityBits := by decide
  revert hx
  generalize x.toModel.unpack = u
  rintro (h | h | h | ⟨-, -, h⟩)
  · exact iff_of_false Bool.false_ne_true (by omega)
  · exact iff_of_false Bool.false_ne_true (by omega)
  · exact iff_of_true rfl (by omega)
  · exact iff_of_true rfl h

/-! ## Order -/

/-- A double that is a number, as an integer: it has the sign and the bits of the double. -/
def key (x : Float) : Int := (signOf x).apply (magnitude x)

theorem compare_natCast (a b : Nat) : compare (a : Int) (b : Int) = compare a b := by
  rcases lt_trichotomy a b with h | rfl | h
  · rw [compare_lt_iff_lt.mpr h, compare_lt_iff_lt.mpr (Int.ofNat_lt.mpr h)]
  · rw [compare_eq_iff_eq.mpr rfl, compare_eq_iff_eq.mpr rfl]
  · rw [compare_gt_iff_gt.mpr h, compare_gt_iff_gt.mpr (Int.ofNat_lt.mpr h)]

theorem compare_neg_natCast (a b : Nat) :
    compare (-(a : Int)) (-(b : Int)) = (compare a b).swap := by
  rcases lt_trichotomy a b with h | rfl | h
  · rw [compare_lt_iff_lt.mpr h, compare_gt_iff_gt.mpr (by omega)]
    rfl
  · rw [compare_eq_iff_eq.mpr rfl, compare_eq_iff_eq.mpr rfl]
    rfl
  · rw [compare_gt_iff_gt.mpr h, compare_lt_iff_lt.mpr (by omega)]
    rfl

/-- Two doubles that are numbers compare as their bits with their signs do. -/
theorem Unpacks.compare_eq {s t : Sign} {u v : UnpackedFloat} (hu : Unpacks s bits u)
    (hv : Unpacks t bits' v) (hle : bits ≤ infinityBits) (hle' : bits' ≤ infinityBits) :
    u.compare v = some (compare (s.apply bits) (t.apply bits')) := by
  have hpos : 0 < infinityBits := by decide
  have hlt : ∀ {a b : Int}, a < b → some Ordering.lt = some (compare a b) :=
    fun h => congrArg some (compare_lt_iff_lt.mpr h).symm
  have hgt : ∀ {a b : Int}, b < a → some Ordering.gt = some (compare a b) :=
    fun h => congrArg some (compare_gt_iff_gt.mpr h).symm
  have heq : ∀ {a b : Int}, a = b → some Ordering.eq = some (compare a b) :=
    fun h => congrArg some (compare_eq_iff_eq.mpr h).symm
  -- significands are only looked at where both are finite and of one sign
  cases hu with
  | infinity h =>
    cases hv with
    | infinity h' =>
      subst h h'
      cases s <;> cases t
      · exact heq rfl
      · exact hlt (by decide)
      · exact hgt (by decide)
      · exact heq rfl
    | notANumber h' => omega
    | zero h' =>
      subst h h'
      cases s
      · exact hlt (by cases t <;> decide)
      · exact hgt (by cases t <;> decide)
    | finite hm' h' hbelow' =>
      cases s
      · exact hlt (by cases t <;> simp only [Sign.apply] <;> omega)
      · exact hgt (by cases t <;> simp only [Sign.apply] <;> omega)
  | notANumber h => omega
  | zero h =>
    cases hv with
    | infinity h' =>
      subst h h'
      cases t
      · exact hgt (by cases s <;> decide)
      · exact hlt (by cases s <;> decide)
    | notANumber h' => omega
    | zero h' =>
      subst h h'
      exact heq (by cases s <;> cases t <;> rfl)
    | finite hm' h' hbelow' =>
      have hpos' := h'.pos hm'
      cases t
      · exact hgt (by cases s <;> simp only [Sign.apply] <;> omega)
      · exact hlt (by cases s <;> simp only [Sign.apply] <;> omega)
  | finite hm hd hbelow =>
    have hbits := hd.pos hm
    cases hv with
    | infinity h' =>
      cases t
      · cases s <;> exact hgt (by simp only [Sign.apply]; omega)
      · cases s <;> exact hlt (by simp only [Sign.apply]; omega)
    | notANumber h' => omega
    | zero h' =>
      cases s
      · exact hlt (by cases t <;> simp only [Sign.apply] <;> omega)
      · exact hgt (by cases t <;> simp only [Sign.apply] <;> omega)
    | finite hm' hd' hbelow' =>
      have hbits' := hd'.pos hm'
      cases s <;> cases t
      · refine congrArg some ?_
        rw [hd.compare_eq hd']
        exact (compare_neg_natCast _ _).symm
      · exact hlt (by simp only [Sign.apply]; omega)
      · exact hgt (by simp only [Sign.apply]; omega)
      · refine congrArg some ?_
        rw [hd.compare_eq hd']
        exact (compare_natCast _ _).symm

theorem lt_iff_compare {x y : Float} :
    x < y ↔ x.toModel.unpack.compare y.toModel.unpack = some .lt := by
  change decide (x.toModel < y.toModel) = true ↔ _
  rw [decide_eq_true_eq]
  change (_ == _) = true ↔ _
  rw [beq_iff_eq]

theorem magnitude_le_of_isNaN {x : Float} (h : x.isNaN = false) : magnitude x ≤ infinityBits := by
  refine Nat.le_of_not_lt fun hlt => ?_
  rw [isNaN_iff.mpr hlt] at h
  cases h

/-- **Doubles that are numbers are in the order of their keys.** -/
theorem lt_iff_key {x y : Float} (hx : x.isNaN = false) (hy : y.isNaN = false) :
    x < y ↔ key x < key y := by
  rw [lt_iff_compare, (unpacks x).compare_eq (unpacks y) (magnitude_le_of_isNaN hx)
    (magnitude_le_of_isNaN hy), Option.some_inj]
  exact compare_lt_iff_lt

theorem isNaN_eq_false_of_isFinite {x : Float} (h : x.isFinite = true) : x.isNaN = false := by
  have hlt := isFinite_iff.mp h
  rw [Bool.eq_false_iff, Ne, isNaN_iff]
  omega

theorem key_le_magnitude (x : Float) : key x ≤ magnitude x := by
  unfold key
  cases signOf x with
  | negative =>
    simp only [Sign.apply]
    omega
  | positive => exact Int.le_refl _

/-- A double that is not below zero is told by its magnitude. -/
theorem key_eq_magnitude {x : Float} (h : 0 ≤ key x) : key x = magnitude x := by
  unfold key at h ⊢
  cases hs : signOf x with
  | negative =>
    rw [hs] at h
    simp only [Sign.apply] at h ⊢
    omega
  | positive => rfl

end ClusterRegistry.Decimal

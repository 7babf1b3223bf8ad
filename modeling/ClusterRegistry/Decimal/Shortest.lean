import ClusterRegistry.Decimal.Binary

/-!
# The fewest digits that read back

Among the decimals that round to a given double, `shortest` picks one with the fewest
digits, and of those the nearest. The search is exact: on the grids of one, two, and so on
up to seventeen digits it tests the two neighbours of the value against the interval of
reals that round to it. The interval holds its ends exactly when the significand is even.
-/

namespace ClusterRegistry.Decimal

/-- The decimal `digits * 10 ^ exp`. -/
structure Digits where
  digits : Nat
  exp : Int
deriving Repr, DecidableEq

/-- Whether a decimal lies among the reals that round to the given double. -/
def Binary.readsBack (x : Binary) (d : Digits) : Bool :=
  let lower := if x.narrowBelow then 4 * x.m - 1 else 4 * x.m - 2
  let upper := 4 * x.m + 2
  let closed := x.m % 2 == 0
  let below := compareScaled d.digits d.exp lower (x.q - 2)
  let above := compareScaled d.digits d.exp upper (x.q - 2)
  (below == .gt || (closed && below == .eq)) && (above == .lt || (closed && above == .eq))

/-- The least `k` from `start` on with `m * 2 ^ q < 10 ^ k`, among the next `fuel` ones. -/
def Binary.scaleFrom (x : Binary) (start : Int) : Nat → Int
  | 0 => start
  | fuel + 1 =>
    if compareScaled 1 start x.m x.q = .gt then start else x.scaleFrom (start + 1) fuel

/-- The number of digits before the decimal point, negative for leading zeros after it. -/
def Binary.scale (x : Binary) : Int :=
  let log := (x.m.log2 : Int) + x.q
  x.scaleFrom (log * 30103 / 100000 - 1) 4

/-- The multiple of `10 ^ g` that lies nearest to the value among those that read back. -/
def Binary.onGrid (x : Binary) (g : Int) : Option Digits :=
  let num := x.m * twoPow x.q.toNat * tenPow (-g).toNat
  let den := twoPow (-x.q).toNat * tenPow g.toNat
  let low : Digits := ⟨num / den, g⟩
  let high : Digits := ⟨num / den + 1, g⟩
  match x.readsBack low, x.readsBack high with
  | true, true => if roundHalfEven num den = low.digits then some low else some high
  | true, false => some low
  | false, true => some high
  | false, false => none

/-- Trailing zeros moved into the exponent. -/
def Digits.strip (d : Digits) : Nat → Digits
  | 0 => d
  | fuel + 1 =>
    if d.digits ≠ 0 ∧ d.digits % 10 = 0 then
      Digits.strip ⟨d.digits / 10, d.exp + 1⟩ fuel
    else d

/-- The first grid from `n` digits on that has a decimal reading back. -/
def Binary.search (x : Binary) (k : Int) (n : Nat) : Nat → Digits
  | 0 => ⟨x.m * twoPow x.q.toNat * (tenPow (-x.q).toNat / twoPow (-x.q).toNat), min x.q 0⟩
  | fuel + 1 =>
    match x.onGrid (k - n) with
    | some d => d.strip 20
    | none => x.search k (n + 1) fuel

/-- The shortest decimal that reads back as the magnitude of a finite double. -/
def shortest (x : Float) : Digits :=
  let b := Binary.ofFloat x
  if b.m = 0 then ⟨0, 0⟩ else b.search b.scale 1 17

end ClusterRegistry.Decimal

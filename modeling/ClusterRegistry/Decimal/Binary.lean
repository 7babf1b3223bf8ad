/-!
# Binary floating point values as exact numbers

A finite double is `m * 2 ^ q` for naturals `m` and an integer `q`. Every text of a double
in this library is computed from these two numbers, so that no rounding happens on the way.
With a fixed number of places, the exact value is rounded to these, a half to the even digit,
and its sign is kept even where only zeros are left.
-/

namespace ClusterRegistry.Decimal

/-! ## Powers of two and ten -/

/-- The natural number `2 ^ n`, which is how many values a word of `n` bits has. -/
def twoPow (n : Nat) : Nat := Nat.pow 2 n

/-- The natural number `10 ^ n`. -/
def tenPow (n : Nat) : Nat := Nat.pow 10 n

/-- The least integer of 64 bits with a sign. -/
def leastInteger : Int := -(twoPow 63 : Int)

/-- The greatest integer of 64 bits with a sign. -/
def greatestInteger : Int := (twoPow 63 : Int) - 1

/-! ## Doubles as exact numbers -/

/-- The magnitude `m * 2 ^ q` of a finite double. -/
structure Binary where
  /-- The significand, below `2 ^ 53`. -/
  m : Nat
  /-- The exponent of two. -/
  q : Int
  /-- Whether the gap to the double below is half the gap to the double above. -/
  narrowBelow : Bool

/-- The magnitude of a finite double, read off its bits. -/
def Binary.ofFloat (x : Float) : Binary :=
  let bits : Nat := x.toBits.toNat
  let e : Nat := bits / twoPow 52 % twoPow 11
  let f : Nat := bits % twoPow 52
  if e = 0 then ⟨f, -1074, false⟩
  else ⟨twoPow 52 + f, (e : Int) - 1075, f == 0 && decide (1 < e)⟩

/-- Whether the sign bit of a double is set, as it is for negative zero. -/
def isNegative (x : Float) : Bool := decide (twoPow 63 ≤ x.toBits.toNat)

/-- How `a * 10 ^ i` compares with `b * 2 ^ j`. -/
def compareScaled (a : Nat) (i : Int) (b : Nat) (j : Int) : Ordering :=
  compare (a * tenPow i.toNat * twoPow (-j).toNat) (b * twoPow j.toNat * tenPow (-i).toNat)

/-- The quotient of two naturals rounded to the nearest one, a half to the even neighbour. -/
def roundHalfEven (num den : Nat) : Nat :=
  let whole := num / den
  match compare (2 * (num % den)) den with
  | .lt => whole
  | .gt => whole + 1
  | .eq => if whole % 2 = 0 then whole else whole + 1

/-! ## A fixed number of places -/

/-- The magnitude of a finite double in units of `10 ^ -places`, rounded half to even. -/
def Binary.units (x : Binary) (places : Nat) : Nat :=
  roundHalfEven (x.m * twoPow x.q.toNat * tenPow places) (twoPow (-x.q).toNat)

/-- A count of hundredths as a number with two places. -/
def hundredths (n : Nat) : String :=
  let cents := n % 100
  toString (n / 100) ++ "." ++ toString (cents / 10) ++ toString (cents % 10)

/-- A finite double with two places. -/
def twoPlaces (x : Float) : String :=
  (if isNegative x then "-" else "") ++ hundredths ((Binary.ofFloat x).units 2)

/-- The integer part of a finite double, toward zero. -/
def truncate (x : Float) : Int :=
  let b := Binary.ofFloat x
  let magnitude := b.m * twoPow b.q.toNat / twoPow (-b.q).toNat
  if isNegative x then -(magnitude : Int) else magnitude

/-- Whether a finite double is an integer. -/
def isIntegral (x : Float) : Bool :=
  let b := Binary.ofFloat x
  b.m * twoPow b.q.toNat % twoPow (-b.q).toNat == 0

end ClusterRegistry.Decimal

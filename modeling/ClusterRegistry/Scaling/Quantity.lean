import ClusterRegistry.Decimal.Binary
import ClusterRegistry.Text.Basic

/-!
# Quantities

A quantity is a number with a unit, as in `4`, `1000 MiB` or `2.5GiB`. It is written without
a fraction where the number is whole, and otherwise with two places.
-/

namespace ClusterRegistry

/-- A number with a unit, which may be blank. -/
structure Quantity where
  value : Float
  unit : String

namespace Quantity

/-- Whether a character may stand in the number of a quantity. -/
def isNumberChar (c : Char) : Bool := c.isDigit || c == '.'

/-- The number that digits with at most one point among them say. -/
def number? (cs : List Char) : Option Float :=
  let (whole, fraction) := (Text.splitFirst '.' cs).getD (cs, [])
  if fraction.contains '.' || (whole.isEmpty && fraction.isEmpty) then none
  else some (.ofScientific (Nat.ofDigitChars 10 (whole ++ fraction) 0) true fraction.length)

/-- The quantity that a text says, blanks around number and unit aside. -/
def parse (raw : String) : Option Quantity :=
  let cs := Text.trimChars raw.toList
  (number? (cs.takeWhile isNumberChar)).map fun value =>
    ⟨value, String.ofList (Text.trimChars (cs.dropWhile isNumberChar))⟩

/-- The nearest integer of 64 bits with a sign to an integer. -/
def saturate (i : Int) : Int := max Decimal.leastInteger (min i Decimal.greatestInteger)

/-- The text of a number: whole numbers without a fraction, others with two places. -/
def numberText (x : Float) : String :=
  if x.isNaN then "NaN"
  else if x.isInf then if Decimal.isNegative x then "-inf" else "inf"
  else if Decimal.isIntegral x then toString (saturate (Decimal.truncate x))
  else Decimal.twoPlaces x

/-- The text of a quantity: the number, and after a space the unit if it is not blank. -/
def print (q : Quantity) : String :=
  if q.unit = "" then numberText q.value else numberText q.value ++ " " ++ q.unit

end Quantity

end ClusterRegistry

import ClusterRegistry.Json.Basic

/-!
# Writing JSON values

Values are written without spaces and members in the order they stand in. A double is
written with the fewest digits that read back: positionally from `1e-5` on and below `1e16`,
with a fraction even where it is zero, and otherwise with a signed exponent.
-/

namespace ClusterRegistry.Json

/-- Where positional notation starts: the least decimal exponent of a leading digit. -/
def leastPositional : Int := -5

/-- Where positional notation ends: the first decimal exponent written with `e`. -/
def firstExponent : Int := 16

/-- Digits with a point after the first `point` ones, zeros filled in on either side. -/
def positional (digits : List Char) (point : Int) : List Char :=
  if point ≤ 0 then
    '0' :: '.' :: (List.replicate (-point).toNat '0' ++ digits)
  else
    let whole := digits.take point.toNat
    let fraction := digits.drop point.toNat
    whole ++ List.replicate (point.toNat - whole.length) '0' ++
      '.' :: (if fraction.isEmpty then ['0'] else fraction)

/-- Digits with a point after the first one and the given exponent. -/
def scientific (digits : List Char) (exponent : Int) : List Char :=
  let fraction := digits.drop 1
  let sign := if exponent < 0 then '-' else '+'
  digits.take 1 ++ (if fraction.isEmpty then [] else '.' :: fraction) ++
    'e' :: sign :: Nat.toDigits 10 exponent.natAbs

/-- The text of a finite double. -/
def realText (x : Float) : String :=
  let d := Decimal.shortest x
  let digits := Nat.toDigits 10 d.digits
  let point : Int := if d.digits = 0 then 1 else digits.length + d.exp
  let body :=
    if leastPositional ≤ point - 1 ∧ point - 1 < firstExponent then positional digits point
    else scientific digits (point - 1)
  String.ofList (if Decimal.isNegative x then '-' :: body else body)

/-- The text of a number. -/
def Number.print : Number → String
  | .integer i => toString i
  | .real x => realText x

/-- A character inside a quoted text. -/
def escapeChar (c : Char) : List Char :=
  if c = '"' then ['\\', '"']
  else if c = '\\' then ['\\', '\\']
  else if c = '\n' then ['\\', 'n']
  else if c = '\r' then ['\\', 'r']
  else if c = '\t' then ['\\', 't']
  else if c.toNat < 0x20 then
    ['\\', 'u', '0', '0', Nat.digitChar (c.toNat / 16), Nat.digitChar (c.toNat % 16)]
  else [c]

/-- A text between quotes. -/
def quote (s : String) : String :=
  String.ofList ('"' :: (s.toList.flatMap escapeChar ++ ['"']))

mutual

/-- The text of a value. -/
def print : Json → String
  | .null => "null"
  | .bool b => if b then "true" else "false"
  | .number n => n.print
  | .text s => quote s
  | .array items => "[" ++ String.intercalate "," (printItems items) ++ "]"
  | .object members => "\x7b" ++ String.intercalate "," (printMembers members) ++ "\x7d"

/-- The texts of the items of an array. -/
def printItems : List Json → List String
  | [] => []
  | v :: rest => v.print :: printItems rest

/-- The texts of the members of an object. -/
def printMembers : List (String × Json) → List String
  | [] => []
  | m :: rest => (quote m.1 ++ ":" ++ m.2.print) :: printMembers rest

end

end ClusterRegistry.Json

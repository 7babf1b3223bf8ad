import ClusterRegistry.Json.Document
import ClusterRegistry.Text.Basic

/-!
# Numbers and texts inside a JSON text

Each kind of token comes with the two ways of going over it. Skipping a token settles where
it ends; reading it says what it means, or why it means nothing.

A number without fraction and exponent that fits in 64 bits, signed or unsigned, is an
integer; every other number is a double. Its significand is cut after as many digits as fit
in 64 bits and then scaled by one power of ten at a time, so the last bit is that of the
floating point product and not always that of the nearest double.
-/

namespace ClusterRegistry.Json.Token

/-! ## Characters -/

/-- Whether a byte is white space between tokens. -/
def isSpace (b : UInt8) : Bool := b == 0x20 || b == 0x0A || b == 0x0D || b == 0x09

/-- The bytes after leading white space. -/
def skipSpace (bs : List UInt8) : List UInt8 := bs.dropWhile isSpace

/-- Whether a byte is an ASCII digit. -/
def isDigit (b : UInt8) : Bool := 0x30 ≤ b && b ≤ 0x39

/-- The value of an ASCII digit. -/
def digitValue (b : UInt8) : Nat := b.toNat - 0x30

/-- The four hexadecimal digits of an escape, and what follows them. -/
def hexEscape : List UInt8 → Except Fault (Nat × List UInt8)
  | a :: b :: c :: d :: rest =>
    match [a, b, c, d].mapM Text.hexValue with
    | some digits => .ok (digits.foldl (fun n d => 16 * n + d.toNat) 0, rest)
    | none => .error .invalidEscape
  | _ => .error .endInText

/-- The byte that a one-letter escape stands for. -/
def simpleEscape (b : UInt8) : Option UInt8 :=
  match b.toNat with
  | 0x22 => some 0x22
  | 0x5C => some 0x5C
  | 0x2F => some 0x2F
  | 0x62 => some 0x08
  | 0x66 => some 0x0C
  | 0x6E => some 0x0A
  | 0x72 => some 0x0D
  | 0x74 => some 0x09
  | _ => none

/-- The bytes of a code point. -/
def utf8 (n : Nat) : List UInt8 := (Char.ofNat n).toString.toUTF8.toList

/-! ## Texts -/

/-- The bytes after the closing quote of a text that is skipped. -/
def skipText : List UInt8 → Except Fault (List UInt8)
  | [] => .error .endInText
  | 0x22 :: rest => .ok rest
  | 0x5C :: rest =>
    match rest with
    | [] => .error .endInText
    | 0x75 :: a :: b :: c :: d :: rest =>
      match hexEscape [a, b, c, d] with
      | .ok _ => skipText rest
      | .error f => .error f
    | 0x75 :: _ => .error .endInText
    | b :: rest => if (simpleEscape b).isSome then skipText rest else .error .invalidEscape
  | b :: rest => if b < 0x20 then .error .controlCharacter else skipText rest

/-- The second half of a surrogate pair whose first half is `high`. -/
def lowSurrogate (high : Nat) : List UInt8 → Except Fault (Nat × List UInt8)
  | [] => .error .endInText
  | 0x5C :: [] => .error .endInText
  | 0x5C :: 0x75 :: rest => do
    let (low, rest) ← hexEscape rest
    if 0xDC00 ≤ low ∧ low ≤ 0xDFFF then
      return ((high - 0xD800) * 0x400 + (low - 0xDC00) + 0x10000, rest)
    else
      throw .loneSurrogate
  | _ => .error .unfinishedSurrogate

/-- The code point of a `\u` escape, surrogates in pairs, and what follows it. -/
def codePoint (bs : List UInt8) : Except Fault (Nat × List UInt8) := do
  let (n, rest) ← hexEscape bs
  if 0xDC00 ≤ n ∧ n ≤ 0xDFFF then throw .loneSurrogate
  else if 0xD800 ≤ n ∧ n ≤ 0xDBFF then lowSurrogate n rest
  else return (n, rest)

/-- The bytes that a text stands for, its escapes resolved, last byte first. -/
def unescape (acc : List UInt8) : Nat → List UInt8 → Except Fault (List UInt8)
  | 0, _ => .error .endInText
  | fuel + 1, bs =>
    match bs with
    | [] => .error .endInText
    | 0x22 :: _ => .ok acc
    | 0x5C :: [] => .error .endInText
    | 0x5C :: 0x75 :: rest =>
      match codePoint rest with
      | .ok (n, rest) => unescape ((utf8 n).reverse ++ acc) fuel rest
      | .error f => .error f
    | 0x5C :: b :: rest =>
      match simpleEscape b with
      | some c => unescape (c :: acc) fuel rest
      | none => .error .invalidEscape
    | b :: rest => if b < 0x20 then .error .controlCharacter else unescape (b :: acc) fuel rest

/-- The text whose bytes are given, if they are well-formed. -/
def decodeText (bytes : List UInt8) : Except Fault String :=
  match String.fromUTF8? ⟨bytes.toArray⟩ with
  | some s => .ok s
  | none => .error .invalidCharacter

/-- The text after an opening quote. -/
def readText (bs : List UInt8) : Except Fault String := do
  let bytes ← unescape [] (bs.length + 1) bs
  decodeText bytes.reverse

/-! ## Numbers -/

/-- A number as it is written: its sign, its digits, and its exponent if it has one. -/
structure Numeral where
  negative : Bool
  whole : List UInt8
  fraction : Option (List UInt8)
  exponent : Option (Bool × List UInt8)

/-- The exponent of a number after its `e`, and what follows it. -/
def exponentPart (bs : List UInt8) : Except Break ((Bool × List UInt8) × List UInt8) :=
  let (negative, rest) := match bs with
    | 0x2B :: rest => (false, rest)
    | 0x2D :: rest => (true, rest)
    | _ => (false, bs)
  match rest with
  | [] => .error (.unfinished .endInValue .invalidNumber)
  | b :: _ =>
    if isDigit b then .ok ((negative, rest.takeWhile isDigit), rest.dropWhile isDigit)
    else .error (.unfinished .invalidNumber .invalidNumber)

/-- The digits after the point of a number, and what follows them. -/
def fractionPart (bs : List UInt8) : Except Break (List UInt8 × List UInt8) :=
  match bs with
  | [] => .error (.unfinished .endInValue .invalidNumber)
  | b :: _ =>
    if isDigit b then .ok (bs.takeWhile isDigit, bs.dropWhile isDigit)
    else .error (.unfinished .invalidNumber .invalidNumber)

/-- The digits before the point of a number: a zero stands alone. -/
def wholePart (bs : List UInt8) : Except Break (List UInt8 × List UInt8) :=
  match bs with
  | [] => .error (.unfinished .endInValue .invalidNumber)
  | 0x30 :: b :: rest =>
    if isDigit b then .error (.unfinished .invalidNumber .invalidNumber)
    else .ok ([0x30], b :: rest)
  | b :: _ =>
    if isDigit b then .ok (bs.takeWhile isDigit, bs.dropWhile isDigit)
    else .error (.unfinished .invalidNumber .invalidNumber)

/-- The number at the start of a text, and what follows it. -/
def numeral (bs : List UInt8) : Except Break (Numeral × List UInt8) := do
  let (negative, rest) := match bs with
    | 0x2D :: rest => (true, rest)
    | _ => (false, bs)
  let (whole, rest) ← wholePart rest
  let (fraction, rest) ← match rest with
    | 0x2E :: rest => do
      let (digits, rest) ← fractionPart rest
      pure (some digits, rest)
    | _ => pure (none, rest)
  let (exponent, rest) ← match rest with
    | 0x65 :: rest | 0x45 :: rest => do
      let (exponent, rest) ← exponentPart rest
      pure (some exponent, rest)
    | _ => pure (none, rest)
  return (⟨negative, whole, fraction, exponent⟩, rest)

/-- The value of a list of digits. -/
def digitsValue (ds : List UInt8) : Nat := ds.foldl (fun n d => 10 * n + digitValue d) 0

/-- The digits that fit in 64 bits after `acc`, with their number. -/
def significand (acc taken : Nat) : List UInt8 → Nat × Nat
  | [] => (acc, taken)
  | d :: rest =>
    let next := 10 * acc + digitValue d
    if next < UInt64.size then significand next (taken + 1) rest else (acc, taken)

/-- Division by `10 ^ 308` until the exponent left is within the range of doubles. -/
def scaleDown (x : Float) (exponent : Nat) : Nat → Float
  | 0 => x
  | fuel + 1 =>
    if exponent ≤ 308 then x / Float.ofScientific 1 false exponent
    else if x == 0 then x
    else scaleDown (x / Float.ofScientific 1 false 308) (exponent - 308) fuel

/-- A significand times a power of ten. -/
def scaled (significand : Nat) (exponent : Int) : Except Fault Float :=
  let x := Float.ofNat significand
  if exponent < 0 then .ok (scaleDown x exponent.natAbs 4)
  else if exponent ≤ 308 then
    let y := x * Float.ofScientific 1 false exponent.natAbs
    if y.isInf then .error .numberOutOfRange else .ok y
  else if x == 0 then .ok x
  else .error .numberOutOfRange

/-- The double that a number with a sign, a significand and an exponent is read as. -/
def signed (negative : Bool) (significand : Nat) (exponent : Int) : Except Fault Number := do
  let x ← scaled significand exponent
  return .real (if negative then -x else x)

/-- What a number means. -/
def Numeral.value (n : Numeral) : Except Fault Number :=
  let (whole, wholeTaken) := significand 0 0 n.whole
  let dropped := n.whole.length - wholeTaken
  let written : Int := match n.exponent with
    | none => 0
    | some (negative, ds) => if negative then -(digitsValue ds : Int) else digitsValue ds
  match n.fraction, n.exponent with
  | none, none =>
    if 0 < dropped then signed n.negative whole dropped
    else if !n.negative then .ok (.integer whole)
    else if 0 < whole ∧ whole ≤ Decimal.twoPow 63 then .ok (.integer (-(whole : Int)))
    else signed true whole 0
  | fraction, _ =>
    let (all, taken) := significand whole 0 (fraction.getD [])
    signed n.negative all (dropped - taken + written)

end ClusterRegistry.Json.Token

import ClusterRegistry.Decimal.Binary
import ClusterRegistry.Text.Basic

/-!
# Paths to settings

A path says where a setting stands: `api.max_replicas`, or `servers[0].port`. It is one or more
parts with points between them; a part is a word and, in brackets after it, whole numbers,
which name items of a list. A negative number counts from the end of the list.
-/

namespace ClusterRegistry.Setting

/-- A step on the way to a setting: into a table, or into a list. -/
inductive Step
  | key (name : String)
  | index (place : Int)
deriving DecidableEq

namespace Step

/-- Whether a character may stand in a word of a path. -/
def isWordChar (c : Char) : Bool := c.isAlphanum || c == ' ' || c == '_' || c == '-'

/-- Whether a character may stand around a number in brackets. -/
def isGap (c : Char) : Bool := c == ' ' || c == '\t'

/-- The word that some characters are. -/
def ofWord? (cs : List Char) : Option Step :=
  if !cs.isEmpty && cs.all isWordChar then some (.key (String.ofList cs)) else none

/-- The natural number that some characters are. -/
def natural? (cs : List Char) : Option Nat :=
  if !cs.isEmpty && cs.all Char.isDigit then some (Nat.ofDigitChars 10 cs 0) else none

/-- The whole number that some characters are. -/
def whole? : List Char → Option Int
  | '-' :: cs => (natural? cs).map fun n => -(n : Int)
  | cs => (natural? cs).map Int.ofNat

/-- The number before a closing bracket, if it fits in 64 bits. -/
def ofBracket? (cs : List Char) : Option Step :=
  match cs.reverse with
  | ']' :: inner => do
    let i ← whole? ((inner.dropWhile isGap).reverse.dropWhile isGap)
    if -(Decimal.twoPow 63 : Int) ≤ i ∧ i < Decimal.twoPow 63 then some (.index i) else none
  | _ => none

/-- The steps that a part of a path says. -/
def ofPart? (cs : List Char) : Option (List Step) :=
  match Text.splitAll '[' cs with
  | [] => none
  | word :: brackets => do return (← ofWord? word) :: (← brackets.mapM ofBracket?)

end Step

/-- The way to a setting. -/
abbrev Path := List Step

/-- The path that a text says. -/
def Path.parse? (s : String) : Option Path := do
  return (← (Text.splitAll '.' s.toList).mapM Step.ofPart?).flatten

/-- The path that a key stands for; a key that says none is a single step. -/
def Path.ofKey (key : String) : Path := (parse? key).getD [.key key]

end ClusterRegistry.Setting

import ClusterRegistry.Table
import ClusterRegistry.Decimal.Shortest

/-!
# JSON values

A JSON number is either an integer, kept exactly, or a double. An object is the list of its
members; values that were read from a text have their keys ascending and distinct.
-/

namespace ClusterRegistry

/-- A JSON number: an integer or a double. -/
inductive Json.Number
  | integer (value : Int)
  | real (value : Float)
deriving Inhabited

/-- A JSON value. -/
inductive Json
  | null
  | bool (value : Bool)
  | number (value : Json.Number)
  | text (value : String)
  | array (items : List Json)
  | object (members : List (String × Json))
deriving Inhabited

namespace Json

/-- The integer as a value. -/
def ofInt (i : Int) : Json := .number (.integer i)

/-- The natural number as a value. -/
def ofNat (n : Nat) : Json := .number (.integer n)

/-- The object with the entries of a table as its members. -/
def ofTable (t : Table String Json) : Json := .object t.entries

/-- The value under a key of an object; of repeated keys the last counts. -/
def member? (key : String) : Json → Option Json
  | .object members => (members.reverse.find? fun m => m.1 == key).map (·.2)
  | _ => none

/-- The text of a value that is a text. -/
def text? : Json → Option String
  | .text s => some s
  | _ => none

/-- The truth value of a value that is one. -/
def bool? : Json → Option Bool
  | .bool b => some b
  | _ => none

/-- The integer of a value that is a number without a fraction or an exponent. -/
def integer? : Json → Option Int
  | .number (.integer i) => some i
  | _ => none

/-- The double nearest to a value that is a number. -/
def real? : Json → Option Float
  | .number (.integer i) => some (Float.ofInt i)
  | .number (.real x) => some x
  | _ => none

/-- The items of a value that is an array. -/
def items? : Json → Option (List Json)
  | .array items => some items
  | _ => none

/-- The members of a value that is an object. -/
def members? : Json → Option (List (String × Json))
  | .object members => some members
  | _ => none

end Json

end ClusterRegistry

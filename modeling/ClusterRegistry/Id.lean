import ClusterRegistry.Shape.Read

/-!
# Resource ids

An id is a 64-bit number; zero is the id of a resource that has none yet. A text names an id
by its decimal digits. Texts of another form are malformed, and digits whose value no resource
can have are well formed but unassignable: the two are told apart because callers answer
them differently.
-/

namespace ClusterRegistry

/-- The id of a resource; zero where none is assigned. -/
structure Id where
  value : UInt64
deriving DecidableEq, Inhabited

namespace Id

/-- The id of a resource that has none yet. -/
def unassigned : Id := ⟨0⟩

/-- Whether an id was assigned. -/
def isAssigned (i : Id) : Bool := i.value != 0

instance : Ord Id := ⟨compareOn Id.value⟩

instance : Std.TransOrd Id := inferInstanceAs (Std.TransCmp (compareOn Id.value))

instance : Std.LawfulEqOrd Id where
  eq_of_compare {a b} h := by
    have hv : compare a.value b.value = .eq := h
    cases a; cases b
    exact congrArg Id.mk (Std.compare_eq_iff_eq.mp hv)
  compare_self {a} := Std.compare_self

/-- The decimal digits of an id. -/
def digits (i : Id) : String := toString i.value.toNat

/-- What a text says when it is taken for an id. -/
inductive Reading
  | malformed
  | unassignable
  | assigned (id : Id)
deriving DecidableEq

/-- Whether a text consists of ASCII digits and has at least one. -/
def isNumeral (raw : String) : Bool := !raw.toList.isEmpty && raw.toList.all Char.isDigit

/-- The value of a text of decimal digits. -/
def valueOf (raw : String) : Nat := Nat.ofDigitChars 10 raw.toList 0

/-- A text taken for an id: leading zeros do not matter, the length is not limited. -/
def parse (raw : String) : Reading :=
  if isNumeral raw then
    let n := valueOf raw
    if 0 < n ∧ n < UInt64.size then .assigned ⟨.ofNat n⟩ else .unassignable
  else .malformed

/-- The id that a text names, if it names one. -/
def parse? (raw : String) : Option Id :=
  match parse raw with
  | .assigned id => some id
  | _ => none

/-- The id that a JSON value says: a number or its digits, and otherwise none. -/
def ofJson : Json → Id
  | .number (.integer i) => if 0 ≤ i ∧ i < UInt64.size then ⟨.ofNat i.toNat⟩ else unassigned
  | .text s => (parse? s).getD unassigned
  | _ => unassigned

/-- An id is written as its digits, and the missing id as the empty text. -/
def toJson (i : Id) : Json := .text (if i.isAssigned then i.digits else "")

/-- Ids look like their digits in JSON. -/
def shape : Shape Id := .any ofJson toJson

end Id

end ClusterRegistry

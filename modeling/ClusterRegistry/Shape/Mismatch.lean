import ClusterRegistry.Json.Embedded

/-!
# Why a JSON value does not decode

A `Mismatch` says what was found where something else was wanted. The wording is in
`Mismatch.message` alone.
-/

namespace ClusterRegistry

open Json (Document Fault Found)

/-- What a decoder wants in a place. -/
inductive Wanted
  | text
  | flag
  | sequence
  | map
  | word (bits : Nat)
  | record (name : String)
  | nothing
deriving DecidableEq

/-- How many items a sequence should have had. -/
inductive WantedLength
  /-- A record with the given name and number of fields, all of which must be there. -/
  | record (name : String) (fields : Nat)
  /-- At most the given number of items. -/
  | atMost (items : Nat)
deriving DecidableEq

/-- Why a JSON text or value does not decode. -/
inductive Mismatch
  /-- The text is not JSON. -/
  | syntaxFault (fault : Fault)
  /-- Something of another type stands here. -/
  | wrongType (found : Found) (wanted : Wanted)
  /-- An integer stands here that the wanted type does not hold. -/
  | outOfRange (found : Int) (wanted : Wanted)
  /-- A sequence has too few or too many items. -/
  | wrongLength (found : Nat) (wanted : WantedLength)
  | missingField (key : String)
  | duplicateField (key : String)
  /-- A name is not among the known ones. -/
  | unknownVariant (found : String) (known : List String)
  /-- A value has none of the forms that the named type may take. -/
  | noForm (name : String)

/-- The wording of what was wanted. -/
def Wanted.describe : Wanted → String
  | .text => "a string"
  | .flag => "a boolean"
  | .sequence => "a sequence"
  | .map => "a map"
  | .word bits => "u" ++ toString bits
  | .record name => "struct " ++ name
  | .nothing => "unit"

/-- A count of things, in the singular for one. -/
def counted (n : Nat) (thing : String) : String :=
  toString n ++ " " ++ thing ++ (if n = 1 then "" else "s")

/-- The wording of a wanted length. -/
def WantedLength.describe : WantedLength → String
  | .record name fields => "struct " ++ name ++ " with " ++ counted fields "element"
  | .atMost items => counted items "element" ++ " in sequence"

/-- Names between backticks, as alternatives. -/
def alternatives (names : List String) : String :=
  let shown := names.map fun n => "`" ++ n ++ "`"
  match shown with
  | [a, b] => a ++ " or " ++ b
  | [a] => a
  | _ => "one of " ++ String.intercalate ", " shown

/-- The wording of a mismatch. -/
def Mismatch.message : Mismatch → String
  | .syntaxFault f => f.message
  | .wrongType found wanted =>
    "invalid type: " ++ found.describe ++ ", expected " ++ wanted.describe
  | .outOfRange found wanted =>
    "invalid value: integer `" ++ toString found ++ "`, expected " ++ wanted.describe
  | .wrongLength found wanted =>
    "invalid length " ++ toString found ++ ", expected " ++ wanted.describe
  | .missingField key => "missing field `" ++ key ++ "`"
  | .duplicateField key => "duplicate field `" ++ key ++ "`"
  | .unknownVariant found known =>
    "unknown variant `" ++ found ++ "`, expected " ++ alternatives known
  | .noForm name => "data did not match any variant of untagged enum " ++ name

/-- The mismatch of a document that has another type than the wanted one. -/
def Mismatch.ofDocument (d : Document) (wanted : Wanted) : Mismatch :=
  match d.found with
  | .ok found => .wrongType found wanted
  | .error f => .syntaxFault f

/-- A step of reading a text as a step of decoding. -/
def orFault {α : Type} : Except Fault α → Except Mismatch α :=
  Except.mapError .syntaxFault

end ClusterRegistry

import ClusterRegistry.Shape.Mismatch

/-!
# Shapes: how the types of this library look in JSON

A `Shape α` says how a value of type `α` is written as JSON. One shape serves every direction:
`Shape.decode` reads a value that stands in memory, `Shape.read` reads a text from left to
right, and `Shape.encode` writes. Each record of the library has one shape with one row per
field, in the order in which its fields are declared; that order is also the order of the
items when a record is given as an array.

A record starts out as its `blank` and takes over the fields that are given, so a field that
is absent has the value it has in the blank record.
-/

namespace ClusterRegistry

/-- What an absent field means. -/
inductive Presence
  /-- It keeps the value of the blank record. -/
  | defaulted
  /-- It must be there. -/
  | required
  /-- It may be left out of an object, but not out of an array. -/
  | nullable
deriving DecidableEq

mutual

/-- How the values of a type look in JSON. -/
inductive Shape : Type → Type 1
  | text : Shape String
  | flag : Shape Bool
  | word16 : Shape UInt16
  | word32 : Shape UInt32
  | word64 : Shape UInt64
  /-- Any value at all; what it means is never in doubt. -/
  | any {α : Type} (ofJson : Json → α) (toJson : α → Json) : Shape α
  | list {α : Type} (item : Shape α) : Shape (List α)
  /-- A map from texts to texts. -/
  | texts : Shape (Table String String)
  /-- A map from texts to anything. -/
  | members : Shape (Table String Json)
  /-- A value, or `null` for none. -/
  | option {α : Type} (item : Shape α) : Shape (Option α)
  /-- One of some names. -/
  | choice {α : Type} (known : List (String × α)) (nameOf : α → String) : Shape α
  /-- A record of fields; keys that are not among them are passed over. -/
  | record {α : Type} (name : String) (blank : α) (fields : Fields α) : Shape α
  /-- A record of fields that keeps the keys that are not among them. -/
  | extensible {α : Type} (name : String) (blank : α) (fields : Fields α)
      (others : α → Table String Json) (withOthers : Table String Json → α → α) : Shape α
  /-- A text, `null`, or an object of the given shape; `name` is the name of the choice. -/
  | abbreviated {α : Type} (name : String) (ofText : String → α) (absent : α)
      (form : Shape α) : Shape α

/-- The fields of a record, in the order of their declaration. -/
inductive Fields : Type → Type 1
  | none {α : Type} : Fields α
  | cons {α β : Type} (presence : Presence) (key : String) (get : α → β) (set : β → α → α)
      (shape : Shape β) (rest : Fields α) : Fields α
  /-- A field that is not written where it has no value. -/
  | omittable {α β : Type} (key : String) (get : α → Option β) (set : Option β → α → α)
      (shape : Shape β) (rest : Fields α) : Fields α

end

namespace Fields

variable {α β : Type}

/-- A field that may be absent. -/
@[reducible] def field (key : String) (get : α → β) (set : β → α → α) (shape : Shape β)
    (rest : Fields α) : Fields α :=
  .cons .defaulted key get set shape rest

/-- A field that must be given. -/
@[reducible] def required (key : String) (get : α → β) (set : β → α → α) (shape : Shape β)
    (rest : Fields α) : Fields α :=
  .cons .required key get set shape rest

/-- A field that may be left out of an object and has no value then. -/
@[reducible] def nullable (key : String) (get : α → Option β) (set : Option β → α → α)
    (shape : Shape β) (rest : Fields α) : Fields α :=
  .cons .nullable key get set (.option shape) rest

/-- The keys of the fields. -/
def keys : {α : Type} → Fields α → List String
  | _, .none => []
  | _, .cons _ key _ _ _ rest => key :: rest.keys
  | _, .omittable key _ _ _ rest => key :: rest.keys

/-- The first field that must be there and is not among the given keys. -/
def missing : {α : Type} → Fields α → List String → Option String
  | _, .none, _ => .none
  | _, .cons presence key _ _ _ rest, given =>
    if presence = .required ∧ key ∉ given then some key else rest.missing given
  | _, .omittable _ _ _ _ rest, given => rest.missing given

end Fields

namespace Shape

/-- The keys of the fields of a record; anything else has none. -/
def keys : {α : Type} → Shape α → List String
  | _, .record _ _ fields => fields.keys
  | _, .extensible _ _ fields _ _ => fields.keys
  | _, _ => []

/-- A value that is kept as it is. -/
@[reducible] def json : Shape Json := .any id id

end Shape

end ClusterRegistry

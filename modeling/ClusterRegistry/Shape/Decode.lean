import ClusterRegistry.Shape.Basic

/-!
# Decoding values

`Shape.decode` reads a JSON value. An object is walked in the order of its members and the
first mismatch is reported, so a value whose keys are sorted reports the mismatch with the
least key. `Shape.encode` writes a value with its fields in the order of their declaration.
-/

namespace ClusterRegistry

/-- The mismatch of a value that has another type than the wanted one. -/
def mismatch {α : Type} (v : Json) (wanted : Wanted) : Except Mismatch α :=
  .error (.wrongType (.ofJson v) wanted)

/-- The natural number below `2 ^ bits` that a number is. -/
def wordOf (bits : Nat) : Json.Number → Except Mismatch Nat
  | .integer i =>
    if 0 ≤ i ∧ i < Decimal.twoPow bits then .ok i.toNat else .error (.outOfRange i (.word bits))
  | .real x => .error (.wrongType (.number (.real x)) (.word bits))

/-- The natural number below `2 ^ bits` that a value is. -/
def decodeWord (bits : Nat) : Json → Except Mismatch Nat
  | .number n => wordOf bits n
  | v => mismatch v (.word bits)

/-- The text that a value is. -/
def decodeText : Json → Except Mismatch String
  | .text s => .ok s
  | v => mismatch v .text

/-- The text table that the members of an object are. -/
def decodeTexts (members : List (String × Json)) : Except Mismatch (Table String String) :=
  members.foldlM (fun t m => (decodeText m.2).map (t.insert m.1)) .empty

/-- The value that a name stands for. -/
def chooseNamed {α : Type} (known : List (String × α)) (s : String) : Except Mismatch α :=
  match known.find? fun o => o.1 == s with
  | some o => .ok o.2
  | none => .error (.unknownVariant s (known.map (·.1)))

/-- The fields that must be there are among the given keys. -/
def Fields.complete {α : Type} (fields : Fields α) (given : List String) : Except Mismatch Unit :=
  match fields.missing given with
  | .some key => .error (.missingField key)
  | .none => .ok ()

mutual

/-- The value of the library that a JSON value says. -/
def Shape.decode : {α : Type} → Shape α → Json → Except Mismatch α
  | _, .text, v => decodeText v
  | _, .flag, .bool b => .ok b
  | _, .flag, v => mismatch v .flag
  | _, .word16, v => (decodeWord 16 v).map UInt16.ofNat
  | _, .word32, v => (decodeWord 32 v).map UInt32.ofNat
  | _, .word64, v => (decodeWord 64 v).map UInt64.ofNat
  | _, .any ofJson _, v => do return ofJson (← orFault v.settle)
  | _, .list item, .array vs => vs.mapM fun v => item.decode v
  | _, .list _, v => mismatch v .sequence
  | _, .texts, .object members => decodeTexts members
  | _, .texts, v => mismatch v .map
  | _, .members, .object members => do return .ofList (← orFault (Json.settleMembers members))
  | _, .members, v => mismatch v .map
  | _, .option _, .null => .ok none
  | _, .option item, v => (item.decode v).map some
  | _, .choice known _, v => do chooseNamed known (← decodeText v)
  | _, .record _ blank fields, .object members => do
    let a ← members.foldlM (fun a m => fields.assign m.1 m.2 a) blank
    fields.complete (members.map (·.1))
    return a
  | _, .record name blank fields, .array items => do
    let a ← fields.fill name fields.keys.length 0 items blank
    if fields.keys.length < items.length then
      throw (.wrongLength items.length (.atMost fields.keys.length))
    return a
  | _, .record name _ _, v => mismatch v (.record name)
  | _, .extensible _ blank fields _ withOthers, .object members => do
    let a ← members.foldlM (fun a m => fields.assign m.1 m.2 a) blank
    fields.complete (members.map (·.1))
    let others ← orFault (Json.settleMembers (members.filter fun m => m.1 ∉ fields.keys))
    return withOthers (.ofList others) a
  | _, .extensible name _ _ _ _, v => mismatch v (.record name)
  | _, .abbreviated _ ofText _ _, .text s => .ok (ofText s)
  | _, .abbreviated _ _ absent _, .null => .ok absent
  | _, .abbreviated name _ _ form, .object members =>
    (form.decode (.object members)).mapError fun _ => .noForm name
  | _, .abbreviated name _ _ _, _ => .error (.noForm name)

/-- The record with the field of the given key set, if there is one. -/
def Fields.assign : {α : Type} → Fields α → String → Json → α → Except Mismatch α
  | _, .none, _, _, a => .ok a
  | _, .cons _ key _ set shape rest, k, v, a =>
    if k = key then (shape.decode v).map fun b => set b a else rest.assign k v a
  | _, .omittable key _ set shape rest, k, v, a =>
    if k = key then
      match v with
      | .null => .ok (set .none a)
      | v => (shape.decode v).map fun b => set (some b) a
    else rest.assign k v a

/-- The record with its fields set to the items of an array, from the field `index` on of
`total` ones. -/
def Fields.fill : {α : Type} → Fields α → String → Nat → Nat → List Json → α →
    Except Mismatch α
  | _, .none, _, _, _, _, a => .ok a
  | _, .cons .defaulted _ _ _ _ rest, name, total, index, [], a =>
    rest.fill name total (index + 1) [] a
  | _, .cons _ _ _ _ _ _, name, total, index, [], _ =>
    .error (.wrongLength index (.record name total))
  | _, .cons _ _ _ set shape rest, name, total, index, v :: vs, a => do
    let b ← shape.decode v
    rest.fill name total (index + 1) vs (set b a)
  | _, .omittable _ _ _ _ rest, name, total, index, [], a =>
    rest.fill name total (index + 1) [] a
  | _, .omittable _ _ set _ rest, name, total, index, .null :: vs, a =>
    rest.fill name total (index + 1) vs (set .none a)
  | _, .omittable _ _ set shape rest, name, total, index, v :: vs, a => do
    let b ← shape.decode v
    rest.fill name total (index + 1) vs (set (some b) a)

end

mutual

/-- The JSON value that says a value of the library. -/
def Shape.encode : {α : Type} → Shape α → α → Json
  | _, .text, s => .text s
  | _, .flag, b => .bool b
  | _, .word16, n => .ofNat n.toNat
  | _, .word32, n => .ofNat n.toNat
  | _, .word64, n => .ofNat n.toNat
  | _, .any _ toJson, a => toJson a
  | _, .list item, vs => .array (vs.map fun v => item.encode v)
  | _, .texts, t => .ofTable (t.mapValues fun _ s => .text s)
  | _, .members, t => .ofTable t
  | _, .option _, none => .null
  | _, .option item, some a => item.encode a
  | _, .choice _ nameOf, a => .text (nameOf a)
  | _, .record _ _ fields, a => .object (fields.encode a)
  | _, .extensible _ _ fields others _, a => .object (fields.encode a ++ (others a).entries)
  | _, .abbreviated _ _ _ form, a => form.encode a

/-- The members that say the fields of a record. -/
def Fields.encode : {α : Type} → Fields α → α → List (String × Json)
  | _, .none, _ => []
  | _, .cons _ key get _ shape rest, a => (key, shape.encode (get a)) :: rest.encode a
  | _, .omittable key get _ shape rest, a =>
    match get a with
    | none => rest.encode a
    | some b => (key, shape.encode b) :: rest.encode a

end

end ClusterRegistry

import ClusterRegistry.Shape.Decode

/-!
# Decoding texts in reading order

`Shape.read` decodes a document from left to right and reports the first thing wrong, in the
shape of the text or in its syntax, whichever stands first. Two differences from decoding a
value follow from that order: a key that is given twice is refused where it comes up again,
and an array that is too long is refused as a text that goes on where it should end.
-/

namespace ClusterRegistry

open Json (Break Document Fault)

/-- Reading something as a value. -/
def asValue : Json.Reading := .value Json.ofEmbedded

/-- The number of further levels inside an array or an object. -/
def descend : Nat → Except Mismatch Nat
  | 0 | 1 => .error (.syntaxFault .tooDeep)
  | depth + 1 => .ok depth

/-- The mismatch of a document that has another type than the wanted one. -/
def mismatchAt {α : Type} (d : Document) (wanted : Wanted) : Except Mismatch α :=
  .error (.ofDocument d wanted)

/-- The text that a document is. -/
def readText : Document → Except Mismatch String
  | .text s => orFault s
  | d => mismatchAt d .text

/-- The natural number below `2 ^ bits` that a document is. -/
def readWord (bits : Nat) : Document → Except Mismatch Nat
  | .number n => do wordOf bits (← orFault n)
  | d => mismatchAt d (.word bits)

/-- The end of an array after its last wanted item: anything but a bracket goes on too long. -/
def endItems (left : List Document) (stop : Option Break) : Except Mismatch Unit :=
  match left, stop with
  | _ :: _, _ => .error (.syntaxFault .trailingCharacters)
  | [], none => .ok ()
  | [], some b =>
    match b.reading with
    | .endInValue | .expectedListCommaOrEnd => .error (.syntaxFault .trailingCharacters)
    | f => .error (.syntaxFault f)

/-- The end of an object after its only wanted member. -/
def endMember (left : List (Except Fault String × Document)) (stop : Option Break) :
    Except Mismatch Unit :=
  match left, stop with
  | _ :: _, _ => .error (.syntaxFault .expectedValue)
  | [], none => .ok ()
  | [], some b =>
    match b.reading with
    | .endInObject => .error (.syntaxFault .endInObject)
    | _ => .error (.syntaxFault .expectedValue)

/-- One of some names: a text, or an object with the name as its only key and `null` under
it. Whatever cannot start either is no value at all, and neither is an object without keys. -/
def readChoice {α : Type} (known : List (String × α)) (depth : Nat) :
    Document → Except Mismatch α
  | .text s => do chooseNamed known (← orFault s)
  | .object ((key, d) :: left) stop => do
    let _ ← descend depth
    let a ← chooseNamed known (← orFault key)
    match d with
    | .null => endMember left stop
    | d => mismatchAt d .nothing
    return a
  | .object [] stop => do
    let _ ← descend depth
    throw (.syntaxFault ((stop.map (·.naming)).getD .expectedValue))
  | .broken b => .error (.syntaxFault b.naming)
  | _ => .error (.syntaxFault .expectedValue)

/-- The text table that the members of an object are. -/
def readTexts (members : List (Except Fault String × Document)) :
    Except Mismatch (Table String String) :=
  members.foldlM (fun t m => do
    let k ← orFault m.1
    let s ← readText m.2
    return t.insert k s) .empty

mutual

/-- The value of the library that a document says, with a number of levels allowed. -/
def Shape.read : {α : Type} → Shape α → Nat → Document → Except Mismatch α
  | _, .text, _, d => readText d
  | _, .flag, _, .bool b => .ok b
  | _, .flag, _, d => mismatchAt d .flag
  | _, .word16, _, d => (readWord 16 d).map UInt16.ofNat
  | _, .word32, _, d => (readWord 32 d).map UInt32.ofNat
  | _, .word64, _, d => (readWord 64 d).map UInt64.ofNat
  | _, .any ofJson _, depth, d => (orFault (d.read asValue depth)).map ofJson
  | _, .list item, depth, .array items stop => do
    let depth ← descend depth
    let as ← items.mapM fun d => item.read depth d
    orFault (Document.stopReading stop)
    return as
  | _, .list _, _, d => mismatchAt d .sequence
  | _, .texts, depth, .object members stop => do
    let _ ← descend depth
    let t ← readTexts members
    orFault (Document.stopReading stop)
    return t
  | _, .texts, _, d => mismatchAt d .map
  | _, .members, depth, .object members stop => do
    let depth ← descend depth
    let ms ← orFault (Document.readMembers asValue depth members)
    orFault (Document.stopReading stop)
    return .ofList ms
  | _, .members, _, d => mismatchAt d .map
  | _, .option _, _, .null => .ok none
  | _, .option item, depth, d => (item.read depth d).map some
  | _, .choice known _, depth, d => readChoice known depth d
  | _, .record _ blank fields, depth, .object members stop => do
    let depth ← descend depth
    let (a, given) ← members.foldlM
      (fun s m => do
        let k ← orFault m.1
        if k ∉ fields.keys then
          orFault m.2.skip
          return s
        if k ∈ s.2 then throw (.duplicateField k)
        let a ← fields.readMember k depth m.2 s.1
        return (a, k :: s.2))
      (blank, ([] : List String))
    orFault (Document.stopReading stop)
    fields.complete given
    return a
  | _, .record name blank fields, depth, .array items stop => do
    let depth ← descend depth
    let (a, left) ← fields.readItems name fields.keys.length 0 depth stop items blank
    endItems left stop
    return a
  | _, .record name _ _, _, d => mismatchAt d (.record name)
  | _, .extensible _ blank fields _ withOthers, depth, .object members stop => do
    let depth ← descend depth
    let (a, given, others) ← members.foldlM
      (fun s m => do
        let k ← orFault m.1
        if k ∉ fields.keys then
          let v ← orFault (m.2.read .written depth)
          return (s.1, s.2.1, (k, v) :: s.2.2)
        if k ∈ s.2.1 then throw (.duplicateField k)
        let a ← fields.readMember k depth m.2 s.1
        return (a, k :: s.2.1, s.2.2))
      (blank, ([] : List String), ([] : List (String × Json)))
    orFault (Document.stopReading stop)
    fields.complete given
    return withOthers (.ofList (← orFault (Json.settleMembers others.reverse))) a
  | _, .extensible name _ _ _ _, _, d => mismatchAt d (.record name)
  | _, .abbreviated name ofText absent form, depth, d => do
    let _ ← orFault (d.read .written depth)
    match d with
    | .text (.ok s) => return ofText s
    | .null => return absent
    | .object members stop =>
      (form.read depth (.object members stop)).mapError fun _ => .noForm name
    | _ => throw (.noForm name)

/-- The record with the field of the given key read from a document. -/
def Fields.readMember : {α : Type} → Fields α → String → Nat → Document → α →
    Except Mismatch α
  | _, .none, _, _, _, a => .ok a
  | _, .cons _ key _ set shape rest, k, depth, d, a =>
    if k = key then (shape.read depth d).map fun b => set b a else rest.readMember k depth d a
  | _, .omittable key _ set shape rest, k, depth, d, a =>
    if k = key then
      match d with
      | .null => .ok (set .none a)
      | d => (shape.read depth d).map fun b => set (some b) a
    else rest.readMember k depth d a

/-- The record with its fields read from the items of an array, from the field `index` on of
`total` ones, and the items that are left. -/
def Fields.readItems : {α : Type} → Fields α → String → Nat → Nat → Nat → Option Break →
    List Document → α → Except Mismatch (α × List Document)
  | _, .none, _, _, _, _, _, left, a => .ok (a, left)
  | _, .cons presence _ _ _ _ rest, name, total, index, depth, stop, [], a => do
    orFault (Document.stopReading stop)
    if presence = .defaulted then rest.readItems name total (index + 1) depth stop [] a
    else throw (.wrongLength index (.record name total))
  | _, .cons _ _ _ set shape rest, name, total, index, depth, stop, d :: ds, a => do
    let b ← shape.read depth d
    rest.readItems name total (index + 1) depth stop ds (set b a)
  | _, .omittable _ _ _ _ rest, name, total, index, depth, stop, [], a => do
    orFault (Document.stopReading stop)
    rest.readItems name total (index + 1) depth stop [] a
  | _, .omittable _ _ set _ rest, name, total, index, depth, stop, .null :: ds, a =>
    rest.readItems name total (index + 1) depth stop ds (set .none a)
  | _, .omittable _ _ set shape rest, name, total, index, depth, stop, d :: ds, a => do
    let b ← shape.read depth d
    rest.readItems name total (index + 1) depth stop ds (set (some b) a)

end

namespace Shape

variable {α : Type}

/-- The value that a payload says, decoded from left to right. -/
def ofPayload (shape : Shape α) (p : Json.Payload) : Except Mismatch α := do
  let a ← shape.read Document.maxDepth p.root
  orFault p.finish
  return a

end Shape

end ClusterRegistry

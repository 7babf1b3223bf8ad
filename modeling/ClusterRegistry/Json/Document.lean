import ClusterRegistry.Json.Fault

/-!
# JSON texts in reading order

A `Document` is what a text says from left to right: members in the order they are written,
repeated keys included, and a `Break` where the text stops being JSON. Decoding that reports
the first thing wrong in a text, be it in its shape or in its syntax, walks a document.

A text is gone over in one of three ways. Where its content matters it is *read*; where a key
is not known it is *skipped*, which asks less of it: a skipped number may be out of range, a
skipped text may hold half a surrogate pair, and nesting is not limited; and where the name of
a choice is wanted, whatever cannot start one is refused at its first character. So a part that
only reading refuses carries the fault with it and does not end the document.

A text may hold another one: an object with `embeddedKey` as its first key stands for the
value that the text under that key says.

* `Document.read` reads the whole document, as a value or as it is written;
* `Document.skip` passes over it;
* `Document.ofJson` is the document of a text that says a given value.
-/

namespace ClusterRegistry.Json

/-- A place where a text stops being JSON, with the fault met in each way of going over it. -/
structure Break where
  reading : Fault
  skipping : Fault
  /-- The fault met where the name of a choice is wanted. -/
  naming : Fault

/-- A break in a place where it does not matter what is wanted. -/
def Break.faults (reading skipping : Fault) : Break := ⟨reading, skipping, reading⟩

/-- A break in something that was begun and is not a text. -/
def Break.unfinished (reading skipping : Fault) : Break := ⟨reading, skipping, .expectedValue⟩

/-- A JSON text in reading order, up to the first break. -/
inductive Document
  | null
  | bool (value : Bool)
  | number (value : Except Fault Number)
  | text (value : Except Fault String)
  | array (items : List Document) (stop : Option Break)
  | object (members : List (Except Fault String × Document)) (stop : Option Break)
  | broken (b : Break)

/-- The key of an object that stands for the text under it. -/
def embeddedKey : String := "$serde_json::private::RawValue"

/-- How a document is read. -/
inductive Reading
  /-- As it is written: members in their order, repeated keys included. -/
  | written
  /-- As a value: members by key, and embedded texts read by the given function. -/
  | value (embedded : String → Except Fault Json)

/-- The way of reading embedded texts, if an object with these members holds one. -/
def Reading.embedded? : Reading → List (Except Fault String × Document) →
    Option (String → Except Fault Json)
  | .value embedded, (.ok key, _) :: _ => if key = embeddedKey then some embedded else none
  | _, _ => none

/-- The object of some members. -/
def Reading.close : Reading → List (String × Json) → Json
  | .written, members => .object members
  | .value _, members => .object (Table.ofList members).entries

namespace Document

/-- What a document is, as far as a message shows it. -/
def found : Document → Except Fault Found
  | .null => .ok .null
  | .bool b => .ok (.flag b)
  | .number n => n.map .number
  | .text s => s.map .text
  | .array _ _ => .ok .sequence
  | .object _ _ => .ok .map
  | .broken b => .error b.reading

/-- How many arrays and objects may stand inside one another in a text that is read. -/
def maxDepth : Nat := 128

/-- Reading succeeds at the end of a list of parts unless there is a break. -/
def stopReading : Option Break → Except Fault Unit
  | none => .ok ()
  | some b => .error b.reading

/-- The end of an object after the member that holds an embedded text. -/
def endEmbedded (left : List (Except Fault String × Document)) (stop : Option Break) :
    Except Fault Unit :=
  match left, stop with
  | _ :: _, _ => .error .trailingComma
  | [], none => .ok ()
  | [], some b =>
    match b.reading with
    | .endInObject => .error .endInObject
    | .expectedObjectCommaOrEnd => .error .trailingCharacters
    | _ => .error .trailingComma

/-- The value of an object that holds an embedded text: the document under its first key, the
members after it, and how it ends. -/
def readEmbedded (embedded : String → Except Fault Json) (d : Document)
    (left : List (Except Fault String × Document)) (stop : Option Break) :
    Except Fault Json :=
  match d with
  | .text s => do
    let v ← embedded (← s)
    endEmbedded left stop
    return v
  | d => do throw (.notEmbedded (← d.found))

mutual

/-- What a document says, with a number of further levels allowed. -/
def read (r : Reading) (depth : Nat) : Document → Except Fault Json
  | .null => .ok .null
  | .bool b => .ok (.bool b)
  | .number n => n.map .number
  | .text s => s.map .text
  | .array items stop =>
    match depth with
    | 0 | 1 => .error .tooDeep
    | depth + 1 => do
      let vs ← readItems r depth items
      stopReading stop
      return .array vs
  | .object members stop =>
    match depth with
    | 0 | 1 => .error .tooDeep
    | depth + 1 =>
      match r.embedded? members, members with
      | some embedded, (_, d) :: left => readEmbedded embedded d left stop
      | _, members => do
        let ms ← readMembers r depth members
        stopReading stop
        return r.close ms
  | .broken b => .error b.reading

/-- What a list of documents says. -/
def readItems (r : Reading) (depth : Nat) : List Document → Except Fault (List Json)
  | [] => .ok []
  | d :: rest => do
    let v ← read r depth d
    let vs ← readItems r depth rest
    return v :: vs

/-- The members that a list of written members says. -/
def readMembers (r : Reading) (depth : Nat) :
    List (Except Fault String × Document) → Except Fault (List (String × Json))
  | [] => .ok []
  | m :: rest => do
    let k ← m.1
    let v ← read r depth m.2
    let ms ← readMembers r depth rest
    return (k, v) :: ms

end

mutual

/-- Passing over a document, which fails at the first break. -/
def skip : Document → Except Fault Unit
  | .null | .bool _ | .number _ | .text _ => .ok ()
  | .array items stop => do
    skipItems items
    match stop with
    | none => .ok ()
    | some b => .error b.skipping
  | .object members stop => do
    skipMembers members
    match stop with
    | none => .ok ()
    | some b => .error b.skipping
  | .broken b => .error b.skipping

/-- Passing over a list of documents. -/
def skipItems : List Document → Except Fault Unit
  | [] => .ok ()
  | d :: rest => do
    skip d
    skipItems rest

/-- Passing over a list of members. -/
def skipMembers : List (Except Fault String × Document) → Except Fault Unit
  | [] => .ok ()
  | m :: rest => do
    skip m.2
    skipMembers rest

end

mutual

/-- The document of a text that says the given value, members in their order. -/
def ofJson : Json → Document
  | .null => .null
  | .bool b => .bool b
  | .number n => .number (.ok n)
  | .text s => .text (.ok s)
  | .array items => .array (ofItems items) none
  | .object members => .object (ofMembers members) none

/-- The documents of a list of values. -/
def ofItems : List Json → List Document
  | [] => []
  | v :: rest => ofJson v :: ofItems rest

/-- The written members of a list of members. -/
def ofMembers : List (String × Json) → List (Except Fault String × Document)
  | [] => []
  | m :: rest => (.ok m.1, ofJson m.2) :: ofMembers rest

end

end Document

/-- A whole payload: its document, and whether anything but white space follows it. -/
structure Payload where
  root : Document
  trailing : Bool

/-- The payload that says a value and nothing else. -/
def Payload.ofJson (v : Json) : Payload := ⟨.ofJson v, false⟩

/-- What follows a document that was read must be nothing. -/
def Payload.finish (p : Payload) : Except Fault Unit :=
  if p.trailing then .error .trailingCharacters else .ok ()

/-- What a payload says. -/
def Payload.read (r : Reading) (p : Payload) : Except Fault Json := do
  let v ← p.root.read r Document.maxDepth
  p.finish
  return v

end ClusterRegistry.Json

import ClusterRegistry.Json.Reader

/-!
# Texts inside texts

An object whose first key is `embeddedKey` stands for the value of the JSON text under that
key. It may turn up while a text is read as a value, and again when a value that was read as it
is written, or that was put in order, is taken for what it stands for. An embedded text may
embed further ones, each shorter than the one around it, so the length of the outermost bounds
their number.
-/

namespace ClusterRegistry.Json

/-- The value that an embedded text says, with a number of further levels allowed. Without any
the text must be empty, and the empty text says nothing. -/
def readEmbedded : Nat → String → Except Fault Json
  | 0, _ => .error .endInValue
  | levels + 1, s => (Payload.ofText s).read (.value (readEmbedded levels))

/-- The value that an embedded text says. -/
def ofEmbedded (s : String) : Except Fault Json := readEmbedded s.utf8ByteSize s

/-- The value that a payload says. -/
def Payload.value (p : Payload) : Except Fault Json := p.read (.value ofEmbedded)

mutual

/-- The value that another one stands for: members by key, and embedded texts read. -/
def settle : Json → Except Fault Json
  | .array items => do return .array (← settleItems items)
  | .object [] => .ok (.object [])
  | .object (m :: rest) =>
    if m.1 = embeddedKey then
      match m.2 with
      | .text s => do
        let v ← ofEmbedded s
        if rest.isEmpty then return v else throw (.notAlone (rest.length + 1))
      | v => .error (.notEmbedded (.ofJson v))
    else do return .object (Table.ofList (← settleMembers (m :: rest))).entries
  | v => .ok v

/-- The values that the items of an array stand for. -/
def settleItems : List Json → Except Fault (List Json)
  | [] => .ok []
  | v :: rest => do
    let v ← settle v
    let vs ← settleItems rest
    return v :: vs

/-- Members with the values that theirs stand for. -/
def settleMembers : List (String × Json) → Except Fault (List (String × Json))
  | [] => .ok []
  | m :: rest => do
    let v ← settle m.2
    let ms ← settleMembers rest
    return (m.1, v) :: ms

end

end ClusterRegistry.Json

import ClusterRegistry.Json.Token

/-!
# From bytes to documents

`Payload.ofBytes` reads any bytes as a payload: what is not JSON ends in a break. Each
step of the reader uses up at least one byte or ends the document, so three times the number of
bytes bounds the number of steps.
-/

namespace ClusterRegistry.Json

open Token

namespace Document

/-- A part of a document and the bytes after it; none are left after a break. -/
abbrev Step (α : Type) := α × Option (List UInt8)

/-- A break that reading and skipping meet alike. -/
def stopAt (f : Fault) : Break := .faults f f

/-- The rest of a literal whose first letter was read. -/
def literal (value : Document) : List UInt8 → List UInt8 → Step Document
  | [], bs => (value, some bs)
  | _ :: _, [] => (.broken (.unfinished .endInValue .endInValue), none)
  | c :: cs, b :: bs =>
    if b = c then literal value cs bs
    else (.broken (.unfinished .expectedLiteral .expectedLiteral), none)

/-- The text after an opening quote, or the break in it. -/
def textToken (bs : List UInt8) : Except Break (Except Fault String × List UInt8) :=
  let reading := readText bs
  match skipText bs with
  | .ok rest => .ok (reading, rest)
  | .error skipping =>
    match reading with
    | .ok _ => .error (stopAt skipping)
    | .error f => .error (.faults f skipping)

/-- The document of a number. -/
def numberToken (bs : List UInt8) : Step Document :=
  match numeral bs with
  | .ok (n, rest) => (.number n.value, some rest)
  | .error b => (.broken b, none)

mutual

/-- The document at the start of the bytes. -/
def parse : Nat → List UInt8 → Step Document
  | 0, _ => (.broken (stopAt .endInValue), none)
  | fuel + 1, bs =>
    match skipSpace bs with
    | [] => (.broken (stopAt .endInValue), none)
    | b :: rest =>
      if b = 0x6E then literal .null [0x75, 0x6C, 0x6C] rest
      else if b = 0x74 then literal (.bool true) [0x72, 0x75, 0x65] rest
      else if b = 0x66 then literal (.bool false) [0x61, 0x6C, 0x73, 0x65] rest
      else if b = 0x2D || isDigit b then numberToken (b :: rest)
      else if b = 0x22 then
        match textToken rest with
        | .ok (s, rest) => (.text s, some rest)
        | .error b => (.broken b, none)
      else if b = 0x5B then
        let ((items, stop), rest) := parseItems fuel true rest
        (.array items stop, rest)
      else if b = 0x7B then
        let ((members, stop), rest) := parseMembers fuel true rest
        (.object members stop, rest)
      else (.broken (stopAt .expectedValue), none)

/-- The items of an array up to its bracket; `first` until one was read. -/
def parseItems : Nat → Bool → List UInt8 → Step (List Document × Option Break)
  | 0, _, _ => (([], some (stopAt .endInList)), none)
  | fuel + 1, first, bs =>
    match skipSpace bs with
    | [] => (([], some (stopAt .endInList)), none)
    | b :: rest =>
      if b = 0x5D then (([], none), some rest)
      else if first then parseItem fuel (b :: rest)
      else if b = 0x2C then
        match skipSpace rest with
        | [] => (([], some (stopAt .endInValue)), none)
        | 0x5D :: _ => (([], some (.faults .trailingComma .expectedValue)), none)
        | rest => parseItem fuel rest
      else (([], some (stopAt .expectedListCommaOrEnd)), none)

/-- One item of an array, and the items after it. -/
def parseItem : Nat → List UInt8 → Step (List Document × Option Break)
  | 0, _ => (([], some (stopAt .endInList)), none)
  | fuel + 1, bs =>
    match parse fuel bs with
    | (item, none) => (([item], none), none)
    | (item, some rest) =>
      let ((items, stop), rest) := parseItems fuel false rest
      ((item :: items, stop), rest)

/-- The members of an object up to its brace; `first` until one was read. -/
def parseMembers :
    Nat → Bool → List UInt8 → Step (List (Except Fault String × Document) × Option Break)
  | 0, _, _ => (([], some (stopAt .endInObject)), none)
  | fuel + 1, first, bs =>
    match skipSpace bs with
    | [] => (([], some (stopAt .endInObject)), none)
    | b :: rest =>
      if b = 0x7D then (([], none), some rest)
      else if first then
        if b = 0x22 then parseMember fuel rest
        else (([], some (stopAt .keyNotText)), none)
      else if b = 0x2C then
        match skipSpace rest with
        | [] => (([], some (.faults .endInValue .endInObject)), none)
        | 0x22 :: rest => parseMember fuel rest
        | 0x7D :: _ => (([], some (.faults .trailingComma .keyNotText)), none)
        | _ => (([], some (stopAt .keyNotText)), none)
      else (([], some (stopAt .expectedObjectCommaOrEnd)), none)

/-- One member of an object after the opening quote of its key, and the members after it. -/
def parseMember :
    Nat → List UInt8 → Step (List (Except Fault String × Document) × Option Break)
  | 0, _ => (([], some (stopAt .endInObject)), none)
  | fuel + 1, bs =>
    match textToken bs with
    | .error b => (([], some b), none)
    | .ok (key, rest) =>
      match skipSpace rest with
      | [] => (([(key, .broken (stopAt .endInObject))], none), none)
      | 0x3A :: rest =>
        match parse fuel rest with
        | (value, none) => (([(key, value)], none), none)
        | (value, some rest) =>
          let ((members, stop), rest) := parseMembers fuel false rest
          (((key, value) :: members, stop), rest)
      | _ => (([(key, .broken (stopAt .expectedColon))], none), none)

end

end Document

/-- The payload that some bytes are read as. -/
def Payload.ofBytes (bytes : List UInt8) : Payload :=
  let (root, rest) := Document.parse (3 * bytes.length + 3) bytes
  ⟨root, !(skipSpace (rest.getD [])).isEmpty⟩

/-- The payload that a text is read as. -/
def Payload.ofText (s : String) : Payload := .ofBytes s.toUTF8.toList

end ClusterRegistry.Json

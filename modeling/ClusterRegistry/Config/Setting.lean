import ClusterRegistry.Config.Path
import ClusterRegistry.Json.Printer
import ClusterRegistry.Text.Lower

/-!
# Settings

Settings form a tree of tables and lists. The tree grows by assignments, each of a setting to a
path, and whatever is missing on the way to it is made: a table that is put where a table
stands is merged into it entry by entry, and everything else replaces what was there. Keys that
are merged are put in lower case; below an item of a list everything stays as it was given.

Settings are read leniently, because some of them come as texts only: a text may stand for a
number or a truth value, and the other way around.
-/

namespace ClusterRegistry

/-- A setting. -/
inductive Setting
  | nothing
  | flag (value : Bool)
  | integer (value : Int)
  | real (value : Float)
  | text (value : String)
  | list (items : List Setting)
  | table (entries : List (String × Setting))
deriving Inhabited

namespace Setting

/-- The entries of a table; anything else has none. -/
def entries : Setting → List (String × Setting)
  | .table es => es
  | _ => []

/-- The setting under a key. -/
def find? (key : String) (es : List (String × Setting)) : Option Setting := es.lookup key

/-- The entries with a setting put under a key. -/
def put (key : String) (v : Setting) (es : List (String × Setting)) :
    List (String × Setting) :=
  if (es.lookup key).isSome then es.map fun e => if e.1 = key then (key, v) else e
  else es ++ [(key, v)]

/-- The items of a list; anything else has none. -/
def items : Setting → List Setting
  | .list vs => vs
  | _ => []

mutual

/-- A table with a setting put under a key; what is no table gives way to one. -/
def setKey (s : Setting) (key : String) : Setting → Setting
  | .table es =>
    .table (put key (merge ((find? key s.entries).getD (.table [])) es) s.entries)
  | v => .table (put key v s.entries)

/-- A setting with the entries of a table merged into it, their keys in lower case. -/
def merge (s : Setting) : List (String × Setting) → Setting
  | [] => s
  | e :: rest => merge (setKey s (Text.lower e.1) e.2) rest

end

/-- The place in a list that an index names; a negative one counts from the end. -/
def place? (length : Nat) (i : Int) : Option Nat :=
  if 0 ≤ i then some i.toNat
  else if i.natAbs ≤ length then some (length - i.natAbs)
  else none

/-- A setting with another one put at the end of a path. It fails only where an index counts
back beyond the start of a list. -/
def assign (v : Setting) : Path → Setting → Option Setting
  | [], _ => some v
  | [.key name], s => some (s.setKey name v)
  | .key name :: path, s => do
    let inner ← assign v path ((find? name s.entries).getD .nothing)
    return .table (put name inner s.entries)
  | .index i :: path, s => do
    let n ← place? s.items.length i
    let vs := s.items ++ List.replicate (n + 1 - s.items.length) .nothing
    let inner ← assign v path (vs.getD n .nothing)
    return .list (vs.set n inner)

/-- A setting for a path. -/
structure Assignment where
  path : Path
  value : Setting

/-- The table that some assignments make one after the other. -/
def ofAssignments (as : List Assignment) : Option Setting :=
  as.foldlM (fun s a => assign a.value a.path s) (.table [])

mutual

/-- The setting that a JSON value says. -/
def ofJson : Json → Setting
  | .null => .nothing
  | .bool b => .flag b
  | .number (.integer i) =>
    if i ≤ Decimal.greatestInteger then .integer i else .real (Float.ofInt i)
  | .number (.real x) => .real x
  | .text s => .text s
  | .array items => .list (ofItems items)
  | .object members => .table (ofMembers members)

/-- The settings that the items of an array say. -/
def ofItems : List Json → List Setting
  | [] => []
  | v :: rest => ofJson v :: ofItems rest

/-- The entries that the members of an object say. -/
def ofMembers : List (String × Json) → List (String × Setting)
  | [] => []
  | m :: rest => (m.1, ofJson m.2) :: ofMembers rest

end

/-! ## Lenient readings -/

/-- The natural number that a text says: digits, perhaps after a plus sign, or a word for a
truth value. -/
def natOfText (s : String) : Option Nat :=
  match Text.lower s with
  | "true" | "on" | "yes" => some 1
  | "false" | "off" | "no" => some 0
  | s =>
    let digits := match s.toList with
      | '+' :: rest => rest
      | cs => cs
    if !digits.isEmpty && digits.all Char.isDigit then some (Nat.ofDigitChars 10 digits 0)
    else none

/-- The natural number that a setting says. -/
def nat? : Setting → Option Nat
  | .flag b => some b.toNat
  | .integer i => if 0 ≤ i then some i.toNat else none
  | .real x => some x.round.toUInt64.toNat
  | .text s => natOfText s
  | _ => none

/-- The natural number below `2 ^ bits` that a setting says. -/
def word? (bits : Nat) (s : Setting) : Option Nat := do
  let n ← s.nat?
  if n < Decimal.twoPow bits then some n else none

/-- A double in positional notation, without a fraction where it is whole. -/
def plainReal (x : Float) : String :=
  let d := Decimal.shortest x
  let digits := Nat.toDigits 10 d.digits
  let body :=
    if 0 ≤ d.exp then digits ++ List.replicate d.exp.toNat '0'
    else Json.positional digits (digits.length + d.exp)
  String.ofList (if Decimal.isNegative x then '-' :: body else body)

/-- The text that a setting says. -/
def text? : Setting → Option String
  | .flag b => some (if b then "true" else "false")
  | .integer i => some (toString i)
  | .real x => some (plainReal x)
  | .text s => some s
  | _ => none

/-- The reading of a setting that may be nothing. -/
def orNothing {α : Type} (read : Setting → Option α) : Setting → Option (Option α)
  | .nothing => some none
  | s => (read s).map some

/-- The entries of a setting that is a table. -/
def table? : Setting → Option (List (String × Setting))
  | .table es => some es
  | _ => none

/-- The entries of a setting that has the given keys: a table, which may lack some of them, or
a list with an item for each of them. -/
def record? (keys : List String) : Setting → Option (List (String × Setting))
  | .list items => if keys.length ≤ items.length then some (keys.zip items) else none
  | s => s.table?

end Setting

end ClusterRegistry

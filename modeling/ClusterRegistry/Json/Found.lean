import ClusterRegistry.Json.Printer
import ClusterRegistry.Text.Quoted

/-!
# What stands in a place

A message about a wrong value shows a simple value as it is, and of an array or an object
only that it is one.
-/

namespace ClusterRegistry.Json

/-- What stands in a place, as far as a message shows it. -/
inductive Found
  | flag (value : Bool)
  | number (value : Number)
  | text (value : String)
  | null
  | sequence
  | map

/-- What a value is, as far as a message shows it. -/
def Found.ofJson : Json → Found
  | .null => .null
  | .bool b => .flag b
  | .number n => .number n
  | .text s => .text s
  | .array _ => .sequence
  | .object _ => .map

/-- The wording of what was found. -/
def Found.describe : Found → String
  | .flag b => "boolean `" ++ (if b then "true" else "false") ++ "`"
  | .number (.integer i) => "integer `" ++ toString i ++ "`"
  | .number (.real x) => "floating point `" ++ realText x ++ "`"
  | .text s => "string " ++ Text.quoted s
  | .null => "null"
  | .sequence => "sequence"
  | .map => "map"

end ClusterRegistry.Json

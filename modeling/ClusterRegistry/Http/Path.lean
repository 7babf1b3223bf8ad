import ClusterRegistry.Text.Basic

/-!
# Targets and their paths

The target of a request is a path, or a scheme, an authority and a path, such as
`http://example:80/plans`; the query and the fragment after it are ignored. A path is split
at its slashes into segments. A segment that stands for a parameter is percent-decoded once;
escapes that are not two hexadecimal digits stay as they are.
-/

namespace ClusterRegistry.Http

/-- Bytes with their percent escapes resolved. -/
def percentDecode : List UInt8 → List UInt8
  | [] => []
  | 0x25 :: a :: b :: rest =>
    match Text.hexValue a, Text.hexValue b with
    | some high, some low => (high * 16 + low) :: percentDecode rest
    | _, _ => 0x25 :: percentDecode (a :: b :: rest)
  | b :: rest => b :: percentDecode rest

/-- The text that a segment stands for, if its bytes are one. -/
def decodeSegment (s : String) : Option String :=
  String.fromUTF8? ⟨(percentDecode s.toUTF8.toList).toArray⟩

/-- Whether a character may stand in a scheme. -/
def isSchemeChar (c : Char) : Bool := c.isAlphanum || c == '+' || c == '-' || c == '.'

/-- Whether a character ends a path. -/
def endsPath (c : Char) : Bool := c == '?' || c == '#'

/-- What follows the scheme of a target that has one. -/
def afterScheme? (target : List Char) : Option (List Char) :=
  match target.dropWhile isSchemeChar with
  | ':' :: '/' :: '/' :: rest => some rest
  | _ => none

/-- The path of a target. It is a single slash where nothing is left of it after the authority,
and blank where there is neither a slash at the start nor a scheme. -/
def pathOf (target : List Char) : List Char :=
  match target, afterScheme? target with
  | '/' :: _, _ => target.takeWhile fun c => !endsPath c
  | _, some rest =>
    let path := (rest.dropWhile fun c => c != '/' && !endsPath c).takeWhile fun c => !endsPath c
    if path.isEmpty then ['/'] else path
  | _, none => []

/-- The segments of the path of a target, those after the first slash. -/
def segments (target : String) : List String :=
  ((Text.splitAll '/' (pathOf target.toList)).drop 1).map String.ofList

end ClusterRegistry.Http

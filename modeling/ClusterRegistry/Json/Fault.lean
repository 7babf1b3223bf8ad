import ClusterRegistry.Json.Found

/-!
# Why a text is not JSON

A `Fault` names the first thing in a text that no JSON text can have in its place, or what is
wrong with a text that is embedded in another one. The wording is in `Fault.message` alone.
-/

namespace ClusterRegistry.Json

/-- What stops the reading of a JSON text. -/
inductive Fault
  | endInValue
  | endInList
  | endInObject
  | endInText
  | expectedColon
  | expectedListCommaOrEnd
  | expectedObjectCommaOrEnd
  | expectedLiteral
  | expectedValue
  | keyNotText
  | invalidEscape
  | invalidNumber
  | numberOutOfRange
  | invalidCharacter
  | controlCharacter
  | loneSurrogate
  | unfinishedSurrogate
  | trailingComma
  | trailingCharacters
  | tooDeep
  /-- Something else stands where an embedded text should. -/
  | notEmbedded (found : Found)
  /-- The object that holds an embedded text has so many members, and not one. -/
  | notAlone (members : Nat)

/-- The wording of a fault. -/
def Fault.message : Fault → String
  | .endInValue => "EOF while parsing a value"
  | .endInList => "EOF while parsing a list"
  | .endInObject => "EOF while parsing an object"
  | .endInText => "EOF while parsing a string"
  | .expectedColon => "expected `:`"
  | .expectedListCommaOrEnd => "expected `,` or `]`"
  | .expectedObjectCommaOrEnd => "expected `,` or `\x7d`"
  | .expectedLiteral => "expected ident"
  | .expectedValue => "expected value"
  | .keyNotText => "key must be a string"
  | .invalidEscape => "invalid escape"
  | .invalidNumber => "invalid number"
  | .numberOutOfRange => "number out of range"
  | .invalidCharacter => "invalid unicode code point"
  | .controlCharacter => "control character (\\u0000-\\u001F) found while parsing a string"
  | .loneSurrogate => "lone leading surrogate in hex escape"
  | .unfinishedSurrogate => "unexpected end of hex escape"
  | .trailingComma => "trailing comma"
  | .trailingCharacters => "trailing characters"
  | .tooDeep => "recursion limit exceeded"
  | .notEmbedded found => "invalid type: " ++ found.describe ++ ", expected raw value"
  | .notAlone members => "invalid length " ++ toString members ++ ", expected 1 element in map"

end ClusterRegistry.Json

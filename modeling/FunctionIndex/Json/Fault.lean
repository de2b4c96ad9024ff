import FunctionIndex.Json.Numeral
import FunctionIndex.Text.Quoted

/-!
# What is wrong with a JSON document

A document is refused because its text is not JSON (`SyntaxFault`) or because it does not have
the form asked for (`DataFault`).  `Fault.message` words both.
-/

namespace FunctionIndex

namespace Json

/-- Why a text is not JSON. -/
inductive SyntaxFault where
  | eofInList
  | eofInObject
  | eofInString
  | eofInValue
  | expectedColon
  | expectedListEnd
  | expectedObjectEnd
  | expectedWord
  | expectedValue
  | invalidEscape
  | invalidNumber
  | numberOutOfRange
  | invalidCodePoint
  | controlCharacter
  | keyNotString
  | loneSurrogate
  | trailingComma
  | trailingCharacters
  | unpairedSurrogate
  | tooDeep
  deriving DecidableEq, Repr

namespace SyntaxFault

/-- Whether the document could still be completed. -/
def isEof : SyntaxFault → Bool
  | eofInList | eofInObject | eofInString | eofInValue => true
  | _ => false

/-- The wording of a fault. -/
def message : SyntaxFault → String
  | eofInList => "EOF while parsing a list"
  | eofInObject => "EOF while parsing an object"
  | eofInString => "EOF while parsing a string"
  | eofInValue => "EOF while parsing a value"
  | expectedColon => "expected `:`"
  | expectedListEnd => "expected `,` or `]`"
  | expectedObjectEnd => "expected `,` or `\x7d`"
  | expectedWord => "expected ident"
  | expectedValue => "expected value"
  | invalidEscape => "invalid escape"
  | invalidNumber => "invalid number"
  | numberOutOfRange => "number out of range"
  | invalidCodePoint => "invalid unicode code point"
  | controlCharacter => "control character (\\u0000-\\u001F) found while parsing a string"
  | keyNotString => "key must be a string"
  | loneSurrogate => "lone leading surrogate in hex escape"
  | trailingComma => "trailing comma"
  | trailingCharacters => "trailing characters"
  | unpairedSurrogate => "unexpected end of hex escape"
  | tooDeep => "recursion limit exceeded"

end SyntaxFault

/-- What stands where something else was expected. -/
inductive Seen where
  | null
  | bool (b : Bool)
  | number (n : Number)
  | text (s : String)
  | sequence
  | map
  deriving DecidableEq, Repr

/-- The wording of a number. -/
def Number.describe : Number → String
  | .unsigned n => s!"integer `{n}`"
  | .negative n => s!"integer `-{n}`"
  | .float minus x => "floating point `" ++ (if minus then "-" else "") ++ x.render ++ "`"

/-- The wording of what was seen. -/
def Seen.describe : Seen → String
  | .null => "null"
  | .bool b => if b then "boolean `true`" else "boolean `false`"
  | .number n => n.describe
  | .text s => "string " ++ Text.quote s
  | .sequence => "sequence"
  | .map => "map"

/-- Why a JSON document does not have the form asked for. -/
inductive DataFault where
  /-- A value of another kind. -/
  | wrongType (seen : Seen) (expected : String)
  /-- A value of the right kind that is not admitted. -/
  | wrongValue (seen : Seen) (expected : String)
  /-- A field that the structure does not have. -/
  | unknownField (name : String) (known : List String)
  /-- A word that names no alternative. -/
  | unknownVariant (name : String) (known : List String)
  /-- A field given twice. -/
  | duplicateField (name : String)
  /-- A field that has to be given. -/
  | missingField (name : String)
  /-- A list of so many items that more were needed. -/
  | wrongLength (length : Nat) (expected : String)
  deriving DecidableEq, Repr

/-- A word between backquotes. -/
def ticked (s : String) : String := "`" ++ s ++ "`"

/-- Names offered as alternatives. -/
def oneOf : List String → String
  | [] => "there are no alternatives"
  | [a] => ticked a
  | [a, b] => ticked a ++ " or " ++ ticked b
  | names => "one of " ++ ", ".intercalate (names.map ticked)

/-- The wording of a fault. -/
def DataFault.message : DataFault → String
  | .wrongType seen expected => "invalid type: " ++ seen.describe ++ ", expected " ++ expected
  | .wrongValue seen expected => "invalid value: " ++ seen.describe ++ ", expected " ++ expected
  | .unknownField name known => "unknown field " ++ ticked name ++ ", expected " ++ oneOf known
  | .unknownVariant name known => "unknown variant " ++ ticked name ++ ", expected " ++ oneOf known
  | .duplicateField name => "duplicate field " ++ ticked name
  | .missingField name => "missing field " ++ ticked name
  | .wrongLength n expected => s!"invalid length {n}, expected {expected}"

/-- Why a JSON document is refused. -/
inductive Fault where
  | malformed (cause : SyntaxFault)
  | misfit (cause : DataFault)
  deriving DecidableEq, Repr

/-- The broad kind of a fault. -/
inductive Category where
  | data
  | malformed
  | eof
  deriving DecidableEq, Repr

/-- The word for a kind of fault. -/
def Category.tag : Category → String
  | .data => "data"
  | .malformed => "syntax"
  | .eof => "eof"

namespace Fault

/-- The wording of a fault. -/
def message : Fault → String
  | malformed cause => cause.message
  | misfit cause => cause.message

/-- The broad kind of a fault. -/
def category : Fault → Category
  | malformed cause => if cause.isEof then .eof else .malformed
  | misfit _ => .data

end Fault

end Json

end FunctionIndex

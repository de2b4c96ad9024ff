import FunctionIndex.Text.Shapeless

/-!
# Quoted text

The form in which a text is shown inside a message: between double quotes, with the quote, the
backslash, the usual controls and the characters without a shape of their own escaped.
-/

namespace FunctionIndex

namespace Text

/-- Digits of a number in lower-case hexadecimal, without leading zeros. -/
def hexDigits (n : Nat) : String := String.ofList (Nat.toDigits 16 n)

/-- One character inside a quoted text. -/
def quoteChar (c : Char) : String :=
  if c = '\x00' then "\\0"
  else if c = '\t' then "\\t"
  else if c = '\r' then "\\r"
  else if c = '\n' then "\\n"
  else if c = '"' then "\\\""
  else if c = '\\' then "\\\\"
  else if c.toNat < 0x7F && 0x20 ≤ c.toNat then c.toString
  else if isShapeless c then "\\u\x7b" ++ hexDigits c.toNat ++ "\x7d"
  else c.toString

/-- A text between double quotes. -/
def quote (s : String) : String := "\"" ++ String.join (s.toList.map quoteChar) ++ "\""

end Text

end FunctionIndex

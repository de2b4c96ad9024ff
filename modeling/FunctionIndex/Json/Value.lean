/-!
# JSON values and their text

The documents that are written: natural numbers, texts, lists and objects with ordered members.
`Value.compact` writes on one line without spaces; `Value.pretty` gives every item and member a
line of its own, two spaces deeper than what holds it.
-/

namespace FunctionIndex

namespace Json

/-- A JSON value. -/
inductive Value where
  | null
  | bool (b : Bool)
  | num (n : Nat)
  | str (s : String)
  | arr (items : List Value)
  | obj (members : List (String × Value))

/-- A digit of a hexadecimal escape. -/
def hexDigit (n : Nat) : Char := Nat.digitChar (n % 16)

/-- One character inside a JSON string. -/
def escapeChar (c : Char) : String :=
  if c = '"' then "\\\""
  else if c = '\\' then "\\\\"
  else if c = '\n' then "\\n"
  else if c = '\r' then "\\r"
  else if c = '\t' then "\\t"
  else if c = '\x08' then "\\b"
  else if c = '\x0c' then "\\f"
  else if c.toNat < 0x20 then
    "\\u00" ++ String.ofList [hexDigit (c.toNat / 16), hexDigit c.toNat]
  else c.toString

/-- A JSON string. -/
def escape (s : String) : String := "\"" ++ String.join (s.toList.map escapeChar) ++ "\""

namespace Value

mutual

/-- The text of a value on one line. -/
def compact : Value → String
  | null => "null"
  | bool b => if b then "true" else "false"
  | num n => toString n
  | str s => escape s
  | arr items => "[" ++ ",".intercalate (compactItems items) ++ "]"
  | obj members => "\x7b" ++ ",".intercalate (compactMembers members) ++ "\x7d"

/-- The texts of items. -/
def compactItems : List Value → List String
  | [] => []
  | v :: vs => compact v :: compactItems vs

/-- The texts of members. -/
def compactMembers : List (String × Value) → List String
  | [] => []
  | (k, v) :: ms => (escape k ++ ":" ++ compact v) :: compactMembers ms

end

/-- A line break and the indentation of the given depth. -/
def newline (depth : Nat) : String := "\n" ++ String.ofList (List.replicate (2 * depth) ' ')

/-- Texts between brackets, each on a line of its own; without texts, the brackets alone. -/
def bracketed (depth : Nat) (l r : String) : List String → String
  | [] => l ++ r
  | parts =>
    l ++ newline (depth + 1) ++ ("," ++ newline (depth + 1)).intercalate parts ++ newline depth ++ r

mutual

/-- The text of a value on several lines, at the given depth. -/
def prettyAt (depth : Nat) : Value → String
  | null => "null"
  | bool b => if b then "true" else "false"
  | num n => toString n
  | str s => escape s
  | arr items => bracketed depth "[" "]" (prettyItems (depth + 1) items)
  | obj members => bracketed depth "\x7b" "\x7d" (prettyMembers (depth + 1) members)

/-- The texts of items at the given depth. -/
def prettyItems (depth : Nat) : List Value → List String
  | [] => []
  | v :: vs => prettyAt depth v :: prettyItems depth vs

/-- The texts of members at the given depth. -/
def prettyMembers (depth : Nat) : List (String × Value) → List String
  | [] => []
  | (k, v) :: ms => (escape k ++ ": " ++ prettyAt depth v) :: prettyMembers depth ms

end

/-- The text of a value on several lines. -/
def pretty (v : Value) : String := prettyAt 0 v

/-- A text, or `null`. -/
def ofOption {α : Type} (f : α → Value) : Option α → Value
  | some a => f a
  | none => null

end Value

end Json

end FunctionIndex

/-!
# Lines

Two divisions of a text into lines are in use.

* `Text.lines` is the *narrow* one: a line feed ends a line, and a carriage return just before
  it belongs to the ending.  An exchange tree counts in these lines.
* `Text.lineAt` counts by the *wide* one: every character of `Text.breaksLine` ends a line, a
  carriage return and the line feed after it counting once.  A syntax tree's positions are
  turned into line numbers this way.

Positions in a text are octet offsets into its UTF-8 form.  An offset inside a character stands
for the character it falls in.
-/

namespace FunctionIndex

namespace Text

/-! ### The narrow division -/

/-- A line read backwards, without the carriage return that ended it. -/
def dropReturn : List Char → List Char
  | '\r' :: cs => cs
  | cs => cs

/-- Lines of the text that follows the characters `line`, which are kept backwards. -/
def linesFrom (line : List Char) : List Char → List String
  | [] => if line.isEmpty then [] else [String.ofList line.reverse]
  | c :: cs =>
    if c = '\n' then String.ofList (dropReturn line).reverse :: linesFrom [] cs
    else linesFrom (c :: line) cs

/-- The lines of a text, ended by line feeds; what follows the last line feed is a line unless
it is empty. -/
def lines (s : String) : List String := linesFrom [] s.toList

/-! ### The wide division -/

/-- A character that ends a line: line feed, vertical tab, form feed, carriage return, next
line, line separator, paragraph separator. -/
def breaksLine (c : Char) : Bool :=
  let n := c.toNat
  (0x0A ≤ n && n ≤ 0x0D) || n == 0x85 || n == 0x2028 || n == 0x2029

/-- Whether a line ends between `c` and the characters after it. -/
def endsLine (c : Char) (after : List Char) : Bool :=
  breaksLine c && !(c == '\r' && after.head? == some '\n')

/-- Number of lines that end at or before an octet offset: the line of the octet there, counted
from zero. -/
def lineAt : List Char → Nat → Nat
  | [], _ => 0
  | c :: cs, n =>
    if n < c.utf8Size then 0
    else (if endsLine c cs then 1 else 0) + lineAt cs (n - c.utf8Size)

/-- Number of characters that end at or before an octet offset. -/
def charAt : List Char → Nat → Nat
  | [], _ => 0
  | c :: cs, n => if n < c.utf8Size then 0 else 1 + charAt cs (n - c.utf8Size)

end Text

end FunctionIndex

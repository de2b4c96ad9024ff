import FunctionIndex.Text.Utf8

/-!
# Shell scripts

The command language in which external tools are written.  A word is a sequence of pieces, so
that what came from quotes can be told from what did not; commands are built from words by pipes,
`&&`, `||`, `;`, redirections and the compound commands.

The text of a here-document stands after the line that asks for it, so a redirection only holds
its number; the texts are kept in a table beside the commands.
-/

namespace FunctionIndex

namespace Shell

/-- How a redirection opens its target. -/
inductive Mode where
  /-- For reading. -/
  | read
  /-- For writing, from the start. -/
  | write
  /-- For writing, even where files are protected. -/
  | clobber
  /-- For writing at the end. -/
  | append
  /-- For reading and writing. -/
  | both
  /-- As another descriptor that is open already. -/
  | same
  deriving DecidableEq, Repr

mutual

/-- A piece of a word. -/
inductive Piece where
  /-- Octets that stand for themselves. -/
  | text (bs : Bytes) (quoted : Bool)
  /-- The value of a parameter. -/
  | param (name : String) (use : Use) (quoted : Bool)
  /-- What a command writes. -/
  | output (body : Command) (quoted : Bool)
  /-- The value of an expression. -/
  | number (expression : List Piece) (quoted : Bool)

/-- What is made of the value of a parameter.  `empty` says whether an empty value counts as
none. -/
inductive Use where
  /-- The value itself. -/
  | value
  /-- Its length. -/
  | length
  /-- A word in its place if there is none. -/
  | default (empty : Bool) (w : List Piece)
  /-- A word in its place that also becomes its value if there is none. -/
  | assign (empty : Bool) (w : List Piece)
  /-- An error if there is none. -/
  | require (empty : Bool) (w : List Piece)
  /-- A word in its place if there is one. -/
  | alternative (empty : Bool) (w : List Piece)
  /-- The value without what a pattern matches at one end of it. -/
  | trim (suffix longest : Bool) (pattern : List Piece)
  /-- The value and then a word, with which the word around it ends as well. -/
  | final (w : List Piece)
  /-- None of these. -/
  | unknown

/-- A redirection. -/
inductive Redirect where
  /-- A descriptor opened on a target. -/
  | file (fd : Nat) (mode : Mode) (target : List Piece)
  /-- A descriptor that reads a here-document. -/
  | here (fd : Nat) (document : Nat)

/-- A command. -/
inductive Command where
  /-- No command at all. -/
  | nothing
  /-- Variables to set, a command with its arguments, and redirections. -/
  | simple (line : Nat) (assignments : List (String × List Piece)) (words : List (List Piece))
    (redirects : List Redirect)
  /-- Commands that feed each other. -/
  | pipeline (commands : List Command)
  /-- A command whose success is a failure. -/
  | negated (c : Command)
  /-- The second one only if the first one succeeds. -/
  | both (a b : Command)
  /-- The second one only if the first one fails. -/
  | either (a b : Command)
  /-- One after the other. -/
  | sequence (commands : List Command)
  /-- Not waited for. -/
  | background (c : Command)
  /-- In a shell of its own. -/
  | subshell (line : Nat) (c : Command) (redirects : List Redirect)
  /-- With redirections. -/
  | redirected (line : Nat) (c : Command) (redirects : List Redirect)
  /-- The first command decides between the others. -/
  | choice (condition yes no : Command)
  /-- Again and again while the condition succeeds, or `until` it does. -/
  | loop (until_ : Bool) (condition body : Command)
  /-- Once for each field of the words, or for each argument. -/
  | each (line : Nat) (name : String) (words : Option (List (List Piece))) (body : Command)
  /-- The first arm with a pattern that matches. -/
  | select (line : Nat) (subject : List Piece) (arms : List (List (List Piece) × Command))
  /-- Gives a command a name. -/
  | define (line : Nat) (name : Bytes) (body : Command)

end

/-- A word as written. -/
abbrev Word := List Piece

/-- The texts of here-documents by number. -/
abbrev Documents := List (Nat × Word)

/-- A line that cannot be understood. -/
structure SyntaxError where
  /-- What is wrong. -/
  message : String
  /-- Where. -/
  line : Nat
  deriving DecidableEq, Repr

/-- A command that is run before the rest of its script is looked at. -/
structure Complete where
  /-- The command. -/
  command : Command
  /-- The line after it, which the reader has reached when the command is run. -/
  reached : Nat
  /-- The here-documents in it. -/
  documents : Documents
  /-- The first number that no here-document has. -/
  fresh : Nat

/-- Names of commands, and the texts that they stand for. -/
abbrev Aliases := List (Bytes × Bytes)

end Shell

end FunctionIndex

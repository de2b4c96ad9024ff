import FunctionIndex.Json.Numeral
import FunctionIndex.Shell.Syntax

/-!
# Reading scripts

`Script.next` reads the next command of a script.  The reader works on octets: it asks for one
token at a time, reads a word piece by piece, and comes back to the grammar for the commands
inside words.

A name may stand for a text.  Where a command is expected, the reader puts the text in place of the
name and reads on from its start.  The name stands for itself until the text has been read, and if
the text ends in a blank, the word after it is looked up as well.  Names can change with every
command, so a script is read command by command.

The recursion of the grammar goes through a `Grammar`, the readers that a nested command needs;
every level of nesting takes at least one octet, so the length of the script bounds the depth.
-/

namespace FunctionIndex

namespace Shell

open Json (octet isDigit)

/-! ### Octets -/

/-- Whether an octet separates words. -/
def isBlank (b : UInt8) : Bool := b == 0x20 || b == 0x09

/-- The line feed. -/
def newline : UInt8 := 0x0A

/-- The brace that opens. -/
def openBrace : UInt8 := 0x7B

/-- The brace that closes. -/
def closeBrace : UInt8 := 0x7D

/-- Whether an octet ends an unquoted word. -/
def isMeta (b : UInt8) : Bool :=
  isBlank b || b == newline || b == octet ';' || b == octet '&' || b == octet '|' ||
    b == octet '<' || b == octet '>' || b == octet '(' || b == octet ')'

/-- Whether a name can begin with an octet. -/
def startsName (b : UInt8) : Bool :=
  (0x41 ≤ b && b ≤ 0x5A) || (0x61 ≤ b && b ≤ 0x7A) || b == octet '_'

/-- Whether a name can go on with an octet. -/
def continuesName (b : UInt8) : Bool := startsName b || isDigit b

/-- Whether octets are a name. -/
def isName : Bytes → Bool
  | [] => false
  | b :: bs => startsName b && bs.all continuesName

/-- Whether an octet alone names a parameter. -/
def isSpecial (b : UInt8) : Bool :=
  isDigit b || b == octet '#' || b == octet '*' || b == octet '@' || b == octet '?' ||
    b == octet '$' || b == octet '!' || b == octet '-'

/-- The text whose characters have the octets as their codes. -/
def asciiText (bs : Bytes) : String := String.ofList (bs.map fun b => Char.ofNat b.toNat)

/-! ### Tokens -/

/-- A token of a script. -/
inductive Token where
  | eof
  | newline
  | op (s : String)
  | redirect (fd : Option Nat) (s : String)
  /-- A word, and its octets if none of them is quoted and nothing is to be expanded. -/
  | word (w : Word) (plain : Option Bytes)
  | keyword (s : String)

namespace Token

/-- Words that have a meaning of their own where a command is expected. -/
def keywords : List String :=
  ["!", "case", "do", "done", "elif", "else", "esac", "fi", "for", "if", "in", "then", "until",
    "while", "\x7b", "\x7d"]

/-- How a token is called in messages. -/
def describe : Token → String
  | eof => "end of file"
  | newline => "newline"
  | op s => s!"\"{s}\""
  | redirect _ _ => "redirection"
  | word _ _ => "word"
  | keyword s => s!"\"{s}\""

/-- The token a word is where commands are expected. -/
def asKeyword : Token → Token
  | word w (some bs) =>
    if keywords.contains (asciiText bs) then keyword (asciiText bs) else word w (some bs)
  | t => t

/-- Whether a token is the given operator. -/
def isOp (t : Token) (s : String) : Bool :=
  match t with
  | op s' => s == s'
  | _ => false

/-- Whether a token is the given keyword. -/
def isKeyword (t : Token) (s : String) : Bool :=
  match t with
  | keyword s' => s == s'
  | _ => false

/-- Whether a list of commands ends before a token. -/
def endsList : Token → Bool
  | eof => true
  | op s => s == ")" || s == ";;"
  | keyword s =>
    ["do", "done", "elif", "else", "esac", "fi", "then", "\x7d"].contains s
  | _ => false

end Token

/-! ### The reader -/

/-- A here-document that has been asked for. -/
structure Awaited where
  /-- Its number. -/
  document : Nat
  /-- The line that ends it. -/
  mark : Bytes
  /-- Whether it is taken as it stands. -/
  literal : Bool
  /-- Whether tabs at the start of lines are dropped. -/
  strip : Bool

/-- A name whose text is read in its place. -/
structure Unfolding where
  /-- The name. -/
  name : Bytes
  /-- Number of octets after the text. -/
  after : Nat
  /-- Whether the text ends in a blank. -/
  invites : Bool

/-- What is left to read. -/
structure Source where
  /-- The octets. -/
  rest : Bytes
  /-- The line they start on. -/
  line : Nat
  /-- A token that has been put back. -/
  ahead : Option Token := none
  /-- Here-documents whose text starts on the next line. -/
  awaited : List Awaited := []
  /-- Texts of here-documents. -/
  documents : Documents := []
  /-- The first number that no here-document has. -/
  fresh : Nat
  /-- Names that stand for texts. -/
  aliases : Aliases := []
  /-- The names whose texts are being read, the innermost first. -/
  unfolding : List Unfolding := []
  /-- Number of octets that may still be added by texts. -/
  room : Nat := 0

/-- A reader. -/
abbrev Reader := StateT Source (Except SyntaxError)

namespace Reader

/-- Refuses the script at the line that has been reached. -/
def refuse {α : Type} (message : String) : Reader α := do
  throw ⟨message, (← get).line⟩

/-- Refuses a token. -/
def unexpected {α : Type} (t : Token) (instead : Option String) : Reader α :=
  match instead with
  | some s => refuse s!"{t.describe} unexpected (expecting \"{s}\")"
  | none => refuse s!"{t.describe} unexpected"

/-- Number of octets left, those that may be added included: no loop takes more turns. -/
def left : Reader Nat := do
  let s ← get
  return s.rest.length + s.room

/-- The next octet. -/
def peek : Reader (Option UInt8) := do return (← get).rest.head?

/-- Takes the next octet. -/
def skip : Reader Unit :=
  modify fun s =>
    match s.rest with
    | [] => s
    | b :: r => { s with rest := r, line := if b == newline then s.line + 1 else s.line }

/-- Takes the next octet without a look at it: it never ends a line. -/
def discard : Reader Unit := modify fun s => { s with rest := s.rest.drop 1 }

/-- Takes octets while they satisfy `p`. -/
def takeWhile (p : UInt8 → Bool) : Reader Bytes := do
  let bs := (← get).rest.takeWhile p
  modify fun s =>
    { s with rest := s.rest.drop bs.length, line := s.line + bs.countP (· == newline) }
  return bs

/-- Takes the next octet if it is `b`. -/
def accept (b : UInt8) : Reader Bool := do
  if (← peek) == some b then
    skip
    return true
  else return false

/-- Passes over the ends of lines that are joined to the next. -/
def skipJoints : Nat → Reader Unit
  | 0 => return
  | fuel + 1 => do
    match (← get).rest with
    | b :: c :: _ =>
      if b == octet '\\' && c == newline then
        skip
        skip
        skipJoints fuel
      else return
    | _ => return

/-- Takes an octet and the joints after it. -/
def skipJoined : Reader Unit := do
  skip
  skipJoints (← get).rest.length

/-- Reads another text with the rest of the reader's state. -/
def within {α : Type} (text : Bytes) (line : Nat) (r : Reader α) : Reader α := do
  let outer ← get
  let unfolding := outer.unfolding.filter fun u => u.after ≤ outer.rest.length
  let held : List Unfolding := unfolding.map fun u => { u with after := 0 }
  set { outer with rest := text, line := line, ahead := none, awaited := [], unfolding := held }
  let a ← r
  modify fun s =>
    { s with rest := outer.rest, line := outer.line, ahead := outer.ahead,
             awaited := outer.awaited, unfolding }
  return a

/-- Puts a token back. -/
def unread (t : Token) : Reader Unit := modify fun s => { s with ahead := some t }

/-- Puts the text that a name stands for in front of what is left; false if the name stands for
itself. -/
def unfold (name : Bytes) : Reader Bool := do
  let s ← get
  match s.aliases.find? fun a => a.1 == name with
  | none => return false
  | some (_, text) =>
    let after := s.rest.length
    let outer := s.unfolding.filter fun u => u.after ≤ after
    if outer.any (fun u => u.name == name) || s.room ≤ text.length then return false
    else
      set { s with
        rest := text ++ s.rest
        unfolding := if text.isEmpty then outer else ⟨name, after, text.getLast?.any isBlank⟩ :: outer
        room := s.room - (text.length + 1) }
      return true

end Reader

/-- The readers of nested commands. -/
structure Grammar where
  /-- A list of commands, which may be empty only if the flag says so. -/
  list : Bool → Reader Command
  /-- A command. -/
  command : Reader Command

open Reader

/-! ### Words -/

/-- Where pieces stand. -/
inductive Context where
  /-- Outside quotes. -/
  | bare
  /-- Between double quotes. -/
  | quotes
  /-- Between the braces of a parameter outside quotes. -/
  | brace
  /-- Between the braces of a parameter inside quotes, or in a here-document. -/
  | quotedBrace (document : Bool)
  /-- In a here-document. -/
  | document
  /-- In an expression, inside so many parentheses of its own. -/
  | expression (depth : Nat)
  deriving DecidableEq, Repr

namespace Context

/-- Whether what stands here is quoted. -/
def quoted : Context → Bool
  | bare | brace => false
  | _ => true

/-- Whether a backslash takes the meaning from an octet. -/
def escapes (c : Context) (b : UInt8) : Bool :=
  let basic := b == octet '$' || b == octet '`' || b == octet '\\'
  match c with
  | bare | brace => true
  | quotes => basic || b == octet '"'
  | quotedBrace _ => basic || b == octet '"' || b == closeBrace
  | document => basic
  | expression _ => basic || b == octet '"'

/-- What stands between the braces of a parameter here. -/
def insideBraces : Context → Context
  | bare | brace => brace
  | document => quotedBrace true
  | quotedBrace d => quotedBrace d
  | quotes | expression _ => quotedBrace false

end Context

/-- Puts octets in front of a word. -/
def consText (bs : Bytes) (quoted : Bool) : Word → Word
  | .text cs q :: w => if q == quoted then .text (bs ++ cs) q :: w else .text bs quoted :: .text cs q :: w
  | w => .text bs quoted :: w

/-- The script between backquotes, the opening one gone. -/
def backquoted (quoted : Bool) : Nat → Reader Bytes
  | 0 => refuse "EOF in backquote substitution"
  | fuel + 1 => do
    match ← peek with
    | none => refuse "EOF in backquote substitution"
    | some b =>
      skip
      if b == octet '`' then return []
      else if b == octet '\\' then
        match ← peek with
        | none => return b :: (← backquoted quoted fuel)
        | some c =>
          skip
          let bare := c == octet '\\' || c == octet '`' || c == octet '$' ||
            (quoted && c == octet '"')
          let rest ← backquoted quoted fuel
          return if bare then c :: rest else b :: c :: rest
      else return b :: (← backquoted quoted fuel)

/-- The name of a parameter between braces, and whether its length is meant. -/
def braceName : Reader (Bytes × Bool) := do
  match ← peek with
  | none => return ([], false)
  | some b =>
    if startsName b then return (← takeWhile continuesName, false)
    else if isDigit b then return (← takeWhile isDigit, false)
    else if b == octet '#' then
      skip
      match ← peek with
      | some c =>
        if startsName c then return (← takeWhile continuesName, true)
        else if isDigit c then return (← takeWhile isDigit, true)
        else if c != closeBrace && ((← get).rest.drop 1).head? == some closeBrace then
          skip
          return if isSpecial c then ([c], true) else ([], false)
        else return ([b], false)
      | none => return ([b], false)
    else if isSpecial b then
      skip
      return ([b], false)
    else return ([], false)

/-- The operator after the name of a parameter: whether an empty value counts as none, and what
is done.  An octet that is no operator is taken all the same. -/
def braceOperator : Reader (Bool × Option UInt8) := do
  let colon ← accept (octet ':')
  match ← peek with
  | some b =>
    if b == octet '-' || b == octet '+' || b == octet '?' || b == octet '=' then
      skip
      return (colon, some b)
    else if !colon && (b == octet '%' || b == octet '#') then
      skip
      return (← accept b, some b)
    else
      discard
      return (colon, if colon && b == closeBrace then some b else none)
  | none => return (colon, none)

/-- What an operator makes of the value of a parameter. -/
def useOf (flag : Bool) (b : UInt8) (w : Word) : Use :=
  if b == octet '-' then .default flag w
  else if b == octet '+' then .alternative flag w
  else if b == octet '?' then .require flag w
  else if b == octet '=' then .assign flag w
  else if b == closeBrace then .final w
  else .trim (b == octet '%') flag w

/-- Reads a parameter between braces, the opening one gone; `pieces` reads up to the closing
one. -/
def braced (pieces : Context → Reader Word) (c : Context) : Reader Piece := do
  let quoted := c.quoted
  let inside := c.insideBraces
  let (name, length) ← braceName
  if name.isEmpty then
    if (← peek) != some closeBrace then discard
    let _ ← pieces inside
    return .param "" .unknown quoted
  else if ← accept closeBrace then
    return .param (asciiText name) (if length then .length else .value) quoted
  else if length then
    let _ ← pieces inside
    return .param (asciiText name) .unknown quoted
  else
    let (flag, op) ← braceOperator
    match op with
    | none =>
      let _ ← pieces inside
      return .param (asciiText name) .unknown quoted
    | some b =>
      let trims := b == octet '%' || b == octet '#'
      let w ← pieces (if trims then .brace else inside)
      return .param (asciiText name) (useOf flag b w) quoted

/-- Reads what a dollar sign stands for, the sign itself gone; none if it stands for itself. -/
def dollar? (g : Grammar) (pieces : Context → Reader Word) (c : Context) :
    Reader (Option Piece) := do
  let quoted := c.quoted
  match ← peek with
  | none => return none
  | some b =>
    if b == octet '(' then
      skip
      if ← accept (octet '(') then return some (.number (← pieces (.expression 0)) quoted)
      else
        let outer := (← get).awaited
        modify fun s => { s with awaited := [] }
        let body ← g.list true
        let s ← get
        match s.ahead with
        | some t =>
          if t.isOp ")" then
            set { s with ahead := none, awaited := outer ++ s.awaited }
            return some (.output body quoted)
          else unexpected t (some ")")
        | none => unexpected .eof (some ")")
    else if b == openBrace then
      skip
      return some (← braced pieces c)
    else if startsName b then
      return some (.param (asciiText (← takeWhile continuesName)) .value quoted)
    else if isSpecial b then
      skip
      return some (.param (asciiText [b]) .value quoted)
    else return none

/-- Reads the script between backquotes, whose lines are counted on their own. -/
def commandBetweenBackquotes (g : Grammar) (quoted : Bool) : Reader Piece := do
  let text ← backquoted quoted ((← get).rest.length + 1)
  return .output (← within text 1 (g.list true)) quoted

/-- Reads pieces up to the end of their context. -/
def pieces (g : Grammar) : Nat → Context → Reader Word
  | 0, _ => return []
  | fuel + 1, c => do
    let go (c' : Context) : Reader Word := pieces g fuel c'
    let text (bs : Bytes) : Reader Word := do return consText bs c.quoted (← go c)
    match ← peek with
    | none =>
      match c with
      | .bare | .document => return []
      | .quotes | .quotedBrace false => refuse "Unterminated quoted string"
      | .brace | .quotedBrace true => refuse "Missing '\x7d'"
      | .expression _ => refuse "Missing '))'"
    | some b =>
      if c == .bare && isMeta b then return []
      else
        skip
        if b == octet '\\' then
          match ← peek with
          | none => return consText [b] true (← go c)
          | some e =>
            if e == newline then
              skip
              go c
            else if c.escapes e then
              skip
              return consText [e] true (← go c)
            else
              match c with
              | .expression _ =>
                skip
                text [b, e]
              | _ => text [b]
        else if b == octet '$' then
          match ← dollar? g go c with
          | some p => return p :: (← go c)
          | none => text [b]
        else if b == octet '`' then
          let p ← commandBetweenBackquotes g c.quoted
          return p :: (← go c)
        else
          match c with
          | .quotes => if b == octet '"' then return [] else text [b]
          | .document => text [b]
          | .expression depth =>
            if b == octet '(' then
              return consText [b] true (← go (.expression (depth + 1)))
            else if b == octet ')' then
              if depth > 0 then return consText [b] true (← go (.expression (depth - 1)))
              else if ← accept (octet ')') then return []
              else text [b]
            else text [b]
          | .quotedBrace _ =>
            if b == closeBrace then return []
            else if b == octet '"' then
              let inner ← go .quotes
              return .text [] true :: inner ++ (← go c)
            else text [b]
          | .bare | .brace =>
            if c == .brace && b == closeBrace then return []
            else if b == octet '\'' then
              let bs ← takeWhile (· != octet '\'')
              if ← accept (octet '\'') then return consText bs true (← go c)
              else refuse "Unterminated quoted string"
            else if b == octet '"' then
              let inner ← go .quotes
              return .text [] true :: inner ++ (← go c)
            else text [b]

/-- Reads a word. -/
def word (g : Grammar) : Reader Word := do pieces g ((← left) + 1) .bare

/-- The octets of a word that holds nothing but text, and whether any of it is quoted. -/
def literal? : Word → Option (Bytes × Bool)
  | [] => some ([], false)
  | .text bs q :: w => (literal? w).map fun x => (bs ++ x.1, q || x.2)
  | _ :: _ => none

/-- The octets of a word as they are compared with the end of a here-document. -/
def markOf (w : Word) : Bytes :=
  w.flatMap fun
    | .text bs _ => bs
    | .param name _ _ => octet '$' :: Utf8.encode name
    | _ => []

/-- Whether any text of a word is quoted. -/
def hasQuotes (w : Word) : Bool :=
  w.any fun
    | .text _ q => q
    | _ => false

/-! ### Here-documents -/

/-- The lines before one that equals `mark`, with their ends, and what follows it. -/
def linesBefore (mark : Bytes) (strip : Bool) : Nat → Bytes → Bytes × Bytes
  | 0, bs => (bs, [])
  | _ + 1, [] => ([], [])
  | fuel + 1, bs =>
    let whole := bs.takeWhile (· != newline)
    let rest := bs.drop whole.length
    let line := if strip then whole.dropWhile (· == 0x09) else whole
    if line == mark then ([], rest.drop 1)
    else
      match rest with
      | [] => (line, [])
      | b :: rest =>
        let x := linesBefore mark strip fuel rest
        (line ++ b :: x.1, x.2)

/-- Reads one here-document. -/
def document (g : Grammar) (a : Awaited) : Reader Unit := do
  let s ← get
  let (text, rest) := linesBefore a.mark a.strip (s.rest.length + 1) s.rest
  let w ← if a.literal then pure [Piece.text text true]
    else within text s.line (pieces g (text.length + 1) .document)
  modify fun t =>
    { t with rest := rest, documents := (a.document, w) :: t.documents,
             line := s.line + ((s.rest.take (s.rest.length - rest.length)).countP (· == newline)) }

/-- Reads the here-documents that start here. -/
def documents (g : Grammar) : Reader Unit := do
  let awaited := (← get).awaited
  modify fun s => { s with awaited := [] }
  awaited.forM (document g)

/-! ### Reading tokens -/

/-- Passes over blanks, comments and joined lines. -/
def skipBlanks : Nat → Reader Unit
  | 0 => return
  | fuel + 1 => do
    match (← get).rest with
    | b :: r =>
      if isBlank b then
        skip
        skipBlanks fuel
      else if b == octet '#' then
        let _ ← takeWhile (· != newline)
      else if b == octet '\\' && r.head? == some newline then
        skip
        skip
        skipBlanks fuel
      else return
    | [] => return

/-- Reads the operator of a redirection that starts with `b`, which is gone. -/
def redirection (b : UInt8) : Reader String := do
  let next ← peek
  let two (second : Char) (s : String) (otherwise : Reader String) : Reader String := do
    if next == some (octet second) then
      skip
      return s
    else otherwise
  if b == octet '>' then
    two '>' ">>" (two '|' ">|" (two '&' ">&" (return ">")))
  else
    let here : Reader String := do
      if next == some (octet '<') then
        skip
        return if ← accept (octet '-') then "<<-" else "<<"
      else return "<"
    two '&' "<&" (two '>' "<>" here)

/-- Passes over what stands between tokens; whether a text that ends in a blank ended there. -/
def skipSpace : Reader Bool := do
  let before ← get
  skipBlanks (before.rest.length + 1)
  match before.unfolding with
  | [] => return false
  | us =>
    let n := before.rest.length
    let m := (← get).rest.length
    return us.any fun u => u.invites && u.after < n && m ≤ u.after

/-- Reads a token that has not been put back, behind what stands before it. -/
def freshToken (g : Grammar) : Reader Token := do
  match (← get).rest with
  | [] =>
    documents g
    return .eof
  | b :: r =>
    if b == newline then
      skip
      documents g
      return .newline
    else if b == octet '&' || b == octet '|' || b == octet ';' then
      skipJoined
      if ← accept b then return .op (asciiText [b, b]) else return .op (asciiText [b])
    else if b == octet '(' || b == octet ')' then
      skip
      return .op (asciiText [b])
    else if b == octet '<' || b == octet '>' then
      skipJoined
      return .redirect none (← redirection b)
    else
      match r with
      | c :: _ =>
        if isDigit b && (c == octet '<' || c == octet '>') then
          skip
          skipJoined
          return .redirect (some (b.toNat - 0x30)) (← redirection c)
        else
          let w ← word g
          let plain := (literal? w).bind fun x => if x.2 then none else some x.1
          return .word w plain
      | [] =>
        let w ← word g
        let plain := (literal? w).bind fun x => if x.2 then none else some x.1
        return .word w plain

/-- What is expected of a token. -/
structure Expectation where
  /-- It may stand on a later line. -/
  later : Bool := false
  /-- A word may be a keyword. -/
  keyword : Bool := false
  /-- A name may stand for a text. -/
  named : Bool := false

/-- Reads a token of which something is expected.  A token that was put back has been looked at
before. -/
def tokenOf (g : Grammar) : Nat → Expectation → Reader Token
  | 0, _ => return .eof
  | fuel + 1, e => do
    match (← get).ahead with
    | some t =>
      modify fun s => { s with ahead := none }
      match e.later, t with
      | true, .newline => tokenOf g fuel e
      | _, t => return if e.keyword then t.asKeyword else t
    | none =>
      let invited ← skipSpace
      let t ← freshToken g
      match e.later, t with
      | true, .newline => tokenOf g fuel e
      | _, t =>
        match if e.keyword then t.asKeyword else t with
        | .word w (some name) =>
          let named := e.named || invited
          if named then
            if ← unfold name then tokenOf g fuel { e with named }
            else return .word w (some name)
          else return .word w (some name)
        | t => return t

/-- Reads a token. -/
def token (g : Grammar) : Reader Token := do tokenOf g ((← left) + 2) {}

/-- Reads a token where a command can start. -/
def commandToken (g : Grammar) : Reader Token := do
  tokenOf g ((← left) + 2) { keyword := true, named := true }

/-- Reads a token where a command can start, possibly on a later line. -/
def laterToken (g : Grammar) : Reader Token := do
  tokenOf g ((← left) + 2) { later := true, keyword := true, named := true }

/-- Reads the given keyword. -/
def expectKeyword (g : Grammar) (s : String) : Reader Unit := do
  let t ← commandToken g
  if !t.isKeyword s then unexpected t (some s)

/-! ### Redirections -/

/-- Reads the target of a redirection. -/
def redirectTarget (g : Grammar) (fd : Option Nat) (s : String) : Reader Redirect := do
  match ← token g with
  | .word w _ =>
    let file (standard : Nat) (mode : Mode) : Reader Redirect :=
      return .file (fd.getD standard) mode w
    match s with
    | ">" => file 1 .write
    | ">|" => file 1 .clobber
    | ">>" => file 1 .append
    | ">&" => file 1 .same
    | "<&" => file 0 .same
    | "<>" => file 0 .both
    | "<" => file 0 .read
    | _ =>
      let n := (← get).fresh
      let a : Awaited := ⟨n, markOf w, hasQuotes w, s == "<<-"⟩
      modify fun t => { t with fresh := n + 1, awaited := t.awaited ++ [a] }
      return .here (fd.getD 0) n
  | t => unexpected t none

/-- Reads the redirections after a compound command. -/
def redirects (g : Grammar) : Nat → Reader (List Redirect)
  | 0 => return []
  | fuel + 1 => do
    match ← commandToken g with
    | .redirect fd s =>
      let r ← redirectTarget g fd s
      return r :: (← redirects g fuel)
    | t =>
      unread t
      return []

/-! ### Simple commands -/

/-- The variable a word sets and the word it is set to. -/
def assignment? : Word → Option (String × Word)
  | .text bs false :: w =>
    let name := bs.takeWhile continuesName
    match bs.drop name.length with
    | b :: value =>
      if isName name && b == octet '=' then
        some (asciiText name, if value.isEmpty then w else .text value false :: w)
      else none
    | [] => none
  | _ => none

/-- Commands whose names cannot be given to others. -/
def specialBuiltins : List String :=
  [".", ":", "break", "continue", "eval", "exec", "exit", "export", "local", "readonly", "return",
    "set", "shift", "times", "trap", "unset"]

/-- A simple command while it is read. -/
structure Draft where
  assignments : List (String × Word) := []
  words : List Word := []
  redirects : List Redirect := []

/-- Reads the rest of a simple command. -/
def simpleRest (g : Grammar) (line : Nat) (name : Option Bytes) : Nat → Draft → Reader Command
  | 0, d => return .simple line d.assignments d.words d.redirects
  | fuel + 1, d => do
    match ← tokenOf g ((← left) + 2) { named := d.words.isEmpty } with
    | .word w plain =>
      match if d.words.isEmpty then assignment? w else none with
      | some a => simpleRest g line none fuel { d with assignments := d.assignments ++ [a] }
      | none =>
        let name := if d.words.isEmpty then plain else none
        simpleRest g line name fuel { d with words := d.words ++ [w] }
    | .redirect fd s =>
      let r ← redirectTarget g fd s
      simpleRest g line name fuel { d with redirects := d.redirects ++ [r] }
    | .op s =>
      if s == "(" && d.words.length == 1 && d.assignments.isEmpty && d.redirects.isEmpty then
        let t ← token g
        if !t.isOp ")" then unexpected t (some ")")
        else
          let bs := name.getD []
          if !isName bs || specialBuiltins.contains (asciiText bs) then
            refuse "Bad function name"
          else
            let first ← laterToken g
            unread first
            return .define line bs (← g.command)
      else
        unread (.op s)
        return .simple line d.assignments d.words d.redirects
    | t =>
      unread t
      return .simple line d.assignments d.words d.redirects

/-! ### Compound commands -/

/-- The words of a loop. -/
def loopWords (g : Grammar) : Nat → Reader (List Word)
  | 0 => return []
  | fuel + 1 => do
    match ← token g with
    | .word w _ => return w :: (← loopWords g fuel)
    | .newline => return []
    | t => if t.isOp ";" then return [] else unexpected t none

/-- Reads what follows `for`. -/
def forCommand (g : Grammar) (line : Nat) : Reader Command := do
  match ← token g with
  | .word _ (some name) =>
    if !isName name then refuse "Bad for loop variable"
    else
      let t ← laterToken g
      let words ← if t.isKeyword "in" then some <$> loopWords g ((← left) + 1)
        else do
          if !t.isOp ";" then unread t
          pure none
      let t ← laterToken g
      if !t.isKeyword "do" then unexpected t (some "do")
      let body ← g.list false
      expectKeyword g "done"
      return .each line (asciiText name) words body
  | _ => refuse "Bad for loop variable"

/-- Reads the patterns of an arm, the first token of which is `t`. -/
def patterns (g : Grammar) : Nat → Token → Reader (List Word)
  | 0, _ => return []
  | fuel + 1, t => do
    let w ← match t with
      | .word w _ => pure w
      | .keyword s => pure [Piece.text (Utf8.encode s) false]
      | _ => pure []
    let t ← token g
    if t.isOp "|" then return w :: (← patterns g fuel (← token g))
    else if t.isOp ")" then return [w]
    else unexpected t (some ")")

/-- Reads the arms of a selection. -/
def arms (g : Grammar) : Nat → Reader (List (List Word × Command))
  | 0 => return []
  | fuel + 1 => do
    let keyword : Reader Token := do tokenOf g ((← left) + 2) { later := true, keyword := true }
    let t ← keyword
    if t.isKeyword "esac" then return []
    else
      let first ← if t.isOp "(" then token g else pure t
      let ps ← patterns g ((← left) + 1) first
      let body ← g.list true
      let t ← keyword
      if t.isKeyword "esac" then return [(ps, body)]
      else if t.isOp ";;" then return (ps, body) :: (← arms g fuel)
      else unexpected t (some ";;")

/-- Reads what follows `case`. -/
def caseCommand (g : Grammar) (line : Nat) : Reader Command := do
  match ← token g with
  | .word w _ =>
    let t ← laterToken g
    if !t.isKeyword "in" then unexpected t (some "in")
    return .select line w (← arms g ((← left) + 1))
  | t =>
    refuse s!"{t.describe} unexpected (expecting word)"

/-- Reads what follows `if` or `elif`. -/
def ifCommand (g : Grammar) : Nat → Reader Command
  | 0 => return .nothing
  | fuel + 1 => do
    let condition ← g.list false
    expectKeyword g "then"
    let yes ← g.list false
    let t ← commandToken g
    if t.isKeyword "elif" then return .choice condition yes (← ifCommand g fuel)
    else if t.isKeyword "else" then
      let no ← g.list false
      expectKeyword g "fi"
      return .choice condition yes no
    else if t.isKeyword "fi" then return .choice condition yes .nothing
    else unexpected t (some "fi")

/-- Reads what follows `while` or `until`. -/
def loopCommand (g : Grammar) (until_ : Bool) : Reader Command := do
  let condition ← g.list false
  expectKeyword g "do"
  let body ← g.list false
  expectKeyword g "done"
  return .loop until_ condition body

/-- Reads the redirections of a compound command. -/
def withRedirects (g : Grammar) (line : Nat) (c : Command) : Reader Command := do
  match ← redirects g ((← left) + 1) with
  | [] => return c
  | rs =>
    match c with
    | .subshell l body _ => return .subshell l body rs
    | c => return .redirected line c rs

/-- Reads a command. -/
def commandWith (g : Grammar) : Reader Command := do
  let t ← commandToken g
  let line := (← get).line
  let done (c : Command) : Reader Command := withRedirects g line c
  match t with
  | .word _ _ | .redirect _ _ =>
    unread t
    simpleRest g line none ((← left) + 2) {}
  | .keyword "if" => done (← ifCommand g ((← left) + 1))
  | .keyword "while" => done (← loopCommand g false)
  | .keyword "until" => done (← loopCommand g true)
  | .keyword "for" => done (← forCommand g line)
  | .keyword "case" => done (← caseCommand g line)
  | .keyword "\x7b" =>
    let body ← g.list false
    expectKeyword g "\x7d"
    done body
  | .op "(" =>
    let body ← g.list false
    let t ← commandToken g
    if !t.isOp ")" then unexpected t (some ")")
    done (.subshell line body [])
  | t => unexpected t none

/-! ### Lists -/

/-- Reads the commands that follow a pipe. -/
def pipeRest (g : Grammar) : Nat → Reader (List Command)
  | 0 => return []
  | fuel + 1 => do
    let t ← token g
    if t.isOp "|" then
      unread (← laterToken g)
      let c ← commandWith g
      return c :: (← pipeRest g fuel)
    else
      unread t
      return []

/-- Reads a pipeline. -/
def pipelineWith (g : Grammar) : Reader Command := do
  let t ← commandToken g
  let negated := t.isKeyword "!"
  if !negated then unread t
  let c ← commandWith g
  let rest ← pipeRest g ((← left) + 1)
  let p := if rest.isEmpty then c else .pipeline (c :: rest)
  return if negated then .negated p else p

/-- Reads the pipelines that follow `&&` and `||`. -/
def andOrRest (g : Grammar) : Nat → Command → Reader Command
  | 0, c => return c
  | fuel + 1, c => do
    let t ← token g
    if t.isOp "&&" || t.isOp "||" then
      unread (← laterToken g)
      let d ← pipelineWith g
      andOrRest g fuel (if t.isOp "&&" then .both c d else .either c d)
    else
      unread t
      return c

/-- Reads pipelines joined by `&&` and `||`. -/
def andOrWith (g : Grammar) : Reader Command := do
  let c ← pipelineWith g
  andOrRest g ((← left) + 1) c

/-- Commands as one. -/
def joined : List Command → Command
  | [] => .nothing
  | [c] => c
  | cs => .sequence cs

/-- Reads the commands of a list; `top` if it ends with its line, `optional` if it may end
here. -/
def listItems (g : Grammar) (top : Bool) : Nat → Bool → Reader (List Command)
  | 0, _ => return []
  | fuel + 1, optional => do
    let t ← if top then commandToken g else laterToken g
    match t with
    | .eof =>
      unread t
      return []
    | .newline => return []
    | t =>
      unread t
      if optional && !top && t.endsList then return []
      else
        let c ← andOrWith g
        let t ← token g
        let c := if t.isOp "&" then .background c else c
        match t with
        | .eof | .newline =>
          unread t
          if top then
            match t with
            | .newline =>
              let _ ← token g
              return [c]
            | _ => return [c]
          else return c :: (← listItems g top fuel true)
        | t =>
          if t.isOp ";" || t.isOp "&" then return c :: (← listItems g top fuel true)
          else if top then unexpected t none
          else
            unread t
            return [c]

/-- Reads a list inside a command. -/
def listWith (g : Grammar) (optional : Bool) : Reader Command := do
  return joined (← listItems g false ((← left) + 2) optional)

/-- The readers of commands nested at most so deep. -/
def grammar : Nat → Grammar
  | 0 => ⟨fun _ => refuse "nested too deeply", refuse "nested too deeply"⟩
  | depth + 1 => ⟨listWith (grammar depth), commandWith (grammar depth)⟩

/-! ### Scripts -/

/-- Greatest nesting of commands. -/
def maxNesting : Nat := 1000

/-- Number of octets that texts may add to a command. -/
def maxAdded : Nat := 1000000

/-- A script that is being read. -/
structure Script where
  /-- The readers of commands. -/
  grammar : Grammar
  /-- What has not been read. -/
  source : Source

namespace Script

/-- A text that has not been read, where some names stand for texts. -/
def ofText (aliases : Aliases) (bs : Bytes) : Script where
  grammar := Shell.grammar (min (bs.length + 1 + if aliases.isEmpty then 0 else maxAdded) maxNesting)
  source := { rest := bs, line := 1, fresh := 0 }

/-- Reads the next command, and says what is left of the script if its end has not been reached.
Here-documents are numbered from `fresh` on. -/
def next (s : Script) (aliases : Aliases) (fresh : Nat) :
    Except SyntaxError (Complete × Option Script) :=
  let room := if aliases.isEmpty then 0 else maxAdded
  let start := { s.source with fresh, aliases, room, documents := [] }
  match (listItems s.grammar true (start.rest.length + room + 2) false).run start with
  | .error e => .error e
  | .ok (cs, r) =>
    let rest := match r.ahead with
      | some .eof => none
      | _ => some { s with source := r }
    .ok (⟨joined cs, r.line, r.documents, r.fresh⟩, rest)

end Script

/-- Reads a text whose parameters are to be replaced; none if it cannot be understood. -/
def Word.ofText? (fresh : Nat) (bs : Bytes) : Option Word :=
  match (pieces (grammar (bs.length + 1)) (bs.length + 1) .document).run
      { rest := bs, line := 1, fresh } with
  | .ok (w, _) => some w
  | .error _ => none

end Shell

end FunctionIndex

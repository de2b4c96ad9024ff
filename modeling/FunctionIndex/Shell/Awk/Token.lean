import FunctionIndex.Shell.Awk.Syntax

/-!
# Tokens of awk programs

How the text of a program is divided into tokens.  What a character means depends on the token
before it: a slash divides after an operand and starts a pattern elsewhere, and a statement that
ends at a closing brace needs no semicolon.
-/

namespace FunctionIndex

namespace Shell

namespace Awk

open Json (octet isDigit)

/-- A token. -/
inductive Token where
  | newline
  | semicolon
  /-- The semicolon that a closing brace implies. -/
  | implied
  /-- An operator or another mark. -/
  | sign (s : String)
  | keyword (s : String)
  /-- Where output goes to. -/
  | direction (d : Direction)
  | number (x : Number) (spelt : Bytes)
  | text (bs : Bytes)
  | pattern (bs : Bytes)
  /-- A field whose number is written out. -/
  | field (n : Nat)
  | name (s : String)
  /-- The name of a function of the program. -/
  | callee (s : String)
  | function (f : Function) (spelt : String)
  /-- A character that starts no token. -/
  | unexpected (b : UInt8)
  /-- A text or a pattern that does not end. -/
  | broken (message : String)
  | finish

/-- How a token is called in messages. -/
def Token.shown : Token → String
  | newline => "end of line"
  | semicolon => ";"
  | implied => "\x7d"
  | sign s | keyword s | name s | callee s | function _ s => s
  | direction .overwrite => ">"
  | direction .append => ">>"
  | direction .pipe => "|"
  | number _ bs | text bs => Utf8.lossy bs
  | pattern bs => s!"/{Utf8.lossy bs}/"
  | field _ => "$"
  | unexpected b => Utf8.lossy [b]
  | broken m => m
  | finish => "end of file"

/-- The words that are no names. -/
def keywords : List String :=
  ["BEGIN", "END", "break", "continue", "delete", "do", "else", "exit", "for", "function",
    "getline", "if", "in", "next", "nextfile", "print", "printf", "return", "while"]

/-- The functions that are always there, by name. -/
def functionNames : List (String × Function) :=
  [("length", .length), ("substr", .substr), ("index", .index), ("split", .split),
    ("match", .match_), ("sub", .sub), ("gsub", .gsub), ("sprintf", .sprintf), ("sin", .sin),
    ("cos", .cos), ("atan2", .atan2), ("exp", .exp), ("log", .log), ("sqrt", .sqrt),
    ("int", .int), ("rand", .rand), ("srand", .srand), ("tolower", .tolower),
    ("toupper", .toupper), ("system", .system), ("close", .close), ("fflush", .fflush),
    ("strftime", .strftime), ("mktime", .mktime), ("systime", .systime)]

/-- Operators and marks, longer ones first. -/
def signs : List String :=
  ["++", "--", "+=", "-=", "*=", "/=", "%=", "^=", "==", "!=", "!~", "<=", ">=", "&&", "||", "+",
    "-", "*", "/", "%", "^", "=", "!", "~", "<", ">", "|", "?", ":", ",", "(", ")", "[", "]", "$"]

/-- A message about a program. -/
structure Complaint where
  line : Nat
  message : String
  /-- Whether it is about a single character. -/
  bare : Bool := false

/-- What is left of a program, and what is known about the part before. -/
structure Scanner where
  rest : Bytes
  line : Nat := 1
  /-- The token before. -/
  last : Token := .finish
  /-- Number of open parentheses. -/
  parens : Nat := 0
  /-- Number of open braces. -/
  braces : Nat := 0
  /-- Whether output is being described, so that its direction may follow. -/
  printing : Bool := false
  /-- Names that stand for functions. -/
  callees : List String := []
  /-- Names that stand for variables. -/
  names : List String := []
  /-- Messages, the latest first. -/
  complaints : List Complaint := []

namespace Scanner

/-- Whether an octet is a space inside a line. -/
def isSpace (b : UInt8) : Bool := isWhite b && b != newline

/-- Whether an octet can be part of a name. -/
def isNameOctet (b : UInt8) : Bool := isAlpha b || isDigit b || b == octet '_'

/-- Passes over spaces, comments and ends of lines. -/
def skipLines (s : Scanner) : Nat → Scanner
  | 0 => s
  | fuel + 1 =>
    match s.rest with
    | [] => s
    | b :: r =>
      if isSpace b then skipLines { s with rest := r } fuel
      else if b == newline then skipLines { s with rest := r, line := s.line + 1 } fuel
      else if b == octet '#' then
        skipLines { s with rest := r.dropWhile (· != newline) } fuel
      else if b == octet '\\' then
        match r.dropWhile isSpace with
        | c :: r' => if c == newline then skipLines { s with rest := r', line := s.line + 1 } fuel else s
        | [] => s
      else s

/-- Passes over what may stand before the next token on a new line. -/
def eatLines (s : Scanner) : Scanner := s.skipLines (s.rest.length + 1)

/-- Passes over spaces, comments, and ends of lines with a backslash before them. -/
def skipSpaces (s : Scanner) : Nat → Scanner
  | 0 => s
  | fuel + 1 =>
    match s.rest with
    | [] => s
    | b :: r =>
      if isSpace b then skipSpaces { s with rest := r } fuel
      else if b == octet '#' then { s with rest := r.dropWhile (· != newline) }
      else if b == octet '\\' then
        match r.dropWhile isSpace with
        | c :: r' =>
          if c == newline then skipSpaces { s with rest := r', line := s.line + 1 } fuel else s
        | [] => s
      else s

/-- Adds a message. -/
def complain (s : Scanner) (line : Nat) (message : String) : Scanner :=
  { s with complaints := ⟨line, message, false⟩ :: s.complaints }

/-- The decimal at the start of octets. -/
def decimalAt (bs : Bytes) : Bytes :=
  let (whole, fraction, rest) := leadingDigits isDigit bs
  if whole.isEmpty && fraction.isEmpty then []
  else
    let (_, rest) := leadingExponent 'e' rest
    bs.take (bs.length - rest.length)

/-- The text up to the closing quote, its escapes kept, and what follows; none if the line ends
first.  A backslash takes the end of a line away. -/
def quoted : Nat → Bytes → Option (Bytes × Nat × Bytes)
  | 0, _ => none
  | _ + 1, [] => none
  | fuel + 1, b :: r =>
    let add (bs : Bytes) (lines : Nat) (rest : Bytes) : Option (Bytes × Nat × Bytes) :=
      (quoted fuel rest).map fun (t, n, rest) => (bs ++ t, n + lines, rest)
    if b == octet '"' then some ([], 0, r)
    else if b == newline then none
    else if b == octet '\\' then
      match r with
      | c :: r' => if c == newline then add [] 1 r' else add [b, c] 0 r'
      | [] => none
    else add [b] 0 r

/-- The pattern up to the closing slash, and what follows; none if the line ends first.  A slash
between brackets does not close it. -/
def slashed : Nat → Bool → Bytes → Option (Bytes × Bytes)
  | 0, _, _ => none
  | _ + 1, _, [] => none
  | fuel + 1, boxed, b :: r =>
    let add (bs : Bytes) (boxed : Bool) (rest : Bytes) : Option (Bytes × Bytes) :=
      (slashed fuel boxed rest).map fun (t, rest) => (bs ++ t, rest)
    if b == octet '/' && !boxed then some ([], r)
    else if b == newline then none
    else if b == octet '\\' then
      match r with
      | c :: r' =>
        if c == newline then add [] boxed r'
        else if c == octet '/' then add [c] boxed r'
        else add [b, c] boxed r'
      | [] => none
    else if b == octet '[' && !boxed then
      -- A bracket that comes first in a set does not close it.
      match r with
      | c :: d :: r' =>
        if c == octet ']' then add [b, c] true (d :: r')
        else if c == octet '^' && d == octet ']' then add [b, c, d] true r'
        else add [b] true r
      | _ => add [b] true r
    else if b == octet ']' && boxed then add [b] false r
    else add [b] boxed r

/-- How the start of something that does not end is shown. -/
def runaway (kind : String) (sign : Char) (bs : Bytes) : Token :=
  .broken s!"runaway {kind} {sign}{Utf8.lossy ((bs.takeWhile (· != newline)).take 10)} ..."

/-- Whether a slash after the token before means a division. -/
def divides (s : Scanner) : Bool :=
  match s.last with
  | .number .. | .text _ | .name _ | .pattern _ | .field _ => true
  | .sign t => [")", "]", "++", "--"].contains t
  | .keyword t => t == "getline"
  | _ => false

/-- The scanner after a token. -/
def after (s : Scanner) (t : Token) (rest : Bytes) : Token × Scanner :=
  (t, { s with last := t, rest })

/-- The token of a word. -/
def word (s : Scanner) (w : Bytes) (rest : Bytes) : Token × Scanner :=
  let name := asciiText w
  if keywords.contains name then
    let (t, s) := s.after (.keyword name) rest
    (t, if name == "do" || name == "else" then s.eatLines else s)
  else if s.names.contains name then s.after (.name name) rest
  else if s.callees.contains name then s.after (.callee name) rest
  else
    match functionNames.find? fun f => f.1 == name with
    | some (_, f) => s.after (.function f name) rest
    | none =>
      if rest.head? == some (octet '(') then
        { s with callees := name :: s.callees }.after (.callee name) rest
      else { s with names := name :: s.names }.after (.name name) rest

/-- The token of a mark. -/
def mark (s : Scanner) (t : String) (rest : Bytes) : Token × Scanner :=
  let plain := s.after (.sign t) rest
  let atTop := s.printing && s.parens = 0
  match t with
  | "&&" | "||" | "," => (plain.1, plain.2.eatLines)
  | "(" => { s with parens := s.parens + 1 }.after (.sign t) rest
  | ")" => { s with parens := s.parens - 1 }.after (.sign t) rest
  | ">" =>
    let twice := rest.head? == some (octet '>')
    if atTop then
      { s with printing := false }.after (.direction (if twice then .append else .overwrite))
        (if twice then rest.tail else rest)
    else plain
  | "|" => if atTop then { s with printing := false }.after (.direction .pipe) rest else plain
  | _ => plain

/-- The token of a dollar sign: a number may follow it. -/
def dollar (s : Scanner) (line : Nat) (rest : Bytes) : Token × Scanner :=
  let spelt := decimalAt (rest.dropWhile isSpace)
  if spelt.isEmpty then s.after (.sign "$") rest
  else
    let after := (rest.dropWhile isSpace).drop spelt.length
    let x := Number.ofText spelt
    match x.wholeText? with
    | some _ => s.after (.field (x.whole?.getD 0).toNat) after
    | none =>
      let spelt := Utf8.lossy ({ kind := 'g' : Directive }.real x.toReal)
      (s.complain line s!"${spelt} is invalid field index").after (.field 0) after

/-- The token of a closing brace: the semicolon that it implies comes first. -/
def closeBrace (s : Scanner) (rest : Bytes) : Token × Scanner :=
  let ended := match s.last with
    | .newline | .semicolon | .implied => true
    | .sign t => t == "\x7d"
    | _ => false
  if !ended then (.implied, { s with last := .implied })
  else
    let braces := s.braces - 1
    let blank := rest.dropWhile isSpace
    let rest := if braces = 0 && blank.head? == some (octet ';') then blank.tail else rest
    let (t, s) := { s with braces }.after (.sign "\x7d") rest
    (t, s.eatLines)

/-- The next token, and the line it is on. -/
def next : Nat → Scanner → Token × Nat × Scanner
  | 0, s => (.finish, s.line, s)
  | fuel + 1, s =>
    let s := s.skipSpaces (s.rest.length + 1)
    let line := s.line
    let give (x : Token × Scanner) : Token × Nat × Scanner := (x.1, line, x.2)
    match s.rest with
    | [] =>
      match s.last with
      | .newline | .semicolon | .finish => (.finish, line, s)
      | .sign "\x7d" => (.finish, line, s)
      | _ => give (s.after .newline [])
    | b :: r =>
      if b == newline then
        let (t, s) := { s with line := line + 1 }.after .newline r
        give (t, s.eatLines)
      else if b == octet ';' then
        let (t, s) := s.after .semicolon r
        give (t, s.eatLines)
      else if b == octet '\x7b' then
        let (t, s) := { s with braces := s.braces + 1 }.after (.sign "\x7b") r
        give (t, s.eatLines)
      else if b == octet '\x7d' then
        if s.braces = 0 then
          let blank := r.dropWhile isSpace
          let r := if blank.head? == some (octet ';') then blank.tail else r
          next fuel { s.complain line "extra '\x7d'" with rest := r }
        else give (s.closeBrace r)
      else if b == octet ')' && s.parens = 0 then
        next fuel { s.complain line "extra ')'" with rest := r }
      else if b == octet '"' then
        match quoted (r.length + 1) r with
        | some (t, lines, rest) =>
          let (t, s) := { s with line := line + lines }.after (.text (unescaped t.length t)) rest
          give (t, s)
        | none => give (s.after (runaway "string constant" '"' r) r)
      else if b == octet '/' && !s.divides then
        match slashed (r.length + 1) false r with
        | some (t, rest) => give (s.after (.pattern t) rest)
        | none => give (s.after (runaway "regular expression" '/' r) r)
      else if b == octet '$' then give (s.dollar line r)
      else if isAlpha b || b == octet '_' then
        let w := s.rest.takeWhile isNameOctet
        give (s.word w (s.rest.drop w.length))
      else
        let spelt := decimalAt s.rest
        if !spelt.isEmpty then
          give (s.after (.number (.ofText spelt) spelt) (s.rest.drop spelt.length))
        else
          match signs.find? fun t => (Utf8.encode t).isPrefixOf s.rest with
          | some t => give (s.mark t (s.rest.drop t.length))
          | none => give (s.after (.unexpected b) r)

end Scanner

end Awk

end Shell

end FunctionIndex

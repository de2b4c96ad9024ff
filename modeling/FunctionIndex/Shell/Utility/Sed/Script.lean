import FunctionIndex.Shell.Work

/-!
# Scripts of the line editor

A script is a list of commands, each with the addresses of the lines it applies to.  A script can
be given in pieces; a fault is told with the piece and the position in it up to which it has been
read.
-/

namespace FunctionIndex

namespace Shell

namespace Utility

open Json (octet isDigit)
open Work

namespace Sed

/-! ### Commands -/

/-- A condition on lines. -/
inductive Address where
  | line (n : Nat)
  | last
  /-- A line in which an expression matches; none stands for the expression used last. -/
  | matching (r : Option Regex)
  /-- Every so many lines from a line on. -/
  | every (first step : Nat)
  /-- So many lines after the first one of a range. -/
  | after (n : Nat)
  /-- Up to the next line whose number is a multiple. -/
  | multiple (n : Nat)

/-- A part of what takes the place of a match. -/
inductive Part where
  | text (bs : Bytes)
  /-- A group of the match. -/
  | group (n : Nat)
  /-- A change of case from here on: `U`, `L`, `u`, `l` or `E`. -/
  | case (b : UInt8)

/-- A replacement of matches. -/
structure Substitution where
  pattern : Option Regex
  parts : List Part
  global : Bool := false
  /-- The first match that is replaced. -/
  first : Option Nat := none
  print : Bool := false
  file : Option Bytes := none

/-- What a command does. -/
inductive Action where
  | substitute (s : Substitution)
  | translate (old new : Bytes)
  /-- Writes a text before the line, after it, or in its place. -/
  | insert (bs : Bytes)
  | append (bs : Bytes)
  | change (bs : Bytes)
  /-- Jumps to a label if a replacement was made, was not made, or in any case. -/
  | jump (when_ : Option Bool) (label : Bytes)
  | label (name : Bytes)
  /-- Skips to the end of a block unless the address matches. -/
  | open_
  | close
  | quit (silent : Bool) (status : Nat)
  | readFile (name : Bytes)
  /-- Reads one more line of a file. -/
  | readLine (name : Bytes)
  | writeFile (name : Bytes)
  /-- Writes the first line of the text to a file. -/
  | writeLine (name : Bytes)
  /-- Writes the text so that it can be seen, in lines of a width. -/
  | show (width : Option Nat)
  /-- A command of one letter without arguments. -/
  | plain (b : UInt8)

/-- A command. -/
structure Command where
  start : Option Address := none
  stop : Option Address := none
  negated : Bool := false
  action : Action

/-! ### Reading scripts -/

/-- Where a piece of a script comes from. -/
inductive Origin where
  /-- An argument, by its number among them. -/
  | argument (n : Nat)
  | file (name : Bytes)

/-- What is left of a script. -/
structure Reading where
  rest : Bytes
  /-- How many octets of the piece have been read. -/
  position : Nat := 0
  /-- How many lines of the piece have ended. -/
  lines : Nat := 0
  origin : Origin
  later : List (Origin × Bytes)
  /-- Whether operators of expressions stand without a backslash. -/
  extended : Bool
  /-- How many blocks are open. -/
  depth : Nat := 0
  /-- Whether lines are only written when a command says so. -/
  quiet : Bool := false

/-- What is wrong with a script. -/
structure ScriptFault where
  /-- Whether it concerns the whole script rather than a position. -/
  whole : Bool := false
  message : String
  status : Nat := 1
  /-- Whether the place in the script is told. -/
  placed : Bool := true
  origin : Origin := .argument 1
  position : Nat := 0
  lines : Nat := 0

/-- A reader of scripts. -/
abbrev Parser := StateT Reading (Except ScriptFault)

/-- Ends with what is wrong at the position that has been reached. -/
def refuse {α : Type} (message : String) : Parser α := do
  let r ← get
  throw { message, origin := r.origin, position := r.position, lines := r.lines }

/-- Takes the next octet. -/
def next? : Parser (Option UInt8) := do
  let r ← get
  match r.rest with
  | [] => return none
  | b :: rest =>
    set { r with rest, position := r.position + 1, lines := if b == newline then r.lines + 1 else r.lines }
    return some b

/-- Gives an octet back. -/
def giveBack (b : Option UInt8) : Parser Unit :=
  match b with
  | none => pure ()
  | some b => modify fun r =>
    { r with rest := b :: r.rest, position := r.position - 1, lines := if b == newline then r.lines - 1 else r.lines }

/-- Takes octets while they satisfy `p`. -/
def takeWhile (p : UInt8 → Bool) : Parser Bytes := do
  let r ← get
  let bs := r.rest.takeWhile p
  set { r with
    rest := r.rest.drop bs.length, position := r.position + bs.length
    lines := r.lines + bs.countP (· == newline) }
  return bs

/-- Takes the next octet that is no blank. -/
def nextFilled? : Parser (Option UInt8) := do
  let _ ← takeWhile isBlank
  next?

/-- Takes a number that starts with an octet. -/
def number (first : Option UInt8) : Parser Nat := do
  match first with
  | some b =>
    if isDigit b then
      let ds ← takeWhile isDigit
      return Json.Numeral.natOf (b :: ds)
    else
      giveBack first
      return 0
  | none => return 0

/-- Octets up to a delimiter that is neither escaped nor in a set between brackets. -/
def delimited (d : UInt8) (regex : Bool) : Nat → Bytes → Parser (Option Bytes)
  | 0, _ => return none
  | fuel + 1, seen => do
    match ← next? with
    | none => return none
    | some b =>
      if b == d then return some seen.reverse
      else if b == newline && regex then
        giveBack (some b)
        return none
      else if b == octet '\\' then
        match ← next? with
        | none => return none
        | some c =>
          if c == d && !(!regex && c == octet '&') then delimited d regex fuel (c :: seen)
          else if c == octet 'n' && regex then delimited d regex fuel (newline :: seen)
          else if c == newline then delimited d regex fuel (if regex then c :: seen else c :: b :: seen)
          else delimited d regex fuel (c :: b :: seen)
      else if b == octet '[' && regex then
        -- The end of the set is looked for before the delimiter.
        let rest := (← get).rest
        let start := if rest.head? == some (octet '^') then 1 else 0
        let start := if rest[start]? == some (octet ']') then start + 1 else start
        let rec closing : Nat → Nat → Option Nat
          | 0, _ => none
          | fuel + 1, i =>
            match rest[i]? with
            | none => none
            | some x =>
              if x == newline then none
              else if x == octet ']' then some i
              else
                let sign := (rest[i + 1]?).getD 0
                if x == octet '[' && [octet ':', octet '.', octet '='].contains sign then
                  match Regex.enclosed sign (rest.drop (i + 2)) with
                  | some (name, _) => closing fuel (i + 4 + name.length)
                  | none => none
                else closing fuel (i + 1)
        match closing (rest.length + 1) start with
        | none =>
          -- Nothing can close the set any more.
          let _ ← takeWhile (· != newline)
          return none
        | some i =>
          let set := rest.take (i + 1)
          modify fun r => { r with rest := r.rest.drop (i + 1), position := r.position + i + 1 }
          let rec plain : Bytes → Bytes
            | x :: y :: r =>
              if x == octet '\\' && y == octet 'n' then newline :: plain r
              else if x == octet '\\' && y == d then y :: plain r
              else x :: plain (y :: r)
            | bs => bs
          delimited d regex fuel ((b :: plain set).reverse ++ seen)
      else delimited d regex fuel (b :: seen)

/-- Takes octets up to a delimiter. -/
def until_ (d : UInt8) (regex : Bool) (failure : String) : Parser Bytes := do
  match ← delimited d regex ((← get).rest.length + 1) [] with
  | some bs => return bs
  | none => refuse failure

/-- Octets with escapes for controls replaced. -/
def withControls (replacement : Bool) : Nat → Bytes → Bytes
  | 0, bs => bs
  | fuel + 1, bs =>
    match bs with
    | b :: c :: r =>
      if b != octet '\\' then b :: withControls replacement fuel (c :: r)
      else
        let number (base most : Nat) (p : UInt8 → Bool) : Option (UInt8 × Bytes) :=
          let ds := (r.take most).takeWhile p
          if ds.isEmpty then none else some ((digitsValue base ds).toUInt8, r.drop ds.length)
        let found : Option (UInt8 × Bytes) := match Options.charOf c with
          | 'a' => some (0x07, r)
          | 'f' => some (0x0C, r)
          | 'r' => some (0x0D, r)
          | 't' => some (0x09, r)
          | 'v' => some (0x0B, r)
          | 'd' => number 10 3 isDigit
          | 'o' => number 8 3 fun d => octet '0' ≤ d && d ≤ octet '7'
          | 'x' => number 16 2 isHex
          | 'c' => match r with
            | x :: r => some (upper x ^^^ 0x40, r)
            | [] => none
          | _ => none
        match found with
        | some (v, r) =>
          let special := replacement && (v == octet '&' || v == octet '\\')
          (if special then [octet '\\', v] else [v]) ++ withControls replacement fuel r
        | none => b :: c :: withControls replacement fuel r
    | bs => bs

/-- The expression that octets spell; none for the one used last. -/
def regexOf (ignoreCase multiline : Bool) (bs : Bytes) : Parser (Option Regex) := do
  if bs.isEmpty then
    if ignoreCase || multiline then refuse "cannot specify modifiers on empty regexp" else return none
  else
    let bs := withControls false (bs.length + 1) bs
    let k : Regex.Style :=
      { extended := (← get).extended, ignoreCase, multiline, strict := true }
    match Regex.parse k bs with
    | .ok (r, _) =>
      if Regex.holdsMistake (bs.length + 1) bs then
        throw { message := "character class syntax is [[:space:]], not [:space:]", status := 4, placed := false }
      else return some r
    | .error f => refuse f.message

/-- Takes the modifiers of an expression in an address. -/
def modifiers : Nat → Bool × Bool → Parser (Bool × Bool)
  | 0, x => return x
  | fuel + 1, (i, m) => do
    match ← nextFilled? with
    | some b =>
      if b == octet 'I' then modifiers fuel (true, m)
      else if b == octet 'M' then modifiers fuel (i, true)
      else
        giveBack (some b)
        return (i, m)
    | none => return (i, m)

/-- Takes an address that starts with an octet. -/
def address? (first : Option UInt8) : Parser (Option Address) := do
  match first with
  | none => return none
  | some b =>
    if b == octet '/' || b == octet '\\' then
      let d ← if b == octet '/' then pure (some b) else next?
      match d with
      | none => refuse "unterminated address regex"
      | some d =>
        let bs ← until_ d true "unterminated address regex"
        let (i, m) ← modifiers ((← get).rest.length + 1) (false, false)
        return some (.matching (← regexOf i m bs))
    else if isDigit b then
      let n ← number first
      let c ← nextFilled?
      if c == some (octet '~') then
        let step ← number (← nextFilled?)
        return some (if step = 0 then .line n else .every n step)
      else
        giveBack c
        return some (.line n)
    else if b == octet '+' then return some (.after (← number (← nextFilled?)))
    else if b == octet '~' then return some (.multiple (← number (← nextFilled?)))
    else if b == octet '$' then return some .last
    else return none

/-- The parts of a replacement. -/
def parts : Nat → Bytes → List Part
  | 0, _ => []
  | _ + 1, [] => []
  | fuel + 1, b :: r =>
    if b == octet '&' then .group 0 :: parts fuel r
    else if b == octet '\\' then
      match r with
      | [] => [.text [b]]
      | c :: r =>
        if isDigit c then .group (c.toNat - 0x30) :: parts fuel r
        else if c == octet 'n' then .text [newline] :: parts fuel r
        else if (Utf8.encode "ULulE").contains c then .case c :: parts fuel r
        else .text [c] :: parts fuel r
    else .text [b] :: parts fuel r

/-- Takes the name of a file. -/
def fileName : Parser Bytes := do
  let _ ← takeWhile isBlank
  let f ← takeWhile (· != newline)
  if f.isEmpty then refuse "missing filename in r/R/w/W commands" else return f

/-- The flags of a replacement, and whether its expression ignores case and knows lines. -/
def flags : Nat → Substitution → Bool → Bool → Parser (Substitution × Bool × Bool)
  | 0, s, i, m => return (s, i, m)
  | fuel + 1, s, i, m => do
    match ← next? with
    | none => return (s, i, m)
    | some b =>
      match Options.charOf b with
      | 'i' | 'I' => flags fuel s true m
      | 'm' | 'M' => flags fuel s i true
      | ' ' => flags fuel s i m
      | 'p' =>
        if s.print then refuse "multiple `p' options to `s' command"
        else flags fuel { s with print := true } i m
      | 'g' =>
        if s.global then refuse "multiple `g' options to `s' command"
        else flags fuel { s with global := true } i m
      | 'w' => return ({ s with file := some (← fileName) }, i, m)
      | '\n' | ';' => return (s, i, m)
      | _ =>
        if isDigit b then
          if s.first.isSome then refuse "multiple number options to `s' command"
          else
            let n ← number (some b)
            if n = 0 then refuse "number option to `s' command may not be zero"
            else flags fuel { s with first := some n } i m
        else if b == closeBrace || b == octet '#' then
          giveBack (some b)
          return (s, i, m)
        else refuse "unknown option to `s'"

/-- Takes the rest of the text after `a`, `i` or `c`, what has been read being given with the
latest first. -/
def textLines : Nat → Bytes → Parser Bytes
  | 0, seen => return seen.reverse
  | fuel + 1, seen => do
    match ← next? with
    | none => return (newline :: seen).reverse
    | some b =>
      if b == newline then return (b :: seen).reverse
      else if b == octet '\\' then
        match ← next? with
        | some c => textLines fuel (c :: (if c == newline then seen else b :: seen))
        | none =>
          -- The text goes on in the next piece of the script.
          let r ← get
          match r.later with
          | [] => return if seen.isEmpty then [] else (newline :: seen).reverse
          | (origin, piece) :: later =>
            set { r with rest := piece, position := 0, lines := 0, origin, later }
            textLines fuel (newline :: seen)
      else textLines fuel (b :: seen)

/-- Text with its escapes replaced. -/
def plainText : Nat → Bytes → Bytes
  | 0, bs => bs
  | fuel + 1, bs =>
    match bs with
    | b :: c :: r =>
      if b == octet '\\' then c :: plainText fuel r else b :: plainText fuel (c :: r)
    | bs => bs

/-- Takes the text after `a`, `i` or `c`. -/
def text : Parser Bytes := do
  let first ← nextFilled?
  let fuel := (← get).rest.length + 2 + ((← get).later.map fun p => p.2.length + 1).foldl (· + ·) 0
  let finish (bs : Bytes) : Bytes :=
    let bs := withControls true (bs.length + 1) bs
    plainText (bs.length + 1) bs
  match first with
  | none => refuse "expected \\ after `a', `c' or `i'"
  | some b =>
    if b == octet '\\' then
      let blanks ← takeWhile isBlank
      match ← next? with
      | some c =>
        if c == newline then return finish (← textLines fuel [])
        else
          giveBack (some c)
          return finish (← textLines fuel blanks.reverse)
      | none =>
        let r ← get
        match r.later with
        | [] => return []
        | (origin, piece) :: later =>
          set { r with rest := piece, position := 0, lines := 0, origin, later }
          return finish (← textLines fuel [])
    else
      giveBack (some b)
      return finish (← textLines fuel [])

/-- Takes a label. -/
def labelName : Parser Bytes := do
  let _ ← takeWhile isBlank
  let l ← takeWhile fun b => !isWhite b && b != octet ';'
  return l

/-- Takes the end of a command. -/
def endOfCommand : Parser Unit := do
  match ← nextFilled? with
  | none => pure ()
  | some b =>
    if b == closeBrace || b == octet '#' then giveBack (some b)
    else if b != newline && b != octet ';' then refuse "extra characters after command"

/-- The octets of a list for `y`. -/
def listed : Nat → Bytes → Bytes
  | 0, bs => bs
  | fuel + 1, bs =>
    match bs with
    | b :: c :: r =>
      if b == octet '\\' && c == b then b :: listed fuel r
      else if b == octet '\\' && c == octet 'n' then newline :: listed fuel r
      else b :: listed fuel (c :: r)
    | bs => bs

/-- The greatest group that is referred to. -/
def greatestGroup (ps : List Part) : Nat :=
  (ps.map fun
    | .group n => n
    | _ => 0).foldl max 0

/-- The number of groups of an expression. -/
def groupCount : Regex → Nat
  | .cat a b | .alt a b => max (groupCount a) (groupCount b)
  | .rep r _ _ | .few r _ _ | .ahead r _ | .behind r _ => groupCount r
  | .group n r => max n (groupCount r)
  | _ => 0

/-- Takes what a command does. -/
def action (b : UInt8) (ranged : Bool) : Parser Action := do
  match Options.charOf b with
  | 's' =>
    match ← next? with
    | none => refuse "unterminated `s' command"
    | some d =>
      let pattern ← until_ d true "unterminated `s' command"
      let new ← until_ d false "unterminated `s' command"
      let new := withControls true (new.length + 1) new
      let ps := parts (new.length + 1) new
      let (s, i, m) ← flags ((← get).rest.length + 1) { pattern := none, parts := ps } false false
      let r ← regexOf i m pattern
      let most := greatestGroup ps
      if r.any fun r => groupCount r < most then
        refuse s!"invalid reference \\{most} on `s' command's RHS"
      else return .substitute { s with pattern := r }
  | 'y' =>
    match ← next? with
    | none => refuse "unterminated `y' command"
    | some d =>
      let tidy (bs : Bytes) : Bytes :=
        let bs := withControls false (bs.length + 1) bs
        listed (bs.length + 1) bs
      let a := tidy (← until_ d false "unterminated `y' command")
      let z := tidy (← until_ d false "unterminated `y' command")
      if a.length != z.length then refuse "strings for `y' command are different lengths"
      else
        endOfCommand
        return .translate a z
  | 'a' => return .append (← text)
  | 'i' => return .insert (← text)
  | 'c' => return .change (← text)
  | 'b' => return .jump none (← labelName)
  | 't' => return .jump (some true) (← labelName)
  | 'T' => return .jump (some false) (← labelName)
  | 'q' | 'Q' =>
    if ranged then refuse "command only uses one address"
    else
      let n ← number (← nextFilled?)
      endOfCommand
      return .quit (b == octet 'Q') (n % 256)
  | 'l' =>
    let c ← nextFilled?
    let isNumber := c.any isDigit
    let n ← number c
    endOfCommand
    return .show (if isNumber then some n else none)
  | 'r' => return .readFile (← fileName)
  | 'R' => return .readLine (← fileName)
  | 'w' => return .writeFile (← fileName)
  | 'W' => return .writeLine (← fileName)
  | _ =>
    if b == openBrace then return .open_
    else if (Utf8.encode "dDpPnNhHgGx=zF").contains b then
      endOfCommand
      return .plain b
    else refuse s!"unknown command: `{Options.charOf b}'"

/-- Takes the addresses of a command, and the octet that follows them. -/
def addresses (first : UInt8) : Parser (Option Address × Option Address × Option UInt8) := do
  match ← address? (some first) with
  | none => return (none, none, some first)
  | some a =>
    match a with
    | .after _ | .multiple _ => refuse "invalid usage of +N or ~N as first address"
    | _ =>
      let c ← nextFilled?
      let (stop, c) ← if c == some (octet ',') then do
          match ← address? (← nextFilled?) with
          | none => refuse "unexpected `,'"
          | some z =>
            let c ← nextFilled?
            pure (some z, c)
        else pure (none, c)
      let isMatching : Bool := match stop with
        | some (.matching _) => true
        | _ => false
      match a with
      | .line 0 =>
        if isMatching then return (some a, stop, c) else refuse "invalid usage of line address 0"
      | _ => return (some a, stop, c)

/-- Takes a command, or nothing where a comment or the end stands; `first` at the beginning of the
whole script. -/
def command? (first : Bool) (b : UInt8) : Parser (Option Command) := do
  let (start, stop, c) ← addresses b
  let (negated, c) ← if c == some (octet '!') then do
      let c ← nextFilled?
      if c == some (octet '!') then refuse "multiple `!'s" else pure (true, c)
    else pure (false, c)
  match c with
  | none => refuse "missing command"
  | some c =>
    if c == octet '#' then
      if start.isSome then refuse "comments don't accept any addresses"
      else
        let position := (← get).position
        let comment ← takeWhile (· != newline)
        if first && position == 1 && comment == [octet 'n'] then modify fun r => { r with quiet := true }
        return none
    else if c == closeBrace then
      if (← get).depth = 0 then refuse "unexpected `\x7d'"
      else if start.isSome then refuse "`\x7d' doesn't want any addresses"
      else
        endOfCommand
        modify fun r => { r with depth := r.depth - 1 }
        return some { action := .close }
    else if c == octet ':' then
      if start.isSome then refuse ": doesn't want any addresses"
      else
        let l ← labelName
        if l.isEmpty then refuse "\":\" lacks a label" else return some { action := .label l }
    else
      let a ← action c stop.isSome
      if c == openBrace then modify fun r => { r with depth := r.depth + 1 }
      return some ⟨start, stop, negated, a⟩

/-- Takes the commands of a script. -/
def commands : Nat → Bool → Parser (List Command)
  | 0, _ => return []
  | fuel + 1, first => do
    let _ ← takeWhile fun b => isWhite b || b == octet ';'
    match ← next? with
    | some b =>
      match ← command? first b with
      | some c => return c :: (← commands fuel false)
      | none => commands fuel false
    | none =>
      let r ← get
      match r.later with
      | (origin, piece) :: later =>
        set { r with rest := piece, position := 0, lines := 0, origin, later }
        commands fuel false
      | [] =>
        if r.depth > 0 then
          throw { message := "unmatched `\x7b'", origin := r.origin, whole := true }
        else return []

/-- The commands of a script that is given in pieces, and whether lines are only written when a
command says so. -/
def parse (extended : Bool) (pieces : List (Origin × Bytes)) :
    Except ScriptFault (List Command × Bool) :=
  match pieces with
  | [] => .ok ([], false)
  | (origin, piece) :: later =>
    let size := (pieces.map fun p => p.2.length + 2).foldl (· + ·) 0
    match (commands size true).run { rest := piece, origin, later, extended } with
    | .ok (cs, r) => .ok (cs, r.quiet)
    | .error f => .error f

/-- The wording of a fault. -/
def ScriptFault.text (f : ScriptFault) : String :=
  if !f.placed then f.message
  else
    match f.origin with
    | .argument n =>
      let position := if f.whole then 0 else f.position
      s!"-e expression #{n}, char {position}: {f.message}"
    | .file name =>
      let line := if f.whole then 0 else f.lines + 1
      s!"file {Utf8.lossy name} line {line}: {f.message}"

end Sed

end Utility

end Shell

end FunctionIndex

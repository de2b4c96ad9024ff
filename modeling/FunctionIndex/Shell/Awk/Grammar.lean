import FunctionIndex.Shell.Awk.Token

/-!
# Reading awk programs

Expressions are read by the strength of their operators: what follows an operand belongs to it as
long as the operator is at least as strong as the level that is read.  A program may hold several
mistakes; after one of them reading goes on with the next statement.

A name stands for a table or for a variable, which is known from its use.  The kind of a parameter
may only show in the functions it is handed on to, so the kinds are compared at the end.
-/

namespace FunctionIndex

namespace Shell

namespace Awk

open Json (octet isDigit)

/-- What a name stands for. -/
inductive Kind where
  | single
  | table
  deriving DecidableEq, Repr

/-- The wording of a kind. -/
def Kind.word : Kind → String
  | single => "variable"
  | table => "array"

/-- A name in a function, or outside of all functions. -/
structure Place where
  function : Option String
  name : String
  deriving DecidableEq, Repr

/-- Something that is handed to a function. -/
structure Handing where
  callee : String
  /-- Its position among the arguments, from zero on. -/
  index : Nat
  /-- The name that is handed on, if it is nothing but a name. -/
  name : Option Place
  line : Nat

/-- Where statements stand. -/
inductive Part where
  | first
  | last
  | main
  | function
  deriving DecidableEq, Repr

/-- A program that is being read. -/
structure Source where
  scanner : Scanner
  /-- The token that is next, if it has been looked at, and its line. -/
  look : Option (Token × Nat) := none
  /-- The line of the last token. -/
  line : Nat := 1
  /-- The function that is being read, and its parameters. -/
  function : Option String := none
  parameters : List String := []
  part : Part := .main
  /-- Number of loops around. -/
  loops : Nat := 0
  kinds : List (Place × Kind) := []
  handings : List Handing := []
  /-- Functions that are called: with how many arguments, and where. -/
  calls : List (String × Nat × Nat) := []
  rules : List Rule := []
  functions : List Definition := []

/-- What keeps a program from being read on. -/
inductive Trouble where
  /-- A mistake in a statement. -/
  | mistake
  /-- Something that ends all reading. -/
  | hopeless

/-- A reader of a part of a program. -/
abbrev Parser := ExceptT Trouble (StateM Source)

namespace Parser

/-- Adds a message. -/
def complainAt (line : Nat) (message : String) : Parser Unit :=
  modify fun s => { s with scanner := s.scanner.complain line message }

/-- Adds a message about the last token. -/
def complain (message : String) : Parser Unit := do complainAt (← get).line message

/-- The token that is next. -/
def peek : Parser Token := do
  let s ← get
  match s.look with
  | some (t, _) => return t
  | none =>
    let (t, line, scanner) := s.scanner.next (s.scanner.rest.length + 2)
    set { s with scanner, look := some (t, line), line }
    match t with
    | .broken m =>
      complainAt line m
      throw .hopeless
    | t => return t

/-- Passes over the token that is next. -/
def advance : Parser Unit := do
  let _ ← peek
  modify fun s => { s with look := none }

/-- The most messages about a program. -/
def maxComplaints : Nat := 5

/-- Says what is wrong with the token that is next. -/
def fail {α : Type} : Parser α := do
  let t ← peek
  let s ← get
  let k := s.scanner
  let ends := match t with
    | .finish | .newline | .semicolon | .implied => true
    | .sign m => m == "\x7d"
    | _ => false
  let starts := match t with
    | .finish => true
    | .keyword w => w == "BEGIN" || w == "END"
    | _ => false
  match t with
  | .unexpected b =>
    let c : Complaint := ⟨s.line, s!"unexpected character '{Utf8.lossy [b]}'", true⟩
    set { s with scanner := { k with complaints := c :: k.complaints } }
  | _ =>
    if ends && k.parens > 0 then
      set { s with scanner := { k with parens := 0 } }
      complain s!"missing ) near {t.shown}"
    else if starts && k.braces > 0 then
      set { s with scanner := { k with braces := 0 } }
      complain s!"missing \x7d near {t.shown}"
    else complain s!"syntax error at or near {t.shown}"
  if (← get).scanner.complaints.length ≥ maxComplaints then throw .hopeless else throw .mistake

/-- Whether a mark is next. -/
def isSign (m : String) : Parser Bool := do
  match ← peek with
  | .sign s => return s == m
  | _ => return false

/-- Whether a word is next. -/
def isKeyword (w : String) : Parser Bool := do
  match ← peek with
  | .keyword s => return s == w
  | _ => return false

/-- Takes a mark if it is next. -/
def accept (m : String) : Parser Bool := do
  if ← isSign m then
    advance
    return true
  else return false

/-- Takes a mark, which must be next. -/
def expect (m : String) : Parser Unit := do
  if !(← accept m) then fail

/-- Passes over ends of lines. -/
def eatLines : Parser Unit := modify fun s => { s with scanner := s.scanner.eatLines }

/-- Takes the parenthesis that closes a condition; a statement may follow on a new line. -/
def closeCondition : Parser Unit := do
  expect ")"
  eatLines

/-- Whether the end of a statement is next. -/
def isSeparator : Parser Bool := do
  match ← peek with
  | .newline | .semicolon | .implied => return true
  | _ => return false

/-- Takes the end of a statement. -/
def separator : Parser Unit := do
  if ← isSeparator then advance else fail

/-! ### Names -/

/-- The place of a name at this point. -/
def placeOf (name : String) : Parser Place := do
  let s ← get
  return ⟨if s.parameters.contains name then s.function else none, name⟩

/-- Uses a name as something of a kind. -/
def use (kind : Kind) (name : String) : Parser Unit := do
  let p ← placeOf name
  let s ← get
  match s.kinds.find? fun k => k.1 == p with
  | none => set { s with kinds := (p, kind) :: s.kinds }
  | some (_, old) =>
    if old != kind then
      let scope := if p.function.isSome then "local " else ""
      complain s!"illegal reference to {scope}{old.word} {name}"

/-- Takes a name. -/
def takeName : Parser String := do
  match ← peek with
  | .name n =>
    advance
    return n
  | _ => fail

/-- Takes the name of a table. -/
def takeTable : Parser String := do
  let n ← takeName
  use .table n
  return n

/-- Takes a name that stands alone before a comma or a closing parenthesis, if there is one. -/
def takeAlone? : Parser (Option String) := do
  match ← peek with
  | .name n =>
    let saved ← get
    advance
    let comma ← isSign ","
    let close ← isSign ")"
    if comma || close then return some n
    else
      set saved
      return none
  | _ => return none

/-! ### Expressions -/

/-- The operation of an assignment. -/
def assignment? : Token → Option (Option Operation)
  | .sign "=" => some none
  | .sign "+=" => some (some .add)
  | .sign "-=" => some (some .subtract)
  | .sign "*=" => some (some .multiply)
  | .sign "/=" => some (some .divide)
  | .sign "%=" => some (some .modulo)
  | .sign "^=" => some (some .power)
  | _ => none

/-- The comparison that a mark stands for. -/
def comparison? : String → Option Comparison
  | "==" => some .equal
  | "!=" => some .different
  | "<" => some .less
  | "<=" => some .atMost
  | ">" => some .greater
  | ">=" => some .atLeast
  | _ => none

/-- Whether a token can start an operand that is joined to the one before. -/
def startsOperand : Token → Bool
  | .number .. | .text _ | .pattern _ | .field _ | .name _ | .callee _ | .function .. => true
  | .sign s => ["(", "$", "!", "++", "--"].contains s
  | .keyword w => w == "getline"
  | _ => false

/-- The least and the greatest number of arguments of a function. -/
def arity : Function → Nat × Option Nat
  | .length => (0, some 1)
  | .substr | .split | .sub | .gsub => (2, some 3)
  | .index | .match_ | .atan2 => (2, some 2)
  | .sprintf => (1, none)
  | .rand | .systime => (0, some 0)
  | .srand | .fflush => (0, some 1)
  | .strftime => (0, some 3)
  | .sin | .cos | .exp | .log | .sqrt | .int | .tolower | .toupper | .system | .close
  | .mktime => (1, some 1)

/-- Reads a pattern. -/
def patternOf (bs : Bytes) : Parser Term := do
  match Pattern.parse bs with
  | .ok r => return .pattern r
  | .error f =>
    complain s!"regular expression compile failed ({f.message})\n{Utf8.lossy bs}"
    throw .hopeless

/-- The level of an operand that is joined with nothing. -/
def strongest : Nat := 15

mutual

/-- Reads an expression with operators of a level or stronger ones. -/
def expr : Nat → Nat → Parser Term
  | 0, _ => throw .hopeless
  | fuel + 1, level => do
    let left ← operand fuel
    let t ← peek
    match if level ≤ 8 && left.isTarget then assignment? t else none with
    | some op =>
      advance
      let value ← expr fuel 1
      return match op with
        | none => .assign left value
        | some op => .update op left value
    | none => climb fuel level strongest left

/-- Goes on after an operand as long as operators of a level or stronger ones follow, up to a
greatest level. -/
def climb : Nat → Nat → Nat → Term → Parser Term
  | 0, _, _, left => return left
  | fuel + 1, level, most, left => do
    let t ← peek
    let fits (strength : Nat) : Bool := level ≤ strength && strength ≤ most
    let binary (strength next : Nat) (make : Term → Term) : Parser Term := do
      if fits strength then
        advance
        let right ← expr fuel next
        climb fuel level strongest (make right)
      else return left
    let joined : Parser Term := do
      if fits 8 && startsOperand t then
        let right ← expr fuel 9
        climb fuel level strongest (.concat left right)
      else return left
    match t with
    | .sign "?" =>
      if fits 2 then
        advance
        let yes ← expr fuel 1
        expect ":"
        let no ← expr fuel 2
        climb fuel level strongest (.choose left yes no)
      else return left
    | .sign "||" => binary 3 4 (.either left)
    | .sign "&&" => binary 4 5 (.both left)
    | .keyword "in" =>
      if fits 5 then
        advance
        let table ← takeTable
        climb fuel level 7 (.member [left] table)
      else return left
    | .sign "~" => binary 6 7 (.found true left)
    | .sign "!~" => binary 6 7 (.found false left)
    | .sign "+" => binary 10 11 (.operate .add left)
    | .sign "-" => binary 10 11 (.operate .subtract left)
    | .sign "*" => binary 11 12 (.operate .multiply left)
    | .sign "/" => binary 11 12 (.operate .divide left)
    | .sign "%" => binary 11 12 (.operate .modulo left)
    | .sign "|" =>
      if fits 13 then
        advance
        if ← isKeyword "getline" then
          advance
          let target ← target? fuel
          climb fuel level strongest (.getlineOf target left)
        else fail
      else return left
    | .sign "^" => binary 14 14 (.operate .power left)
    | .sign s =>
      match comparison? s with
      | some c => binary 7 8 (.compare c left)
      | none => joined
    | _ => joined

/-- Reads an operand with what stands before it. -/
def operand : Nat → Parser Term
  | 0 => throw .hopeless
  | fuel + 1 => do
    match ← peek with
    | .sign "!" =>
      advance
      return .negation (← expr fuel 12)
    | .sign "-" =>
      advance
      return .minus (← expr fuel 12)
    | .sign "+" =>
      advance
      return .plus (← expr fuel 12)
    | .number x _ =>
      advance
      return .number x
    | .text bs =>
      advance
      return .text bs
    | .pattern bs =>
      advance
      patternOf bs
    | .sign "(" =>
      advance
      let es ← terms fuel
      expect ")"
      match es with
      | [e] => stepped (ungroup e)
      | _ =>
        if ← isKeyword "in" then
          advance
          return .member es (← takeTable)
        else fail
    | .sign "++" =>
      advance
      match ← target? fuel with
      | some t => return .step true true t
      | none => fail
    | .sign "--" =>
      advance
      match ← target? fuel with
      | some t => return .step false true t
      | none => fail
    | .callee f =>
      advance
      let line := (← get).line
      expect "("
      let args ← arguments fuel f 0
      expect ")"
      let known := (← get).functions.find? fun d => d.name == f
      if known.any fun d => args.length > d.parameters.length then
        complain s!"too many arguments in call to {f}"
      modify fun s => { s with calls := (f, args.length, line) :: s.calls }
      return .call f args
    | .function f spelt =>
      advance
      builtin fuel f spelt
    | .keyword "getline" =>
      advance
      let target ← target? fuel
      if ← accept "<" then return .getlineFrom target (← expr fuel 14)
      else return .getline target
    | _ =>
      match ← target? fuel with
      | some t => stepped t
      | none => fail

/-- Reads something that can be assigned to, if it is next. -/
def target? : Nat → Parser (Option Term)
  | 0 => throw .hopeless
  | fuel + 1 => do
    match ← peek with
    | .field n =>
      advance
      return some (.field (.number (.ofNat n)))
    | .sign "$" =>
      advance
      return some (.field (← fieldIndex fuel))
    | .name n =>
      advance
      if ← accept "[" then
        use .table n
        let keys ← terms fuel
        expect "]"
        return some (.element n keys)
      else
        use .single n
        return some (.variable n)
    | _ => return none

/-- Reads what follows a dollar sign. -/
def fieldIndex : Nat → Parser Term
  | 0 => throw .hopeless
  | fuel + 1 => do
    match ← target? fuel with
    | some t => return t
    | none =>
      match ← peek with
      | .sign "(" =>
        advance
        let e ← expr fuel 1
        expect ")"
        return .grouped e
      | _ => operand fuel

/-- Reads expressions with commas between them. -/
def terms : Nat → Parser (List Term)
  | 0 => throw .hopeless
  | fuel + 1 => do
    let e ← expr fuel 1
    if ← accept "," then return e :: (← terms fuel) else return [e]

/-- Reads what is handed to a function of the program. -/
def arguments : Nat → String → Nat → Parser (List Term)
  | 0, _, _ => throw .hopeless
  | fuel + 1, f, index => do
    if index = 0 && (← isSign ")") then return []
    else
      let line := (← get).line
      let e ← match ← takeAlone? with
        | some n =>
          let p ← placeOf n
          modify fun s => { s with handings := ⟨f, index, some p, line⟩ :: s.handings }
          pure (.variable n)
        | none =>
          let e ← expr fuel 1
          modify fun s => { s with handings := ⟨f, index, none, line⟩ :: s.handings }
          pure e
      if ← accept "," then return e :: (← arguments fuel f (index + 1)) else return [e]

/-- Reads a call of a function that is always there, its name gone. -/
def builtin : Nat → Function → String → Parser Term
  | 0, _, _ => throw .hopeless
  | fuel + 1, f, spelt => do
    match f with
    | .length =>
      if ← accept "(" then
        if ← accept ")" then return .builtin f []
        else
          let e ← match ← takeAlone? with
            | some n => pure (.variable n)
            | none => expr fuel 1
          expect ")"
          return .builtin f [e]
      else return .builtin f []
    | .split =>
      expect "("
      let e ← expr fuel 1
      expect ","
      let table ← takeTable
      let by_ ← if ← accept "," then pure [← expr fuel 1] else pure []
      expect ")"
      return .builtin f (e :: .variable table :: by_)
    | .sub | .gsub =>
      expect "("
      let e ← expr fuel 1
      expect ","
      let r ← expr fuel 1
      let into ← if ← accept "," then
          match ← target? fuel with
          | some t => pure [t]
          | none => fail
        else pure []
      expect ")"
      return .builtin f (e :: r :: into)
    | .match_ =>
      expect "("
      let e ← expr fuel 1
      expect ","
      let r ← expr fuel 1
      expect ")"
      return .builtin f [e, r]
    | _ =>
      expect "("
      let args ← if ← isSign ")" then pure [] else terms fuel
      expect ")"
      let (least, most) := arity f
      if args.length < least || most.any fun m => args.length > m then
        complain s!"wrong number of arguments in call to {spelt}"
      return .builtin f args

/-- An expression in parentheses; a field can be assigned to all the same. -/
def ungroup : Term → Term
  | .field i => .field i
  | e => .grouped e

/-- Reads a step that follows something. -/
def stepped (t : Term) : Parser Term := do
  if !t.isTarget then return t
  else if ← accept "++" then return .step true false t
  else if ← accept "--" then return .step false false t
  else return t

end

/-! ### Statements -/

/-- Reads what is to be written. -/
def printed (fuel : Nat) : Parser (List Term) := do
  let directed := match ← peek with
    | .direction _ => true
    | _ => false
  if directed || (← isSeparator) then return []
  else if ← accept "(" then
    if ← accept ")" then return []
    else
      let es ← terms fuel
      expect ")"
      let goOn (left : Term) : Parser (List Term) := do
        let e ← climb fuel 1 strongest left
        if ← accept "," then return e :: (← terms fuel) else return [e]
      match es with
      | [e] => goOn (← stepped (ungroup e))
      | _ =>
        if ← isKeyword "in" then
          advance
          goOn (.member es (← takeTable))
        else return es
  else terms fuel

/-- Reads where output goes to. -/
def directed (fuel : Nat) : Parser (Option (Direction × Term)) := do
  match ← peek with
  | .direction d =>
    advance
    return some (d, ← expr fuel 1)
  | _ => return none

/-- Reads a statement that writes something, its first word gone. -/
def output (fuel : Nat) : Parser (List Term × Option (Direction × Term)) := do
  modify fun s => { s with scanner := { s.scanner with printing := true } }
  let args ← printed fuel
  let target ← directed fuel
  modify fun s => { s with scanner := { s.scanner with printing := false } }
  return (args, target)

/-- Reads an expression if the statement has not ended. -/
def optional (fuel : Nat) : Parser (Option Term) := do
  if ← isSeparator then return none else return some (← expr fuel 1)

/-- Takes the semicolon inside a loop. -/
def semicolon : Parser Unit := do
  match ← peek with
  | .semicolon => advance
  | _ => fail

/-- Reads the keys of a loop over a table, its parenthesis gone; none if it is another loop. -/
def eachKey? : Parser (Option (String × String)) := do
  let saved ← get
  let found ← match ← peek with
    | .name k =>
      advance
      if ← isKeyword "in" then
        advance
        match ← peek with
        | .name t =>
          advance
          if ← isSign ")" then pure (some (k, t)) else pure none
        | _ => pure none
      else pure none
    | _ => pure none
  match found with
  | none =>
    set saved
    return none
  | some (k, t) =>
    use .single k
    use .table t
    closeCondition
    return some (k, t)

/-- Reads something inside a loop. -/
def inLoop {α : Type} (p : Parser α) : Parser α := do
  modify fun s => { s with loops := s.loops + 1 }
  let a ← p
  modify fun s => { s with loops := s.loops - 1 }
  return a

/-- Passes over tokens up to the end of a statement. -/
def skipStatement : Nat → Parser Unit
  | 0 => throw .hopeless
  | fuel + 1 => do
    match ← peek with
    | .finish => throw .hopeless
    | .newline | .semicolon | .implied => advance
    | _ =>
      advance
      skipStatement fuel

/-- Reads something; after a mistake, does something else instead. -/
def recovering {α : Type} (p : Parser α) (instead : Parser α) : Parser α :=
  tryCatch p fun
    | .mistake => instead
    | .hopeless => throw .hopeless

mutual

/-- Reads a statement. -/
def statement : Nat → Parser Statement
  | 0 => throw .hopeless
  | fuel + 1 => do
    let ended (s : Statement) : Parser Statement := do
      separator
      return s
    match ← peek with
    | .sign "\x7b" => block fuel
    | .newline | .semicolon | .implied =>
      advance
      return .nothing
    | .keyword "if" =>
      advance
      expect "("
      let c ← expr fuel 1
      closeCondition
      let yes ← statement fuel
      if ← isKeyword "else" then
        advance
        return .branch c yes (← statement fuel)
      else return .branch c yes .nothing
    | .keyword "while" =>
      advance
      expect "("
      let c ← expr fuel 1
      closeCondition
      return .loop c (← inLoop (statement fuel))
    | .keyword "do" =>
      advance
      let body ← inLoop (statement fuel)
      if !(← isKeyword "while") then fail
      advance
      expect "("
      let c ← expr fuel 1
      expect ")"
      ended (.loopAfter body c)
    | .keyword "for" =>
      advance
      expect "("
      match ← eachKey? with
      | some (k, t) => return .each k t (← inLoop (statement fuel))
      | none =>
        let start ← optional fuel
        semicolon
        let condition ← optional fuel
        semicolon
        let step ← if ← isSign ")" then pure none else some <$> expr fuel 1
        closeCondition
        return .count start condition step (← inLoop (statement fuel))
    | .keyword "print" =>
      advance
      let (args, target) ← output fuel
      ended (.print args target)
    | .keyword "printf" =>
      advance
      let (args, target) ← output fuel
      if args.isEmpty then complain "no arguments in call to printf"
      ended (.printf args target)
    | .keyword "break" =>
      advance
      if (← get).loops = 0 then complain "break statement outside of loop"
      ended .leave
    | .keyword "continue" =>
      advance
      if (← get).loops = 0 then complain "continue statement outside of loop"
      ended .again
    | .keyword "next" =>
      advance
      if (← get).part != .main then complain "improper use of next"
      ended .next
    | .keyword "nextfile" =>
      advance
      if (← get).part != .main then complain "improper use of nextfile"
      ended .nextFile
    | .keyword "exit" =>
      advance
      let e ← optional fuel
      ended (.exit e)
    | .keyword "return" =>
      advance
      if (← get).part != .function then complain "return outside function body"
      let e ← optional fuel
      ended (.giveBack e)
    | .keyword "delete" =>
      advance
      let t ← takeTable
      if ← accept "[" then
        let keys ← terms fuel
        expect "]"
        ended (.delete t keys)
      else ended (.clear t)
    | _ => ended (.evaluate (← expr fuel 1))

/-- Reads statements in braces. -/
def block : Nat → Parser Statement
  | 0 => throw .hopeless
  | fuel + 1 => do
    expect "\x7b"
    return .block (← statements fuel)

/-- Reads statements up to the closing brace.  After a mistake, reading goes on behind the end of
the statement. -/
def statements : Nat → Parser (List Statement)
  | 0 => throw .hopeless
  | fuel + 1 => do
    if ← accept "\x7d" then return []
    else
      let loops := (← get).loops
      let s ← recovering (statement fuel) do
        modify fun s => { s with loops, scanner := { s.scanner with printing := false } }
        skipStatement fuel
        return .nothing
      return s :: (← statements fuel)

end

/-! ### Programs -/

/-- Adds a rule. -/
def addRule (trigger : Trigger) (body : Statement) : Parser Unit :=
  modify fun s => { s with rules := ⟨trigger, body⟩ :: s.rules }

/-- Reads the parameters of a function. -/
def parameters : Nat → List String → Parser (List String)
  | 0, ps => return ps
  | fuel + 1, ps => do
    let name? : Option String := match ← peek with
      | .name n | .callee n => some n
      | _ => none
    match name? with
    | none => fail
    | some n =>
      advance
      if ps.contains n then complain s!"{n} is duplicated in argument list"
      let ps := if ps.contains n then ps else ps ++ [n]
      if ← accept "," then parameters fuel ps else return ps

/-- Reads a function, its first word gone. -/
def function (fuel : Nat) : Parser Unit := do
  let before := (← get).scanner.names
  let name ← match ← peek with
    | .name n | .callee n =>
      advance
      pure n
    | _ => fail
  modify fun s =>
    { s with scanner :=
      { s.scanner with names := s.scanner.names.filter (· != name)
                       callees := name :: s.scanner.callees.filter (· != name) } }
  let s ← get
  if s.functions.any fun d => d.name == name then complain s!"redefinition of {name}"
  if before.contains name then complain s!"illegal reference to variable {name}"
  expect "("
  let ps ← if ← isSign ")" then pure [] else parameters fuel []
  modify fun s =>
    { s with function := some name, parameters := ps, part := .function
             scanner := { s.scanner with names := ps ++ s.scanner.names } }
  closeCondition
  let body ← block fuel
  modify fun s =>
    { s with function := none, parameters := [], part := .main
             functions := ⟨name, ps.map fun p => ⟨p, false⟩, body⟩ :: s.functions
             scanner := { s.scanner with
               names := s.scanner.names.filter fun n => !ps.contains n || before.contains n } }

/-- Reads a rule that starts with its pattern. -/
def ruleOn (fuel : Nat) : Parser Unit := do
  let first ← expr fuel 1
  let trigger ← if ← accept "," then pure (.between first (← expr fuel 1)) else pure (.when first)
  if ← isSign "\x7b" then addRule trigger (← block fuel)
  else
    separator
    addRule trigger (.print [] none)

/-- Reads a rule or a function. -/
def part (fuel : Nat) : Parser Unit := do
  match ← peek with
  | .keyword "BEGIN" =>
    advance
    modify fun s => { s with part := .first }
    addRule .begin_ (← block fuel)
  | .keyword "END" =>
    advance
    modify fun s => { s with part := .last }
    addRule .end_ (← block fuel)
  | .keyword "function" =>
    advance
    function fuel
  | .sign "\x7b" => addRule .always (← block fuel)
  | _ => ruleOn fuel

/-- Passes over tokens up to a brace and reads the statements behind it. -/
def skipRule : Nat → Parser Unit
  | 0 => throw .hopeless
  | fuel + 1 => do
    match ← peek with
    | .finish => throw .hopeless
    | .sign "\x7b" => do
      let _ ← block fuel
    | _ =>
      advance
      skipRule fuel

/-- Reads rules and functions up to the end. -/
def parts : Nat → Parser Unit
  | 0 => throw .hopeless
  | fuel + 1 => do
    match ← peek with
    | .finish => return
    | _ =>
      modify fun s => { s with part := .main, loops := 0 }
      recovering (part fuel) do
        modify fun s => { s with function := none, parameters := [] }
        skipRule fuel
      parts fuel

/-! ### Kinds -/

/-- The place of a parameter. -/
def parameterPlace? (functions : List Definition) (f : String) (index : Nat) : Option Place :=
  (functions.find? fun d => d.name == f).bind fun d =>
    (d.parameters[index]?).map fun p => ⟨some f, p.name⟩

/-- Takes the kind of what is handed to a function over from the parameter, or the other way. -/
def compareKinds (functions : List Definition) (kinds : List (Place × Kind)) (h : Handing) :
    List (Place × Kind) :=
  let kindOf (p : Place) : Option Kind := (kinds.find? fun k => k.1 == p).map Prod.snd
  match h.name, parameterPlace? functions h.callee h.index with
  | some a, some p =>
    match kindOf a, kindOf p with
    | some k, none => (p, k) :: kinds
    | none, some k => (a, k) :: kinds
    | _, _ => kinds
  | _, _ => kinds

/-- Compares kinds until nothing new comes out. -/
def spreadKinds (functions : List Definition) (hs : List Handing) :
    Nat → List (Place × Kind) → List (Place × Kind)
  | 0, kinds => kinds
  | fuel + 1, kinds =>
    let new := hs.foldl (compareKinds functions) kinds
    if new.length = kinds.length then kinds else spreadKinds functions hs fuel new

/-- What is wrong with something that is handed to a function. -/
def handingFault? (functions : List Definition) (kinds : List (Place × Kind)) (h : Handing) :
    Option (Nat × String) :=
  let kindOf (p : Place) : Kind :=
    ((kinds.find? fun k => k.1 == p).map Prod.snd).getD .single
  (parameterPlace? functions h.callee h.index).bind fun p =>
    let actual := (h.name.map kindOf).getD .single
    let wanted := kindOf p
    if actual = wanted then none
    else some (h.line, s!"type error in arg({h.index + 1}) in call to {h.callee} " ++
      s!"(actual local {actual.word} vs local {wanted.word})")

/-- Checks the calls of functions and settles what names stand for. -/
def conclude : Parser Program := do
  let s ← get
  if !s.scanner.complaints.isEmpty then throw .hopeless
  let arityOf? (f : String) : Option Nat :=
    (s.functions.find? fun d => d.name == f).map fun d => d.parameters.length
  let calls := s.calls.reverse
  for (f, n, line) in calls do
    if (arityOf? f).any (· < n) then complainAt line s!"too many arguments in call to {f}"
  for f in (calls.map fun c => c.1).eraseDups do
    if (arityOf? f).isNone then complainAt s.scanner.line s!"function {f} never defined"
  let hs := s.handings.reverse
  let kinds := spreadKinds s.functions hs (s.handings.length + 1) s.kinds
  for h in hs do
    match handingFault? s.functions kinds h with
    | some (line, m) => complainAt line m
    | none => pure ()
  let isTable (p : Place) : Bool := kinds.any fun k => k.1 == p && k.2 == .table
  let functions := s.functions.reverse.map fun d =>
    { d with parameters := d.parameters.map fun p =>
      { p with isTable := isTable ⟨some d.name, p.name⟩ } }
  let tables := kinds.filterMap fun k =>
    if k.1.function.isNone && k.2 == .table then some k.1.name else none
  return { rules := s.rules.reverse, functions, tables }

end Parser

/-- The names that always stand for tables, and those that always stand for single values. -/
def usualKinds : List (Place × Kind) :=
  (["ENVIRON", "ARGV"].map fun n => (⟨none, n⟩, .table)) ++
    (["NR", "FNR", "NF", "FS", "RS", "OFS", "ORS", "SUBSEP", "CONVFMT", "OFMT", "FILENAME",
      "RSTART", "RLENGTH", "ARGC"].map fun n => (⟨none, n⟩, .single))

/-- Reads a program; the messages about it if it is wrong. -/
def Program.parse (bs : Bytes) : Except (List Complaint) Program :=
  let scanner : Scanner :=
    { rest := bs ++ [newline], names := usualKinds.map fun k => k.1.name }
  let start : Source := { scanner := scanner.eatLines, kinds := usualKinds }
  let fuel := 40 * bs.length + 100
  let read : Parser Program := do
    Parser.parts fuel
    Parser.conclude
  let (result, s) := read.run.run start
  match s.scanner.complaints.reverse, result with
  | [], .ok p => .ok p
  | cs, _ => .error cs

end Awk

end Shell

end FunctionIndex

import FunctionIndex.Shell.Pattern

/-!
# Regular expressions

The basic and the extended notation, and a search for the leftmost longest match.  First the ends
of all matches from a position are found as a set, then the groups of a longest one are found by
trying the alternatives in order.
-/

namespace FunctionIndex

namespace Shell

open Json (octet isDigit)

/-- A regular expression. -/
inductive Regex where
  /-- Nothing at all. -/
  | empty
  /-- One octet of a set. -/
  | one (set : UInt8 → Bool)
  /-- One after the other. -/
  | cat (a b : Regex)
  /-- One or the other. -/
  | alt (a b : Regex)
  /-- So many times, as often as possible. -/
  | rep (r : Regex) (least : Nat) (most : Option Nat)
  /-- So many times, as seldom as possible. -/
  | few (r : Regex) (least : Nat) (most : Option Nat)
  /-- What the group of a number matches. -/
  | group (n : Nat) (r : Regex)
  /-- What the group of a number has matched. -/
  | back (n : Nat)
  /-- A place between two octets, told by the octets there. -/
  | place (p : Option UInt8 → Option UInt8 → Bool)
  /-- A place where something follows, or does not. -/
  | ahead (r : Regex) (wanted : Bool)
  /-- A place that something stands before, or does not. -/
  | behind (r : Regex) (wanted : Bool)
  /-- The place from which on a match counts. -/
  | keep

namespace Regex

/-! ### Reading -/

/-- Whether an octet is part of a word. -/
def isWordOctet (b : UInt8) : Bool := isAlpha b || isDigit b || b == octet '_'

/-- Whether there is an octet of a word. -/
def inWord (b : Option UInt8) : Bool := b.any isWordOctet

/-- How an expression is written. -/
structure Style where
  /-- Whether operators stand without a backslash. -/
  extended : Bool
  /-- Whether upper and lower case are the same. -/
  ignoreCase : Bool := false
  /-- Whether an operator without something to repeat is refused. -/
  strict : Bool := false
  /-- Whether what cannot be an operator stands for itself. -/
  lenient : Bool := false
  /-- Whether a backslash and a letter can stand for a control. -/
  controls : Bool := false
  /-- Whether a range may end before it starts. -/
  emptyRanges : Bool := false
  /-- Whether the ends of all lines of the text count as ends. -/
  multiline : Bool := false

/-- What is wrong with an expression. -/
inductive Fault where
  | noBracket
  | nothing
  | className
  | collation
  | rangeEnd
  | openGroup
  | closeGroup
  | openBrace
  | braceContent
  | tooBig
  | backReference
  | trailingBackslash
  | nothingToRepeat
  deriving DecidableEq, Repr

/-- The wording of a fault. -/
def Fault.message : Fault → String
  | .noBracket => "Unmatched [, [^, [:, [., or [="
  | .nothing => "Invalid regular expression"
  | .className => "Invalid character class name"
  | .collation => "Invalid collation character"
  | .rangeEnd => "Invalid range end"
  | .openGroup => "Unmatched ( or \\("
  | .closeGroup => "Unmatched ) or \\)"
  | .openBrace => "Unmatched \\\x7b"
  | .braceContent => "Invalid content of \\\x7b\\\x7d"
  | .tooBig => "Regular expression too big"
  | .backReference => "Invalid back reference"
  | .trailingBackslash => "Trailing backslash"
  | .nothingToRepeat => "Invalid preceding regular expression"

/-- The start of a text, or of a line of it. -/
def Style.start (k : Style) : Regex :=
  .place fun x _ => x.isNone || (k.multiline && x == some newline)

/-- The end of a text, or of a line of it. -/
def Style.stop (k : Style) : Regex :=
  .place fun _ y => y.isNone || (k.multiline && y == some newline)

/-- The place that a backslash and an octet stand for. -/
def placeOf? (b : UInt8) : Option Regex :=
  match Char.ofNat b.toNat with
  | 'b' => some (.place fun x y => inWord x != inWord y)
  | 'B' => some (.place fun x y => inWord x == inWord y)
  | '<' => some (.place fun x y => !inWord x && inWord y)
  | '>' => some (.place fun x y => inWord x && !inWord y)
  | '`' => some (.place fun x _ => x.isNone)
  | '\'' => some (.place fun _ y => y.isNone)
  | _ => none

/-- The set that a backslash and an octet stand for, beside the octet itself. -/
def Style.setOf? (k : Style) (b : UInt8) : Option Regex :=
  match Char.ofNat b.toNat with
  | 'w' => some (.one isWordOctet)
  | 'W' => some (.one fun c => !isWordOctet c)
  | 's' => some (.one isWhite)
  | 'S' => some (.one fun c => !isWhite c)
  | 'n' => if k.controls then some (.one (· == newline)) else none
  | 't' => if k.controls then some (.one (· == 0x09)) else none
  | 'f' => if k.controls then some (.one (· == 0x0C)) else none
  | 'r' => if k.controls then some (.one (· == 0x0D)) else none
  | 'v' => if k.controls then some (.one (· == 0x0B)) else none
  | 'a' => if k.controls then some (.one (· == 0x07)) else none
  | _ => none

/-- The set of one octet. -/
def Style.single (k : Style) (b : UInt8) : Regex :=
  if k.ignoreCase then .one fun c => lower c == lower b else .one (· == b)

/-- A set between brackets, or all but it. -/
def Style.set (k : Style) (negated : Bool) (set : UInt8 → Bool) : Regex :=
  let folded : UInt8 → Bool :=
    if k.ignoreCase then fun c => set (lower c) || set (upper c) else set
  if negated then .one fun c => !(folded c) && !(k.multiline && c == newline) else .one folded

/-- What is left to read. -/
structure Input where
  /-- The octets. -/
  rest : Bytes
  /-- Groups that have been opened. -/
  groups : Nat := 0
  /-- Groups that have been closed. -/
  closed : List Nat := []
  /-- How many groups are open. -/
  depth : Nat := 0
  /-- Operators that had nothing to repeat. -/
  idle : List String := []

/-- A reader of regular expressions. -/
abbrev Parser := StateT Input (Except Fault)

/-- Takes octets if they are next. -/
def accept (s : String) : Parser Bool := do
  let i ← get
  let bs := Utf8.encode s
  if bs.isPrefixOf i.rest then
    set { i with rest := i.rest.drop bs.length }
    return true
  else return false

/-- Whether octets are next. -/
def isNext (s : String) : Parser Bool := do return (Utf8.encode s).isPrefixOf (← get).rest

/-- An operator as it is written. -/
def Style.operator (k : Style) (s : String) : String := if k.extended then s else "\\" ++ s

/-! #### Sets between brackets -/

/-- An element of a set. -/
inductive Element where
  /-- An octet. -/
  | octet (b : UInt8)
  /-- A class of octets. -/
  | octets (set : UInt8 → Bool)

/-- The text between an opening mark such as `[:` and the closing one, and what follows. -/
def enclosed (sign : UInt8) (bs : Bytes) : Option (Bytes × Bytes) :=
  let rec go : Bytes → Bytes → Option (Bytes × Bytes)
    | _, [] => none
    | seen, b :: r =>
      if b == sign && r.head? == some (octet ']') then some (seen.reverse, r.tail)
      else go (b :: seen) r
  go [] bs

/-- The element at the beginning of octets, and what follows. -/
def element (bs : Bytes) : Except Fault (Element × Bytes) :=
  match bs with
  | [] => .error .noBracket
  | b :: r =>
    match r.head? with
    | none => .ok (.octet b, r)
    | some sign =>
      if b != octet '[' || ! [octet ':', octet '.', octet '='].contains sign then .ok (.octet b, r)
      else
        match enclosed sign r.tail with
        | none => .error .noBracket
        | some (name, rest) =>
          if sign == octet ':' then
            match class? (asciiText name) with
            | some set => .ok (.octets set, rest)
            | none => .error .className
          else
            match name with
            | [c] => .ok (if sign == octet '.' then .octet c else .octets (· == c), rest)
            | _ => .error .collation

/-- Reads the elements of a set up to the closing bracket; `first` at the beginning. -/
def elements (k : Style) : Nat → Bool → (UInt8 → Bool) → Bytes →
    Except Fault ((UInt8 → Bool) × Bytes)
  | 0, _, _, _ => .error .noBracket
  | fuel + 1, first, set, bs =>
    match bs with
    | [] => .error (if first then .nothing else .noBracket)
    | b :: r =>
      if b == octet ']' && !first then .ok (set, r)
      else if b == octet '-' && !first && r.head? != some (octet ']') then
        .error (if r.isEmpty then .noBracket else .rangeEnd)
      else do
        let (e, rest) ← element bs
        let ranged := rest.head? == some (octet '-') && (rest.tail.head?).isSome &&
          rest.tail.head? != some (octet ']')
        if ranged then
          let (e', rest) ← element rest.tail
          match e, e' with
          | .octet a, .octet z =>
            if z < a && !k.emptyRanges then .error .rangeEnd
            else elements k fuel false (fun c => set c || (a ≤ c && c ≤ z)) rest
          | _, _ => .error .rangeEnd
        else
          match e with
          | .octet a => elements k fuel false (fun c => set c || c == a) rest
          | .octets s => elements k fuel false (fun c => set c || s c) rest

/-- Whether a set, the opening bracket gone, is likely meant as the name of a class. -/
def isMistaken (bs : Bytes) : Bool :=
  let bs := if bs.head? == some (octet '^') then bs.tail else bs
  let body := bs.takeWhile fun b => b != octet ']'
  body.length > 2 && body.length < bs.length && body.head? == some (octet ':') &&
    body.getLast? == some (octet ':') && body.any (· != octet ':') &&
    !body.contains (octet '-') && !body.contains (octet '[')

/-- What follows a set, the opening bracket gone. -/
def afterSet : Nat → Bool → Bytes → Bytes
  | 0, _, bs => bs
  | _ + 1, _, [] => []
  | fuel + 1, first, b :: r =>
    if b == octet ']' && !first then r
    else if b == octet '^' && first then afterSet fuel true r
    else
      let marks := Utf8.encode ":.="
      match if b == octet '[' then r.head?.filter marks.contains else none with
      | some sign => afterSet fuel false (((enclosed sign r.tail).map Prod.snd).getD r)
      | none => afterSet fuel false r

/-- Whether a set that is probably not meant so stands in a pattern. -/
def holdsMistake : Nat → Bytes → Bool
  | 0, _ => false
  | _ + 1, [] => false
  | fuel + 1, b :: r =>
    if b == octet '\\' then holdsMistake fuel r.tail
    else if b == octet '[' then
      isMistaken r || holdsMistake fuel (afterSet (r.length + 1) true r)
    else holdsMistake fuel r

/-- Takes a set, the opening bracket gone. -/
def brackets (k : Style) : Parser Regex := do
  let negated ← accept "^"
  let i ← get
  let (inside, rest) ← elements k (i.rest.length + 1) true (fun _ => false) i.rest
  set { i with rest }
  return k.set negated inside

/-! #### Repetitions -/

/-- What a brace opens. -/
inductive Bounds where
  /-- Bounds and what follows them. -/
  | valid (least : Nat) (most : Option Nat) (rest : Bytes)
  /-- No bounds at all. -/
  | none
  /-- A fault. -/
  | fault (f : Fault)

/-- The most a repetition can ask for. -/
def mostRepeats : Nat := 32767

/-- Reads bounds, the opening brace gone. -/
def bounds (k : Style) (bs : Bytes) : Bounds :=
  let ending := Utf8.encode (k.operator "\x7d")
  let rec upTo : Bytes → Option Bytes
    | [] => Option.none
    | b :: r => if ending.isPrefixOf (b :: r) then some [] else (upTo r).map (b :: ·)
  match upTo bs with
  | Option.none =>
    if k.lenient then .none else .fault .openBrace
  | some body =>
    let rest := bs.drop (body.length + ending.length)
    let parts := body.splitOn (octet ',')
    let isCount (p : Bytes) : Bool := p.all isDigit
    let count (p : Bytes) : Nat := Json.Numeral.natOf p
    let check (least : Nat) (most : Option Nat) : Bounds :=
      if most.any fun m => m < least then .fault .braceContent
      else if most.getD least > mostRepeats then .fault .tooBig
      else .valid least most rest
    match parts with
    | [n] =>
      if n.isEmpty then .fault .braceContent
      else if isCount n then check (count n) (some (count n))
      else if k.lenient then .none else .fault .braceContent
    | [n, m] =>
      if isCount n && isCount m then check (count n) (if m.isEmpty then Option.none else some (count m))
      else if k.lenient then .none else .fault .braceContent
    | n :: m :: _ =>
      if isCount n && isCount m then .fault .braceContent
      else if k.lenient then .none else .fault .braceContent
    | [] => .fault .braceContent

/-- A repetition. -/
structure Repetition where
  least : Nat
  most : Option Nat
  /-- How it is written. -/
  sign : String
  /-- What follows it. -/
  rest : Bytes

/-- The repetition that is next, if there is one. -/
def repetition? (k : Style) : Parser (Option Repetition) := do
  let rest := (← get).rest
  let starts (s : String) : Bool := (Utf8.encode s).isPrefixOf rest
  let after (s : String) : Bytes := rest.drop (Utf8.encode s).length
  if starts "*" then return some ⟨0, none, "*", after "*"⟩
  else if starts (k.operator "+") then return some ⟨1, none, "+", after (k.operator "+")⟩
  else if starts (k.operator "?") then return some ⟨0, some 1, "?", after (k.operator "?")⟩
  else if starts (k.operator "\x7b") then
    match bounds k (after (k.operator "\x7b")) with
    | .valid least most rest => return some ⟨least, most, "\x7b...\x7d", rest⟩
    | .none => return none
    | .fault f => throw f
  else return none

/-- Takes what follows an item and repeats it. -/
def repeats (k : Style) : Nat → Regex → Parser Regex
  | 0, r => return r
  | fuel + 1, r => do
    match ← repetition? k with
    | none => return r
    | some p =>
      modify fun i => { i with rest := p.rest }
      if k.strict && !k.extended && ((← isNext "*") || (← isNext "\\\x7b")) then
        throw .nothingToRepeat
      else repeats k fuel (.rep r p.least p.most)

/-- Whether an end of line can be meant here. -/
def atEnd (k : Style) : Parser Bool := do
  if (← get).rest.isEmpty || k.extended then return true
  else return (← isNext "\\)") || (← isNext "\\|")

mutual

/-- Reads alternatives. -/
def alternatives (k : Style) : Nat → Parser Regex
  | 0 => throw .tooBig
  | fuel + 1 => do
    let a ← sequence k fuel true
    if ← accept (k.operator "|") then return .alt a (← alternatives k fuel)
    else return a

/-- Reads items; `first` where nothing that can be repeated stands before. -/
def sequence (k : Style) : Nat → Bool → Parser Regex
  | 0, _ => throw .tooBig
  | fuel + 1, first => do
    let close ← isNext (k.operator ")")
    let bar ← isNext (k.operator "|")
    if (← get).rest.isEmpty || bar || (close && (← get).depth > 0) then return .empty
    else
      let (r, anchor) ← item k fuel first
      return .cat r (← sequence k fuel anchor)

/-- Reads an item with its repetitions, and tells whether it is an anchor. -/
def item (k : Style) : Nat → Bool → Parser (Regex × Bool)
  | 0, _ => throw .tooBig
  | fuel + 1, first => do
    let i ← get
    let again (r : Regex) : Parser (Regex × Bool) := do
      return (← repeats k (i.rest.length + 1) r, false)
    let anchor (e : Regex) : Parser (Regex × Bool) := do
      if !k.lenient then return (e, true)
      else if !first then again e
      else
        match ← repetition? k with
        | none => return (e, true)
        | some p =>
          modify fun i => { i with rest := p.rest, idle := i.idle ++ [p.sign] }
          return (.rep e p.least p.most, true)
    let idle ← if first then idleRepetition k else pure none
    match idle with
    | some p =>
      set { i with rest := p.rest, idle := i.idle ++ [p.sign] }
      return (.empty, true)
    | none =>
    match i.rest with
    | [] => return (.empty, first)
    | b :: r =>
      set { i with rest := r }
      if b == octet '\\' then
        match r with
        | [] => throw .trailingBackslash
        | c :: r =>
          set { i with rest := r }
          if c == octet '(' && !k.extended then groupItem k fuel again
          else if c == octet ')' && !k.extended then throw .closeGroup
          else if isDigit c && c != octet '0' then
            if i.closed.contains (c.toNat - 0x30) then again (.back (c.toNat - 0x30))
            else throw .backReference
          else
            match placeOf? c, k.setOf? c with
            | some e, _ => anchor e
            | none, some e => again e
            | none, none => again (k.single c)
      else if b == octet '(' && k.extended then groupItem k fuel again
      else if b == octet ')' && k.extended && !k.lenient then throw .closeGroup
      else if b == octet '[' then again (← brackets k)
      else if b == octet '.' then
        again (.one fun c => !(k.multiline && c == newline))
      else if b == octet '^' && (first || k.extended) then anchor k.start
      else if b == octet '$' && (← atEnd k) then anchor k.stop
      else again (k.single b)

/-- The repetition that stands where there is nothing to repeat.  In the basic notation it stands
for itself, unless it is refused; in the extended notation it repeats nothing. -/
def idleRepetition (k : Style) : Parser (Option Repetition) := do
  if k.extended then
    let brace ← isNext "\x7b"
    if k.strict && (brace || (← isNext "*") || (← isNext "+") || (← isNext "?")) then
      throw .nothingToRepeat
    else repetition? k
  else if k.strict && (← isNext "\\\x7b") then throw .nothingToRepeat
  else return none

/-- Reads a group, the opening parenthesis gone. -/
def groupItem (k : Style) (fuel : Nat) (again : Regex → Parser (Regex × Bool)) :
    Parser (Regex × Bool) :=
  match fuel with
  | 0 => throw .tooBig
  | fuel + 1 => do
    modify fun i => { i with groups := i.groups + 1, depth := i.depth + 1 }
    let n := (← get).groups
    let r ← alternatives k fuel
    if ← accept (k.operator ")") then
      modify fun i => { i with depth := i.depth - 1, closed := n :: i.closed }
      again (.group n r)
    else throw .openGroup

end

/-- Reads a regular expression, and tells which operators had nothing to repeat. -/
def parse (k : Style) (bs : Bytes) : Except Fault (Regex × List String) := do
  let (r, i) ← (alternatives k (4 * bs.length + 8)).run { rest := bs }
  if i.rest.isEmpty then return (r, i.idle) else throw .closeGroup

/-- Reads a regular expression. -/
def parse? (k : Style) (bs : Bytes) : Option Regex :=
  match parse k bs with
  | .ok (r, _) => some r
  | .error _ => none

/-! ### Matching -/

/-- The octet before a position. -/
def before (text : Array UInt8) (i : Nat) : Option UInt8 := if i = 0 then none else text[i - 1]?

/-- Whether a group is referred to. -/
def hasBack : Regex → Bool
  | back _ => true
  | cat a b | alt a b => hasBack a || hasBack b
  | rep r _ _ | few r _ _ | group _ r | ahead r _ | behind r _ => hasBack r
  | _ => false

/-- Positions reached from others by going on as long as new ones come up. -/
def reach (step : List Nat → List Nat) : Nat → List Nat → List Nat → List Nat
  | 0, _, seen => seen
  | fuel + 1, front, seen =>
    let new := ((step front).eraseDups).filter fun i => !seen.contains i
    if new.isEmpty then seen else reach step fuel new (seen ++ new)

/-- The positions where matches from the given positions end. -/
def ends (text : Array UInt8) : Regex → List Nat → List Nat
  | empty, is => is
  | one set, is => is.filterMap fun i => (text[i]?).bind fun b => if set b then some (i + 1) else none
  | cat a b, is => ends text b (ends text a is)
  | alt a b, is => (ends text a is ++ ends text b is).eraseDups
  | rep r least most, is =>
    let first := Nat.repeat (fun js => (ends text r js).eraseDups) least is
    reach (ends text r) ((most.map (· - least)).getD (text.size + 1)) first first
  | few r least most, is =>
    let first := Nat.repeat (fun js => (ends text r js).eraseDups) least is
    reach (ends text r) ((most.map (· - least)).getD (text.size + 1)) first first
  | group _ r, is => ends text r is
  | back _, is | keep, is => is
  | place p, is => is.filter fun i => p (before text i) text[i]?
  | ahead r wanted, is => is.filter fun i => (ends text r [i]).isEmpty != wanted
  | behind r wanted, is =>
    is.filter fun i => ((List.range (i + 1)).any fun j => (ends text r [j]).contains i) == wanted

/-- What groups have matched. -/
abbrev Groups := List (Nat × Nat × Nat)

/-- How a match goes on after a position. -/
abbrev Next := Nat → Groups → Option (Nat × Groups)

/-- Repeats a matcher as often as possible, then less often; or the other way round. -/
def many (step : Nat → Groups → Next → Option (Nat × Groups)) (greedy : Bool) (k : Next) :
    Nat → Nat → Option Nat → Next
  | 0, _, _, i, gs => k i gs
  | fuel + 1, least, most, i, gs =>
    let once (_ : Unit) := if most = some 0 then none
      else step i gs fun j gs =>
        if j = i then (if least > 0 then k j gs else none)
        else many step greedy k fuel (least - 1) (most.map (· - 1)) j gs
    let done (_ : Unit) := if least = 0 then k i gs else none
    if greedy then
      match once () with
      | some a => some a
      | none => done ()
    else
      match done () with
      | some a => some a
      | none => once ()

/-- Matches from a position on and goes on with `k`. -/
def walk (text : Array UInt8) : Regex → Nat → Groups → Next → Option (Nat × Groups)
  | empty, i, gs, k => k i gs
  | one set, i, gs, k =>
    match text[i]? with
    | some b => if set b then k (i + 1) gs else none
    | none => none
  | cat a b, i, gs, k => walk text a i gs fun j gs => walk text b j gs k
  | alt a b, i, gs, k =>
    match walk text a i gs k with
    | some x => some x
    | none => walk text b i gs k
  | rep r least most, i, gs, k => many (walk text r) true k (text.size + least + 1) least most i gs
  | few r least most, i, gs, k => many (walk text r) false k (text.size + least + 1) least most i gs
  | group n r, i, gs, k => walk text r i gs fun j gs => k j ((n, i, j) :: gs)
  | back n, i, gs, k =>
    match gs.find? fun g => g.1 == n with
    | some (_, a, b) =>
      if text.extract a b == text.extract i (i + (b - a)) then k (i + (b - a)) gs else none
    | none => none
  | place p, i, gs, k => if p (before text i) text[i]? then k i gs else none
  | ahead r wanted, i, gs, k =>
    match walk text r i gs fun j gs => some (j, gs) with
    | some (_, gs') => if wanted then k i gs' else none
    | none => if wanted then none else k i gs
  | behind r wanted, i, gs, k =>
    let found := (List.range (i + 1)).any fun j =>
      (walk text r j gs fun j' gs => if j' = i then some (j', gs) else none).isSome
    if found == wanted then k i gs else none
  | keep, i, gs, k => k i ((0, i, i) :: gs)

/-- A match. -/
structure Match where
  /-- Where it starts. -/
  start : Nat
  /-- Where it ends. -/
  stop : Nat
  /-- What groups have matched. -/
  groups : Groups
  deriving DecidableEq, Repr

/-- The longest match from a position. -/
def matchAt (r : Regex) (text : Array UInt8) (i : Nat) : Option Match :=
  let found :=
    if r.hasBack then walk text r i [] fun j gs => some (j, gs)
    else
      match (ends text r [i]).max? with
      | none => none
      | some stop => walk text r i [] fun j gs => if j = stop then some (j, gs) else none
  found.map fun x => ⟨i, x.1, x.2⟩

/-- The match from a position that comes first when alternatives are tried in order. -/
def firstAt (r : Regex) (text : Array UInt8) (i : Nat) : Option Match :=
  (walk text r i [] fun j gs => some (j, gs)).map fun x =>
    match x.2.find? fun g => g.1 == 0 with
    | some (_, start, _) => ⟨start, x.1, x.2⟩
    | none => ⟨i, x.1, x.2⟩

/-- The octets a match can start with, and whether it can be empty or depends on more. -/
def starts : Regex → (UInt8 → Bool) × Bool
  | empty | place _ => (fun _ => false, true)
  | one set => (set, false)
  | cat a b =>
    let x := starts a
    let y := starts b
    (fun c => x.1 c || (x.2 && y.1 c), x.2 && y.2)
  | alt a b =>
    let x := starts a
    let y := starts b
    (fun c => x.1 c || y.1 c, x.2 || y.2)
  | rep r least _ | few r least _ => ((starts r).1, least == 0 || (starts r).2)
  | group _ r => starts r
  | ahead .. | behind .. | keep => (fun _ => false, true)
  | back _ => (fun _ => true, true)

/-- The first match at or after a position, `fuel` positions being tried, of which those with an
octet that no match starts with are passed over. -/
def searchFrom (here : Nat → Option Match) (possible : UInt8 → Bool) (text : Array UInt8) :
    Nat → Nat → Option Match
  | 0, _ => none
  | fuel + 1, i =>
    if (text[i]?).any fun b => !possible b then searchFrom here possible text fuel (i + 1)
    else
      match here i with
      | some m => some m
      | none => searchFrom here possible text fuel (i + 1)

/-- The leftmost longest match at or after a position. -/
def search? (r : Regex) (text : Array UInt8) (i : Nat) : Option Match :=
  let (set, nullable) := r.starts
  searchFrom (r.matchAt text) (fun b => nullable || set b) text (text.size + 1 - i) i

/-- The leftmost match at or after a position, alternatives being tried in order. -/
def searchInOrder? (r : Regex) (text : Array UInt8) (i : Nat) : Option Match :=
  let (set, nullable) := r.starts
  searchFrom (r.firstAt text) (fun b => nullable || set b) text (text.size + 1 - i) i

/-- The octets of a group of a match, those of the whole match being group 0. -/
def Match.octets (m : Match) (text : Array UInt8) (n : Nat) : Bytes :=
  if n = 0 then (text.extract m.start m.stop).toList
  else
    match m.groups.find? fun g => g.1 == n with
    | some (_, a, b) => (text.extract a b).toList
    | none => []

end Regex

end Shell

end FunctionIndex

import FunctionIndex.Disk.Basic
import FunctionIndex.Shell.Pattern

/-!
# Permissions

The permissions of a file are bits: read, write and execute, each for the owner, the group and the
others, and three special ones above them.  They are given as an octal number or as clauses such
as `u+x,go-w`, and shown as letters.
-/

namespace FunctionIndex

namespace Shell

namespace Mode

open Json (octet isDigit)

/-- All bits. -/
def all : Nat := 0o7777

/-- Bits that are not among others. -/
def without (a b : Nat) : Nat := a &&& (all ^^^ (b &&& all))

/-! ### Changes -/

/-- Where the bits of a clause come from. -/
inductive Source where
  /-- They are given. -/
  | given
  /-- They are given, with the right to execute if somebody has it already. -/
  | ifExecutable
  /-- They are copied from the owner, the group or the others. -/
  | copied
  deriving DecidableEq, Repr

/-- One change of permissions. -/
structure Change where
  /-- Plus, minus or equals. -/
  op : Char
  /-- The bits of those it is about; zero if it does not say. -/
  affected : Nat
  /-- The bits it is about. -/
  value : Nat
  /-- The bits it names. -/
  mentioned : Nat
  source : Source

/-- The bits of a class of users. -/
def usersOf (b : UInt8) : Nat :=
  match Char.ofNat b.toNat with
  | 'u' => 0o4700
  | 'g' => 0o2070
  | 'o' => 0o1007
  | 'a' => all
  | _ => 0

/-- The bits of a right. -/
def rightOf (b : UInt8) : Nat :=
  match Char.ofNat b.toNat with
  | 'r' => 0o444
  | 'w' => 0o222
  | 'x' => 0o111
  | 's' => 0o6000
  | 't' => 0o1000
  | _ => 0

/-- Whether an octet is an octal digit. -/
def isOctalDigit (b : UInt8) : Bool := octet '0' ≤ b && b ≤ octet '7'

/-- The number that octal digits spell. -/
def octalOf (ds : Bytes) : Nat := ds.foldl (fun n b => n * 8 + (b.toNat - 0x30)) 0

/-- The rights after an operator, and what follows them. -/
def action (op : UInt8) (affected : Nat) (bs : Bytes) : Option (Change × Bytes) :=
  let op := Char.ofNat op.toNat
  let digits := bs.takeWhile isOctalDigit
  let copied := bs.head?.filter fun b => (Utf8.encode "ugo").contains b
  if !digits.isEmpty then
    let rest := bs.drop digits.length
    let value := octalOf digits
    if affected != 0 || value > all || (!rest.isEmpty && rest.head? != some (octet ',')) then none
    else some (⟨op, all, value, all, .given⟩, rest)
  else
    match copied with
    | some b =>
      let value := usersOf b &&& 0o777
      let mentioned := if affected = 0 then value else affected &&& value
      some (⟨op, affected, value, mentioned, .copied⟩, bs.tail)
    | none =>
      let letters := bs.takeWhile fun b => (Utf8.encode "rwxXst").contains b
      let value := letters.foldl (fun n b => n ||| rightOf b) 0
      let source := if letters.contains (octet 'X') then Source.ifExecutable else .given
      let mentioned := if affected = 0 then value else affected &&& value
      some (⟨op, affected, value, mentioned, source⟩, bs.drop letters.length)

/-- Whether an octet is an operator. -/
def isOperator (b : UInt8) : Bool := (Utf8.encode "+-=").contains b

/-- The changes of one clause from its operators on, and what follows. -/
def actions (affected : Nat) : Nat → Bytes → Option (List Change × Bytes)
  | 0, _ => none
  | fuel + 1, bs =>
    match bs with
    | b :: r =>
      if !isOperator b then none
      else do
        let (c, r) ← action b affected r
        if r.head?.any isOperator then
          let (cs, r) ← actions affected fuel r
          return (c :: cs, r)
        else return ([c], r)
    | [] => none

/-- The changes that clauses ask for. -/
def clauses : Nat → Bytes → Option (List Change)
  | 0, _ => none
  | fuel + 1, bs => do
    let who := bs.takeWhile fun b => (Utf8.encode "ugoa").contains b
    let affected := who.foldl (fun n b => n ||| usersOf b) 0
    let (cs, r) ← actions affected (bs.length + 1) (bs.drop who.length)
    match r with
    | [] => return cs
    | b :: r => if b == octet ',' then return cs ++ (← clauses fuel r) else none

/-- The changes that a text asks for. -/
def changes? (bs : Bytes) : Option (List Change) :=
  if bs.head?.any isOctalDigit then
    let n := octalOf bs
    if !bs.all isOctalDigit || n > all then none
    else
      let named := if bs.length < 5 then (n &&& 0o6000) ||| 0o1777 else all
      some [⟨'=', all, n, named, .given⟩]
  else clauses (bs.length + 1) bs

/-- The permissions after a change. -/
def apply (isDir : Bool) (mask mode : Nat) (c : Change) : Nat :=
  let kept := without (if isDir then 0o6000 else 0) c.mentioned
  let spread (v bits : Nat) : Nat := if v &&& bits != 0 then bits else 0
  let value := match c.source with
    | .given => c.value
    | .ifExecutable => if mode &&& 0o111 != 0 || isDir then c.value ||| 0o111 else c.value
    | .copied =>
      let v := c.value &&& mode
      v ||| spread v 0o444 ||| spread v 0o222 ||| spread v 0o111
  let value := without (value &&& (if c.affected = 0 then without all mask else c.affected)) kept
  match c.op with
  | '=' =>
    let preserved := (if c.affected = 0 then 0 else without all c.affected) ||| kept
    (mode &&& preserved) ||| value
  | '+' => mode ||| value
  | _ => without mode value

/-- The permissions after changes. -/
def applyAll (isDir : Bool) (mask mode : Nat) (cs : List Change) : Nat :=
  cs.foldl (apply isDir mask) mode

/-! ### Showing -/

/-- The letters of permissions. -/
def letters (mode : Nat) : String :=
  let bit (n : Nat) : Bool := mode &&& n != 0
  let plain (n : Nat) (c : Char) : Char := if bit n then c else '-'
  let special (x s : Nat) (low high : Char) : Char :=
    if bit s then (if bit x then low else high) else plain x 'x'
  String.ofList
    [plain 0o400 'r', plain 0o200 'w', special 0o100 0o4000 's' 'S',
      plain 0o040 'r', plain 0o020 'w', special 0o010 0o2000 's' 'S',
      plain 0o004 'r', plain 0o002 'w', special 0o001 0o1000 't' 'T']

/-- Permissions as octal digits, as many as given at least. -/
def digits (width mode : Nat) : String :=
  let ds := Nat.toDigits 8 mode
  String.ofList (List.replicate (width - ds.length) '0' ++ ds)

/-- The letter of a kind of entry. -/
def kindLetter : Entry → Char
  | .file .. => '-'
  | .dir .. => 'd'
  | .link _ => 'l'
  | .special .pipe .. => 'p'
  | .special .device .. => 'c'

/-- The kind and the permissions of an entry. -/
def describe (e : Entry) : String := (kindLetter e).toString ++ letters e.attributes.mode

end Mode

end Shell

end FunctionIndex

import FunctionIndex.Shell.Utility.Column
import FunctionIndex.Shell.Utility.Version

/-!
# Utilities that put lines in order

Sorting lines, dropping repeated ones, comparing and joining files that are sorted, and putting
items in an order that respects given pairs.
-/

namespace FunctionIndex

namespace Shell

namespace Utility

open Json (octet isDigit)
open Work

/-! ### Values of keys -/

/-- A fraction. -/
structure Ratio where
  numerator : Int
  denominator : Nat

/-- The order of fractions. -/
def Ratio.compare (a b : Ratio) : Ordering :=
  Ord.compare (a.numerator * b.denominator) (b.numerator * a.denominator)

/-- The number that a text begins with, and what follows it. -/
def leadingNumber (bs : Bytes) : Ratio × Bytes :=
  let bs := bs.dropWhile isBlank
  let negative := bs.head? == some (octet '-')
  let bs := if negative then bs.tail else bs
  let whole := bs.takeWhile isDigit
  let r := bs.drop whole.length
  let fraction := if r.head? == some (octet '.') then r.tail.takeWhile isDigit else []
  let rest := if r.head? == some (octet '.') then r.drop (1 + fraction.length) else r
  let n : Int := Json.Numeral.natOf (whole ++ fraction)
  (⟨if negative then -n else n, Nat.pow 10 fraction.length⟩, rest)

/-- The rank of a unit after a number. -/
def unitRank (bs : Bytes) : Int :=
  match bs.head?.map Options.charOf with
  | some 'k' | some 'K' => 1
  | some 'M' => 2
  | some 'G' => 3
  | some 'T' => 4
  | some 'P' => 5
  | some 'E' => 6
  | some 'Z' => 7
  | some 'Y' => 8
  | _ => 0

/-- Compares numbers with units. -/
def compareHuman (a b : Bytes) : Ordering :=
  let (x, r) := leadingNumber a
  let (y, s) := leadingNumber b
  let sign (q : Ratio) : Int := if q.numerator < 0 then -1 else 1
  let rank (q : Ratio) (rest : Bytes) : Int := if q.numerator == 0 then 0 else sign q * unitRank rest
  (Ord.compare (rank x r) (rank y s)).then (x.compare y)

/-- The number a text spells in the general notation: its class (no number, not a number, less
than all, finite, more than all) and its value. -/
def generalValue (bs : Bytes) : Nat × Ratio :=
  let bs := bs.dropWhile isWhite
  let sign := bs.head?.filter fun b => b == octet '-' || b == octet '+'
  let negative := sign == some (octet '-')
  let body := if sign.isSome then bs.tail else bs
  let low := body.map lower
  let signed (n : Nat) : Int := if negative then -(n : Int) else (n : Int)
  let hex := (low.drop 2).takeWhile isHex
  if (Utf8.encode "inf").isPrefixOf low then (if negative then 2 else 4, ⟨0, 1⟩)
  else if (Utf8.encode "nan").isPrefixOf low then (1, ⟨0, 1⟩)
  else if (Utf8.encode "0x").isPrefixOf low && !hex.isEmpty then
    (3, ⟨signed (digitsValue 16 hex), 1⟩)
  else
    let (q, rest) := leadingNumber body
    let digits := body.length - rest.length
    let pointOnly := body.take digits == [octet '.']
    if digits = 0 || pointOnly || body.head?.any (fun b => isBlank b || b == octet '-') then
      (0, ⟨0, 1⟩)
    else
      let e := rest.tail
      let eSign := e.head?.filter fun b => b == octet '-' || b == octet '+'
      let eDigits := (if eSign.isSome then e.tail else e).takeWhile isDigit
      let scaled := rest.head?.any (fun b => lower b == octet 'e') && !eDigits.isEmpty
      let exponent := if scaled then min 5000 (Json.Numeral.natOf eDigits) else 0
      let value : Ratio := if eSign == some (octet '-') then
          ⟨q.numerator, q.denominator * Nat.pow 10 exponent⟩
        else ⟨q.numerator * Nat.pow 10 exponent, q.denominator⟩
      (3, { value with numerator := if negative then -value.numerator else value.numerator })

/-- Compares numbers in the general notation. -/
def compareGeneral (a b : Bytes) : Ordering :=
  let (k, x) := generalValue a
  let (l, y) := generalValue b
  (Ord.compare k l).then (if k == 3 then x.compare y else .eq)

/-- The number of a month by its first letters, zero if there is none. -/
def monthNumber (bs : Bytes) : Nat :=
  let name := ((bs.dropWhile isBlank).take 3).map upper
  let names := ["JAN", "FEB", "MAR", "APR", "MAY", "JUN", "JUL", "AUG", "SEP", "OCT", "NOV", "DEC"]
  ((names.idxOf? (asciiText name)).map (· + 1)).getD 0

/-! ### Orders -/

/-- How texts are compared. -/
structure Order where
  /-- By which rule: `n`, `g`, `h`, `M`, `V`, `R`, or octet by octet. -/
  rule : Option Char := none
  reverse : Bool := false
  fold : Bool := false
  dictionary : Bool := false
  printable : Bool := false
  skipStart : Bool := false
  skipEnd : Bool := false

/-- The order with the meaning of a letter added; blanks are skipped at one end or both. -/
def Order.add (o : Order) (start stop : Bool) (c : Char) : Order :=
  match c with
  | 'b' => { o with skipStart := o.skipStart || start, skipEnd := o.skipEnd || stop }
  | 'd' => { o with dictionary := true }
  | 'f' => { o with fold := true }
  | 'i' => { o with printable := true }
  | 'r' => { o with reverse := true }
  | 'n' | 'g' | 'h' | 'M' | 'V' | 'R' => { o with rule := some c }
  | _ => o

/-- Whether nothing is asked for. -/
def Order.isDefault (o : Order) : Bool :=
  o.rule.isNone && !o.fold && !o.dictionary && !o.printable && !o.skipStart && !o.skipEnd

/-- Octets in order. -/
def compareOctets (a b : Bytes) : Ordering :=
  if bytesLt a b then .lt else if bytesLt b a then .gt else .eq

/-- Whether the first of two texts is less, equal or greater. -/
def Order.compare (o : Order) (a b : Bytes) : Ordering :=
  let kept (x : Bytes) : Bytes :=
    let x := if o.dictionary then x.filter fun b => isAlpha b || isDigit b || isBlank b
      else if o.printable then x.filter fun b => 0x20 ≤ b && b < 0x7F
      else x
    if o.fold then x.map upper else x
  let r := match o.rule with
    | some 'n' => (leadingNumber a).1.compare (leadingNumber b).1
    | some 'h' => compareHuman a b
    | some 'g' => compareGeneral a b
    | some 'M' => Ord.compare (monthNumber a) (monthNumber b)
    | some 'V' => Version.compareNames (kept a) (kept b)
    | _ => compareOctets (kept a) (kept b)
  if o.reverse then r.swap else r

/-! ### Keys -/

/-- The part of a line that is compared: from a field and a position in it, counted from zero, to
a field and a position. -/
structure Key where
  field : Nat
  position : Nat
  last : Option (Nat × Nat)
  order : Order

/-- The number at the front of a key. -/
def keyNumber (whole bs : Bytes) (what : String) : Except String (Nat × Bytes) :=
  let ds := bs.takeWhile isDigit
  if ds.isEmpty then .error s!"{what}: invalid count at start of {Quote.plain bs}"
  else .ok (min (Json.Numeral.natOf ds) (0xFFFFFFFFFFFFFFFF + whole.length * 0), bs.drop ds.length)

/-- The key that an option spells, or what is wrong with it. -/
def keyOf (bs : Bytes) : Except String Key := do
  let wrong (m : String) : Except String Key :=
    .error s!"{m}: invalid field specification {Quote.plain bs}"
  let isLetter (b : UInt8) : Bool := (Utf8.encode "bdfghiMnRrV").contains b
  let (f, r) ← keyNumber bs bs "invalid number at field start"
  if f = 0 then wrong "field number is zero"
  else
    let (p, r) ← if r.head? == some (octet '.') then keyNumber bs r.tail "invalid number after '.'"
      else pure (1, r)
    if p = 0 then wrong "character offset is zero"
    else
      let letters := r.takeWhile isLetter
      let order := letters.foldl (fun (o : Order) b => o.add true false (Options.charOf b)) {}
      match r.drop letters.length with
      | [] => return ⟨f - 1, p - 1, none, order⟩
      | b :: r =>
        if b != octet ',' then wrong "stray character in field spec"
        else
          let (f', r) ← keyNumber bs r "invalid number after ','"
          if f' = 0 then wrong "field number is zero"
          else
            let (p', r) ← if r.head? == some (octet '.') then
                keyNumber bs r.tail "invalid number after '.'"
              else pure (0, r)
            let letters := r.takeWhile isLetter
            let order := letters.foldl (fun (o : Order) b => o.add false true (Options.charOf b)) order
            if r.length > letters.length then wrong "stray character in field spec"
            else return ⟨f - 1, p - 1, some (f' - 1, p'), order⟩

/-- What follows a field with the blanks before it. -/
def afterField (separator : Option UInt8) (bs : Bytes) : Bytes :=
  match separator with
  | some s => (bs.dropWhile (· != s)).drop 1
  | none => (bs.dropWhile isBlank).dropWhile fun b => !isBlank b

/-- What follows so many fields. -/
def afterFields (separator : Option UInt8) (n : Nat) (bs : Bytes) : Bytes :=
  Nat.repeat (afterField separator) (min n bs.length) bs

/-- What follows the end of a key. -/
def afterKey (separator : Option UInt8) (skip : Bool) (f p : Nat) (line : Bytes) : Bytes :=
  if p = 0 then
    match separator with
    | some s => (afterFields separator f line).dropWhile (· != s)
    | none => afterFields separator (f + 1) line
  else
    let r := afterFields separator f line
    (if skip then r.dropWhile isBlank else r).drop p

/-- The part of a line that a key is about. -/
def Key.part (k : Key) (separator : Option UInt8) (line : Bytes) : Bytes :=
  let start := afterFields separator k.field line
  let start := if k.order.skipStart then start.dropWhile isBlank else start
  let start := start.drop k.position
  let stop := match k.last with
    | none => []
    | some (f, p) => afterKey separator k.order.skipEnd f p line
  start.take (start.length - stop.length)

/-- Compares by the first of some orders that tells two lines apart. -/
def compareBy (orders : List (Bytes → Bytes → Ordering)) (a b : Bytes) : Ordering :=
  match orders with
  | [] => .eq
  | f :: fs =>
    match f a b with
    | .eq => compareBy fs a b
    | o => o

/-- Drops lines that compare equal to the one before them. -/
def dropEqual (f : Bytes → Bytes → Ordering) : List Bytes → List Bytes
  | a :: b :: r => if f a b == .eq then dropEqual f (a :: r) else a :: dropEqual f (b :: r)
  | ls => ls
termination_by ls => ls.length

/-- Merges two sorted lists; of two that compare equal that of the first list comes first. -/
def mergeTwo (le : Bytes → Bytes → Bool) : List Bytes → List Bytes → List Bytes
  | [], ys => ys
  | xs, [] => xs
  | x :: xs, y :: ys =>
    if le x y then x :: mergeTwo le xs (y :: ys) else y :: mergeTwo le (x :: xs) ys
termination_by xs ys => xs.length + ys.length

/-- The options of sorting. -/
def sortOptions : Options where
  flags := "bdfghiMnRrVcCmsuz"
  valued := "koStTyPFB"
  optional := "K"
  long := [("ignore-leading-blanks", 'b'), ("dictionary-order", 'd'), ("ignore-case", 'f'),
    ("general-numeric-sort", 'g'), ("human-numeric-sort", 'h'), ("ignore-nonprinting", 'i'),
    ("month-sort", 'M'), ("numeric-sort", 'n'), ("random-sort", 'R'), ("reverse", 'r'),
    ("version-sort", 'V'), ("check", 'K'), ("merge", 'm'), ("stable", 's'), ("unique", 'u'),
    ("zero-terminated", 'z'), ("key", 'k'), ("output", 'o'), ("buffer-size", 'S'),
    ("field-separator", 't'), ("temporary-directory", 'T'), ("sort", 'B'), ("parallel", 'P'),
    ("files0-from", 'F'), ("batch-size", 'y')]

/-- What the letter of a kind of sorting is. -/
def sortWord (c : Call) (v : Bytes) : Work Char :=
  match asciiText v with
  | "general-numeric" => return 'g'
  | "human-numeric" => return 'h'
  | "month" => return 'M'
  | "numeric" => return 'n'
  | "random" => return 'R'
  | "version" => return 'V'
  | _ => do
    complain c s!"invalid argument {Quote.plain v} for '--sort'" 2
    warn ("Valid arguments are:\n  - 'general-numeric'\n  - 'human-numeric'\n  - 'month'\n" ++
      "  - 'numeric'\n  - 'random'\n  - 'version'")
    hint c
    stop

/-- The octet that separates fields. -/
def separatorOf (c : Call) (g : Given) : Work (Option UInt8) := do
  let vs := g.values 't'
  let one (v : Bytes) : Work UInt8 :=
    match v with
    | [] => die c "empty tab" 2
    | [b] => return b
    | _ => if asciiText v == "\\0" then return 0 else die c s!"multi-character tab {Quote.plain v}" 2
  let bs ← vs.mapM one
  if bs.eraseDups.length > 1 then die c "incompatible tabs" 2
  return bs.head?

/-- The letters that exclude each other, as a message shows them. -/
def clash? (letters : List Char) : Option String :=
  let rules := letters.filter fun l => ['g', 'h', 'M', 'n', 'R', 'V'].contains l
  let others := letters.filter fun l => ['d', 'i'].contains l
  let kinds := rules.eraseDups
  let plainOnly := kinds.filter fun l => l != 'R' && l != 'V'
  if kinds.length > 1 || (!plainOnly.isEmpty && !others.isEmpty) then
    let all := ['d', 'f', 'g', 'h', 'i', 'M', 'n', 'R', 'V'].filter fun l =>
      l != 'f' && (kinds.contains l || others.contains l)
    some (String.ofList (all.mergeSort fun a b => a.toNat ≤ b.toNat))
  else none

/-- Sorts lines. -/
def sort (c : Call) : Reply :=
  withOptions c sortOptions 2 fun g => do
    let words ← (g.values 'B').mapM (sortWord c)
    let letters := g.options.map Prod.fst ++ words
    let base := letters.foldl (fun (o : Order) l => o.add true true l) {}
    let keys ← (g.values 'k').mapM fun v => do
      match keyOf v with
      | .ok k => return k
      | .error m => die c m 2
    let separator ← separatorOf c g
    if (g.values 'o').eraseDups.length > 1 then die c "multiple output files specified" 2
    match if keys.isEmpty || keys.any fun k => k.order.isDefault && !k.order.reverse then
        clash? letters else none with
    | some s => die c s!"options '-{s}' are incompatible" 2
    | none => pure ()
    let keys := keys.map fun k =>
      if k.order.isDefault && !k.order.reverse then { k with order := base } else k
    let byKey (k : Key) : Bytes → Bytes → Ordering :=
      fun a b => k.order.compare (k.part separator a) (k.part separator b)
    let whole (x : Bytes) : Bytes := if base.skipStart then x.dropWhile isBlank else x
    let main := if keys.isEmpty then
        (if base.isDefault && !base.reverse then [compareOctets]
        else [fun a b => base.compare (whole a) (whole b)])
      else keys.map byKey
    let plain : Order := { reverse := base.reverse }
    let full := if g.has 'u' || g.has 's' then main else main ++ [plain.compare]
    let ending : UInt8 := if g.has 'z' then 0 else newline
    let checks := g.has 'c' || g.has 'C' || g.has 'K'
    let quiet := g.has 'C' || (g.value? 'K').any fun v =>
      asciiText v == "quiet" || asciiText v == "silent"
    match g.value? 'F' with
    | some f => die c s!"open failed: {Quote.needed f}: No such file or directory" 2
    | none => pure ()
    if checks then
      match g.operands.drop 1 with
      | x :: _ => die c s!"extra operand {Quote.plain x} not allowed with -c" 2
      | [] => pure ()
    let names := orInput g.operands
    let texts ← names.mapM fun n => do
      let cannot : Phrase := fun name why =>
        if why == SystemError.isDirectory.wording then s!"read failed: {name}: {why}"
        else s!"cannot read: {name}: {why}"
      match ← readFileAs c cannot n 2 with
      | some bs => return linesBy ending bs
      | none => stop
    let input := texts.flatten
    if checks then
      let bad (a b : Bytes) : Bool :=
        let o := compareBy full a b
        o == .gt || (g.has 'u' && o == .eq)
      match (input.zip input.tail).zipIdx.find? fun x => bad x.1.1 x.1.2 with
      | some ((_, l), i) =>
        if quiet then fail 1
        else complain c s!"{Quote.needed (names.headD [])}:{i + 2}: disorder: {Utf8.lossy l}" 1
      | none => pure ()
    else
      let le (a b : Bytes) : Bool := compareBy full a b != .gt
      let sorted := if g.has 'm' then texts.foldl (mergeTwo le) [] else input.mergeSort le
      let out := if g.has 'u' then dropEqual (compareBy main) sorted else sorted
      let text := out.flatMap (· ++ [ending])
      match g.value? 'o' with
      | none => write text
      | some f =>
        match ← writePath f false text with
        | .ok () => pure ()
        | .error e => complain c s!"open failed: {Quote.needed f}: {wording e}" 2

/-! ### Repeated lines -/

/-- Lines in groups of those that are the same as the one before. -/
def groupLines (same : Bytes → Bytes → Bool) : List Bytes → List (List Bytes)
  | [] => []
  | l :: ls =>
    match groupLines same ls with
    | (m :: ms) :: rest => if same l m then (l :: m :: ms) :: rest else [l] :: (m :: ms) :: rest
    | _ => [[l]]

/-- Drops lines that repeat the one before them. -/
def uniq (c : Call) : Reply :=
  let long := [("count", 'c'), ("repeated", 'd'), ("unique", 'u'), ("ignore-case", 'i'),
    ("skip-fields", 'f'), ("skip-chars", 's'), ("check-chars", 'w'), ("zero-terminated", 'z'),
    ("all-repeated", 'A'), ("group", 'G')]
  let options : Options := { flags := "cduiDz", valued := "fsw", optional := "AG", wordy := "AG", long }
  withOptions c options 1 fun g => do
    let amount (o : Char) (what : String) : Work Nat :=
      match g.value? o with
      | none => return 0
      | some v =>
        match natural? v with
        | some n => return n
        | none => die c s!"{Utf8.lossy v}: invalid number of {what}" 1
    let fields ← amount 'f' "fields to skip"
    let skipped ← amount 's' "bytes to skip"
    let width ← amount 'w' "bytes to compare"
    let all := g.has 'D' || g.has 'A'
    match g.operands with
    | _ :: _ :: x :: _ => misuse c s!"extra operand {Quote.plain x}" 1
    | _ => pure ()
    if g.has 'G' && (g.has 'c' || g.has 'd' || all || g.has 'u') then
      misuse c "--group is mutually exclusive with -c/-d/-D/-u" 1
    if all && g.has 'c' then
      misuse c "printing all duplicated lines and repeat counts is meaningless" 1
    let key (l : Bytes) : Bytes :=
      let l := (afterFields none fields l).drop skipped
      let l := if g.has 'w' then l.take width else l
      if g.has 'i' then l.map lower else l
    let ending : UInt8 := if g.has 'z' then 0 else newline
    let input := (g.operands.head?).getD [octet '-']
    let some bs ← readFile c input 1 | stop
    let found := groupLines (fun a b => key a == key b) (linesBy ending bs)
    let line (l : Bytes) : Bytes := l ++ [ending]
    let text := if g.has 'G' then
        let how := asciiText ((g.value? 'G').getD [])
        let blocks := found.map fun ls => ls.flatMap line
        let inner := [ending].intercalate blocks
        match how with
        | "prepend" => blocks.flatMap fun b => ending :: b
        | "append" => blocks.flatMap fun b => b ++ [ending]
        | "both" => if blocks.isEmpty then [] else ending :: inner ++ [ending]
        | _ => inner
      else if all then
        let blocks := (found.filter fun ls => ls.length > 1).map fun ls => ls.flatMap line
        match asciiText ((g.value? 'A').getD []) with
        | "prepend" => blocks.flatMap fun b => ending :: b
        | "separate" => [ending].intercalate blocks
        | _ => if g.has 'u' then [] else blocks.flatten
      else
        let kept := found.filter fun ls =>
          !(g.has 'd' && ls.length == 1) && !(g.has 'u' && ls.length > 1)
        kept.flatMap fun ls =>
          let l := ls.headD []
          line (if g.has 'c' then padLeft 7 (decimal (ls.length : Nat)) ++ 0x20 :: l else l)
    match g.operands with
    | [_, out] =>
      if out == [octet '-'] then write text
      else
        match ← writePath out false text with
        | .ok () => pure ()
        | .error e => complain c s!"{Quote.needed out}: {wording e}" 1
    | _ => write text

/-! ### Sorted files -/

/-- Where a line of two files belongs: to the first, the second or both. -/
inductive Side where
  | first
  | second
  | both
  deriving DecidableEq, Repr

/-- What happens while two files are compared: a line comes, or a file turns out not to be in
order. -/
inductive CommStep where
  | line (side : Side) (l : Bytes)
  | disorder (side : Side)

/-- Compares two lists of lines; `bad` are the sides that are known to be out of order. -/
def commSteps : List Bytes → List Bytes → List Side → List CommStep
  | [], [], _ => []
  | x :: xs, [], bad => .line .first x :: (check .first x xs bad).1 ++ commSteps xs [] (check .first x xs bad).2
  | [], y :: ys, bad => .line .second y :: (check .second y ys bad).1 ++ commSteps [] ys (check .second y ys bad).2
  | x :: xs, y :: ys, bad =>
    match compareOctets x y with
    | .lt => .line .first x :: (check .first x xs bad).1 ++ commSteps xs (y :: ys) (check .first x xs bad).2
    | .gt => .line .second y :: (check .second y ys bad).1 ++ commSteps (x :: xs) ys (check .second y ys bad).2
    | .eq =>
      let (s, bad) := check .first x xs bad
      let (t, bad) := check .second y ys bad
      .line .both x :: s ++ t ++ commSteps xs ys bad
termination_by xs ys => xs.length + ys.length
where
  /-- Looks whether the next line of a side is in order. -/
  check (side : Side) (x : Bytes) (xs : List Bytes) (bad : List Side) : List CommStep × List Side :=
    match xs with
    | y :: _ =>
      if bytesLt y x && !bad.contains side then ([.disorder side], side :: bad) else ([], bad)
    | [] => ([], bad)

/-- Compares two sorted files line by line. -/
def comm (c : Call) : Reply :=
  let long := [("check-order", 'o'), ("nocheck-order", 'n'), ("output-delimiter", 'D'),
    ("total", 't'), ("zero-terminated", 'z')]
  withOptions c { flags := "123ontz", valued := "D", wordy := "ontD", long } 1 fun g => do
    match g.operands with
    | [] => misuse c "missing operand" 1
    | [x] => misuse c s!"missing operand after {Quote.plain x}" 1
    | _ :: _ :: x :: _ => misuse c s!"extra operand {Quote.plain x}" 1
    | [a, b] =>
      let ending : UInt8 := if g.has 'z' then 0 else newline
      let read (f : Bytes) : Work (List Bytes) := do
        match ← readFile c f 1 with
        | some bs => return linesBy ending bs
        | none => stop
      let xs ← read a
      let ys ← read b
      let tab := (g.value? 'D').getD [0x09]
      let indentOf : Side → Bytes
        | .first => []
        | .second => if g.has '1' then [] else tab
        | .both => (if g.has '1' then [] else tab) ++ (if g.has '2' then [] else tab)
      let hidden : Side → Bool
        | .first => g.has '1'
        | .second => g.has '2'
        | .both => g.has '3'
      let steps := commSteps xs ys []
      let differ := xs != ys
      let mut broken := false
      for s in steps do
        match s with
        | .line side l => if !hidden side then write (indentOf side ++ l ++ [ending])
        | .disorder side =>
          if !g.has 'n' && (differ || g.has 'o') then
            broken := true
            let n := if side = .first then 1 else 2
            complain c s!"file {n} is not in sorted order" 1
            if g.has 'o' then stop
      let count (side : Side) : Nat := steps.countP fun
        | .line s _ => s = side
        | _ => false
      if g.has 't' then
        let numbers := [count .first, count .second, count .both].map fun n => decimal (n : Nat)
        write (tab.intercalate (numbers ++ [Utf8.encode "total"]) ++ [ending])
      if broken then complain c "input is not in sorted order" 1

/-! ### Joining -/

/-- A line with its fields. -/
structure JoinLine where
  text : Bytes
  fields : List Bytes
  key : Bytes

/-- A field of the output of a join: the key, or a field of one of the files. -/
inductive JoinField where
  | key
  | field (file n : Nat)

/-- How files are joined. -/
structure Joining where
  separator : Option UInt8
  ignoreCase : Bool
  first : Nat
  second : Nat
  format : Option (List JoinField)
  filler : Bytes
  ending : UInt8

/-- The fields of a line. -/
def Joining.fieldsOf (j : Joining) (l : Bytes) : List Bytes :=
  match j.separator with
  | some s => l.splitOn s
  | none => (l.splitOnP isBlank).filter fun f => !f.isEmpty

/-- A line that is joined by a field. -/
def Joining.lineOf (j : Joining) (n : Nat) (l : Bytes) : JoinLine :=
  let fields := j.fieldsOf l
  ⟨l, fields, fields.getD n []⟩

/-- The order of keys. -/
def Joining.compare (j : Joining) (a b : Bytes) : Ordering :=
  if j.ignoreCase then compareOctets (a.map lower) (b.map lower) else compareOctets a b

/-- The line that two lines, or one of them, make. -/
def Joining.render (j : Joining) (a b : Option JoinLine) : Bytes :=
  let gap : Bytes := [j.separator.getD 0x20]
  let orFiller (f : Option Bytes) : Bytes := match f with
    | some [] | none => j.filler
    | some f => f
  let own (x : JoinLine) (n : Nat) : List Bytes :=
    (x.fields.zipIdx.filter fun y => y.2 != n).map fun y => orFiller (some y.1)
  let key := match a, b with
    | some x, _ => x.key
    | none, some y => y.key
    | none, none => []
  let parts := match j.format with
    | some fs => fs.map fun
      | .key => orFiller (some key)
      | .field 1 n => orFiller (a.bind fun x => x.fields[n]?)
      | .field _ n => orFiller (b.bind fun y => y.fields[n]?)
    | none =>
      orFiller (some key) :: (a.map (own · j.first)).getD [] ++ (b.map (own · j.second)).getD []
  gap.intercalate parts ++ [j.ending]

/-- What comes of joining: a pair, or a line without a partner. -/
inductive JoinStep where
  | pair (a b : JoinLine)
  | alone (file : Nat) (x : JoinLine)

/-- Joins two lists of lines. -/
def joinSteps (j : Joining) : Nat → List JoinLine → List JoinLine → List JoinStep
  | 0, _, _ => []
  | _ + 1, [], ys => ys.map (.alone 2)
  | _ + 1, xs, [] => xs.map (.alone 1)
  | fuel + 1, x :: xs, y :: ys =>
    match j.compare x.key y.key with
    | .lt => .alone 1 x :: joinSteps j fuel xs (y :: ys)
    | .gt => .alone 2 y :: joinSteps j fuel (x :: xs) ys
    | .eq =>
      let same (z : JoinLine) : Bool := j.compare z.key x.key == .eq
      let as := x :: xs.takeWhile same
      let bs := y :: ys.takeWhile same
      (as.flatMap fun a => bs.map fun b => .pair a b) ++
        joinSteps j fuel (xs.dropWhile same) (ys.dropWhile same)

/-- The first line of a file that is out of order. -/
def disorderIn? (j : Joining) (ls : List JoinLine) : Option (Nat × JoinLine) :=
  ((ls.zip ls.tail).zipIdx.find? fun x => j.compare x.1.1.key x.1.2.key == .gt).map fun x =>
    (x.2 + 2, x.1.2)

/-- The number of a field in an option. -/
def joinField (c : Call) (v : Bytes) : Work Nat :=
  match natural? v with
  | some n => if n = 0 then die c s!"invalid field number: {Quote.plain v}" 1 else return n - 1
  | none => die c s!"invalid field number: {Quote.plain v}" 1

/-- The fields in an option. -/
def joinFormat (c : Call) (v : Bytes) : Work (List JoinField) :=
  ((v.splitOnP fun b => b == octet ',' || isBlank b).filter fun f => !f.isEmpty).mapM fun f => do
    if f == [octet '0'] then return .key
    else
      let file := f.takeWhile (· != octet '.')
      match natural? file with
      | some 1 => return .field 1 (← joinField c (f.drop 2))
      | some 2 => return .field 2 (← joinField c (f.drop 2))
      | _ => die c s!"invalid file number in field spec: {Quote.plain f}" 1

/-- Joins the lines of two sorted files that have a field in common. -/
def join (c : Call) : Reply :=
  let long := [("ignore-case", 'i'), ("check-order", 'K'), ("nocheck-order", 'N'), ("header", 'H'),
    ("zero-terminated", 'z')]
  withOptions c { flags := "iKNHz", valued := "12javeot", wordy := "KNH", long } 1 fun g => do
    let both ← (g.value? 'j').mapM (joinField c)
    let first ← (g.value? '1').mapM (joinField c)
    let second ← (g.value? '2').mapM (joinField c)
    let side (v : Bytes) : Work Nat :=
      match natural? v with
      | some 1 => return 1
      | some 2 => return 2
      | _ => die c s!"invalid field number: {Quote.plain v}" 1
    let extra ← (g.values 'a').mapM side
    let only ← (g.values 'v').mapM side
    let automatic := g.value? 'o' == some (Utf8.encode "auto")
    let format ← if automatic || !g.has 'o' then pure none
      else some <$> joinFormat c ([octet ','].intercalate (g.values 'o'))
    let separator ← match g.value? 't' with
      | none => pure none
      | some [] => pure (some newline)
      | some [b] => pure (some b)
      | some v =>
        if asciiText v == "\\0" then pure (some 0) else die c s!"multi-character tab {Quote.plain v}" 1
    match g.operands with
    | [] => misuse c "missing operand" 1
    | [x] => misuse c s!"missing operand after {Quote.plain x}" 1
    | _ :: _ :: x :: _ => misuse c s!"extra operand {Quote.plain x}" 1
    | [a, b] =>
      let j : Joining :=
        { separator, ignoreCase := g.has 'i', first := (first.or both).getD 0
          second := (second.or both).getD 0, format, filler := (g.value? 'e').getD []
          ending := if g.has 'z' then 0 else newline }
      let read (f : Bytes) : Work (List Bytes) := do
        match ← readFile c f 1 with
        | some bs => return linesBy j.ending bs
        | none => stop
      let xs := (← read a).map (j.lineOf j.first)
      let ys := (← read b).map (j.lineOf j.second)
      let j := if automatic then
          let count (ls : List JoinLine) : Nat := (ls.head?.map fun l => l.fields.length).getD 0
          let own (file n k : Nat) : List JoinField :=
            ((List.range k).filter (· != n)).map (.field file)
          { j with format := some (.key :: own 1 j.first (count xs) ++ own 2 j.second (count ys)) }
        else j
      let (heads, xs, ys) := if g.has 'H' then (some (xs.head?, ys.head?), xs.tail, ys.tail)
        else (none, xs, ys)
      match heads with
      | some (x, y) => if x.isSome || y.isSome then write (j.render x y)
      | none => pure ()
      let steps := joinSteps j (xs.length + ys.length + 1) xs ys
      let unpaired := steps.any fun
        | .alone .. => true
        | _ => false
      let faults := if g.has 'N' || !(unpaired || g.has 'K') then []
        else [(a, disorderIn? j xs), (b, disorderIn? j ys)].filterMap fun x => x.2.map fun y => (x.1, y)
      for (f, n, l) in faults do
        complain c s!"{Utf8.lossy f}:{n}: is not sorted: {Utf8.lossy l.text}" 1
        if g.has 'K' then stop
      for s in steps do
        match s with
        | .pair x y => if only.isEmpty then write (j.render (some x) (some y))
        | .alone 1 x => if (extra ++ only).contains 1 then write (j.render (some x) none)
        | .alone _ y => if (extra ++ only).contains 2 then write (j.render none (some y))
      if !faults.isEmpty then complain c "input is not in sorted order" 1

/-! ### Orders from pairs -/

/-- Takes items that nothing left comes before, in turn. -/
def topological : Nat → List Bytes → List Bytes → List (Bytes × Bytes) → List Bytes × List Bytes
  | 0, _, rest, _ => ([], rest)
  | fuel + 1, queue, rest, pairs =>
    match queue with
    | [] => ([], rest)
    | x :: queue =>
      let left := pairs.filter fun p => p.1 != x
      let after := (pairs.filter fun p => p.1 == x).map Prod.snd |>.reverse
      let free := (after.eraseDups).filter fun y => !left.any fun p => p.2 == y
      let (out, r) := topological fuel (queue ++ free) (rest.filter fun y => y != x) left
      (x :: out, r)

/-- A loop among pairs, followed backwards from an item. -/
def loopFrom (pairs : List (Bytes × Bytes)) : Nat → List Bytes → Bytes → List Bytes
  | 0, seen, _ => seen
  | fuel + 1, seen, x =>
    if seen.contains x then (seen.dropWhile (· != x))
    else
      match pairs.find? fun p => p.1 == x with
      | some (_, y) => loopFrom pairs fuel (seen ++ [x]) y
      | none => seen

/-- Writes items in an order that respects given pairs. -/
def tsort (c : Call) : Reply :=
  withOptions c {} 1 fun g => do
    match g.operands.drop 1 with
    | x :: _ => misuse c s!"extra operand {Quote.plain x}" 1
    | [] => pure ()
    let name := g.operands.headD [octet '-']
    let some bs ← readFile c name 1 | stop
    let words := (bs.splitOnP isWhite).filter fun w => !w.isEmpty
    if words.length % 2 == 1 then
      die c s!"{Quote.needed name}: input contains an odd number of tokens" 1
    let rec pairUp : List Bytes → List (Bytes × Bytes)
      | a :: b :: r => (a, b) :: pairUp r
      | _ => []
    let all := pairUp words
    let pairs := (all.filter fun p => p.1 != p.2)
    let items := (words.eraseDups).mergeSort fun a b => !bytesLt b a
    let free := items.filter fun x => !pairs.any fun p => p.2 == x
    let (out, rest) := topological (items.length + 1) free items pairs
    write (unlines out)
    if !rest.isEmpty then
      complain c s!"{Quote.needed name}: input contains a loop:" 1
      let inner := pairs.filter fun p => rest.contains p.1 && rest.contains p.2
      for x in loopFrom inner (rest.length + 1) [] (rest.headD []) do warn s!"{c.name}: {Utf8.lossy x}"
      write (unlines rest)

end Utility

end Shell

end FunctionIndex

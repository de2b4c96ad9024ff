import FunctionIndex.Shell.Utility.Stream

/-!
# Any order

Lines, arguments or numbers are written in an order that nobody may rely on: here it is the order in
which they come.
-/

namespace FunctionIndex

namespace Shell

namespace Utility

open Json (octet isDigit)
open Work

/-- The numbers of a range; none if it is no range. -/
def numberRange? (v : Bytes) : Option (Nat × Nat) :=
  let low := v.takeWhile (· != octet '-')
  match natural? low, natural? (v.drop (low.length + 1)) with
  | some a, some b => if low.length < v.length && a ≤ b + 1 then some (a, b) else none
  | _, _ => none

/-- Items again and again, so many in all. -/
def cycled (items : List Bytes) : Nat → List Bytes → List Bytes
  | 0, _ => []
  | n + 1, x :: rest => x :: cycled items n rest
  | n + 1, [] =>
    match items with
    | x :: rest => x :: cycled items n rest
    | [] => []

/-- Writes its input in any order. -/
def shuf (c : Call) : Reply :=
  let long := [("echo", 'e'), ("input-range", 'i'), ("head-count", 'n'), ("output", 'o'),
    ("random-source", 'R'), ("repeat", 'r'), ("zero-terminated", 'z')]
  withOptions c { flags := "erz", valued := "inoR", wordy := "R", long } 1 fun g => do
    let mut range? : Option (Nat × Nat) := none
    let mut limit? : Option Nat := none
    for (letter, v) in g.options do
      match letter with
      | 'i' =>
        if range?.isSome then die c "multiple -i options specified" 1
        match numberRange? v with
        | some r => range? := some r
        | none => die c s!"invalid input range: {Quote.plain v}" 1
      | 'n' =>
        match natural? v with
        | some n => limit? := some (min n (limit?.getD n))
        | none => die c s!"invalid line count: {Quote.plain v}" 1
      | 'o' =>
        if g.value? 'o' != some v then die c "multiple output files specified" 1
      | _ => pure ()
    if g.has 'e' && range?.isSome then misuse c "cannot combine -e and -i options" 1
    let extra := if range?.isSome then g.operands.head?
      else if g.has 'e' then none else g.operands.tail.head?
    match extra with
    | some a => misuse c s!"extra operand {Quote.plain a}" 1
    | none => pure ()
    let ending : UInt8 := if g.has 'z' then 0 else newline
    let items ← if limit? == some 0 then pure []
      else
        match range? with
        | some (a, b) =>
          let count := if g.has 'r' then b + 1 - a else min (b + 1 - a) (limit?.getD (b + 1 - a))
          pure ((List.range (min count 1000000)).map fun i => decimal (a + i : Nat))
        | none =>
          if g.has 'e' then pure g.operands
          else
            match ← readFile c (g.operands.headD [octet '-']) 1 with
            | none => stop
            | some bs => pure ((piecesBy ending bs).map fun l =>
                if l.getLast? == some ending then l.dropLast else l)
    match g.value? 'R' with
    | some v =>
      match ← readPath c v with
      | .ok _ => pure ()
      | .error e => die c s!"{Quote.needed v}: {wording e}" 1
    | none => pure ()
    let chosen ← if g.has 'r' && limit? != some 0 then
        if items.isEmpty then die c "no lines to repeat" 1
        else pure (cycled items (limit?.getD 100000) items)
      else pure ((limit?.map items.take).getD items)
    let out := chosen.flatMap (· ++ [ending])
    match g.value? 'o' with
    | none => write out
    | some v =>
      match ← writePath v false out with
      | .ok () => pure ()
      | .error e => die c s!"{Quote.needed v}: {wording e}" 1

end Utility

end Shell

end FunctionIndex

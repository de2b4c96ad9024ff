import FunctionIndex.Shell.Awk.Channel

/-!
# Variables, places and functions of awk programs

Reading and changing variables, elements and fields, and the functions that are always there.
They evaluate their arguments themselves, by an evaluator that they are given.
-/

namespace FunctionIndex

namespace Shell

namespace Awk

open Json (octet isDigit)

/-- Gives the value of an expression. -/
abbrev Evaluator := Term → Step Value

/-- Something that can be assigned to, its index known. -/
inductive Location where
  | variable (name : String)
  | element (table : Nat) (key : Key)
  | field (index : Nat)

namespace Step

/-- Ends a program that would never end by itself: it goes on until it is killed. -/
def stuck {α : Type} : Step α := do
  match ← onMachine (Run.pass forever) with
  | some n => throw (.halt (.signal n))
  | none => throw (.halt (.code 2))

/-! ### The record -/

/-- Divides the record into fields if that has not been done. -/
def divide : Step Unit := do
  let m ← memory
  if !m.divided then
    let fs := m.setting "FS"
    set (← patternOr fs m.withFields)

/-- The record. -/
def record : Step Bytes := do
  modify Memory.withRecord
  return (← memory).record

/-- A field of the record; the record itself has the number zero. -/
def field (i : Nat) : Step Value := do
  if i = 0 then return .outside (← record)
  else
    divide
    return (← memory).fields.getD (i - 1) .unset

/-- Changes a field of the record. -/
def setField (i : Nat) (v : Value) : Step Unit := do
  if i = 0 then modify fun m => m.setRecord (m.text v)
  else
    divide
    modify fun m => m.setField i v

/-- The number of a field. -/
def indexOf (v : Value) : Step Nat := do
  let n := (v.toNumber.whole?).getD 0
  if n < 0 then fault s!"negative field index ${n}" else return n.toNat

/-! ### Variables -/

/-- Sets a variable of the program. -/
def setGlobal (name : String) (v : Value) : Step Unit := do
  match name with
  | "NF" =>
    divide
    let n ← indexOf v
    modify fun m => m.resize n
  | "FS" =>
    divide
    modify fun m => { m with globals := m.globals.insert name v }
  | _ => modify fun m => { m with globals := m.globals.insert name v }

/-- A variable. -/
def variable_ (name : String) : Step Value := do
  let m ← memory
  match m.frame.find? fun s => s.1 == name with
  | some (_, .value v) => return v
  | some (_, .table _) => return .unset
  | none =>
    if name == "NF" then
      divide
      return .ofNat (← memory).fields.size
    else return m.globals.getD name .unset

/-- Sets a variable. -/
def setVariable (name : String) (v : Value) : Step Unit := do
  let m ← memory
  if m.frame.any fun s => s.1 == name then
    let put (s : String × Slot) : String × Slot := if s.1 == name then (name, .value v) else s
    set { m with frame := m.frame.map put }
  else setGlobal name v

/-- The number of a table, which is made if there is none. -/
def tableOf (name : String) : Step Nat := do
  let m ← memory
  match m.tableNumber? name with
  | some n => return n
  | none =>
    let (n, m) := m.newTable
    if m.frame.any fun s => s.1 == name then
      let put (s : String × Slot) : String × Slot := if s.1 == name then (name, .table n) else s
      set { m with frame := m.frame.map put }
    else set { m with tableNumbers := m.tableNumbers.insert name n }
    return n

/-- Changes a table. -/
def onTable (n : Nat) (f : Table → Table) : Step Unit :=
  modify fun m => { m with tables := m.tables.modify n f }

/-- The value of a key of a table, which is added if it is new. -/
def valueOf (n : Nat) (k : Key) : Step Value := do
  onTable n fun t => t.look true k
  return ((← memory).table n).value k

/-! ### Places -/

/-- The key of expressions. -/
def keyOf (ev : Evaluator) (keys : List Term) : Step Key := do
  let vs ← keys.mapM ev
  return (← memory).key vs

/-- The place of something that can be assigned to. -/
def locate (ev : Evaluator) (t : Term) : Step Location := do
  match t with
  | .element name keys =>
    let k ← keyOf ev keys
    let n ← tableOf name
    onTable n fun t => t.look true k
    return .element n k
  | .field i => return .field (← indexOf (← ev i))
  | .variable name => return .variable name
  | _ => return .variable ""

/-- The value at a place. -/
def valueAt : Location → Step Value
  | .variable name => variable_ name
  | .element n k => valueOf n k
  | .field i => field i

/-- Changes the value at a place. -/
def setAt (l : Location) (v : Value) : Step Unit := do
  match l with
  | .variable name => setVariable name v
  | .element n k => onTable n fun t => t.replace k v
  | .field i => setField i v

/-! ### Texts and patterns -/

/-- The text of an expression. -/
def textOf (ev : Evaluator) (t : Term) : Step Bytes := do
  let v ← ev t
  return (← memory).text v

/-- The pattern that a text stands for. -/
def compile (bs : Bytes) : Step Regex := do
  match (← memory).patterns.get? bs with
  | some r => return r
  | none =>
    let r ← patternOr bs (Pattern.parse bs)
    modify fun m => { m with patterns := m.patterns.insert bs r }
    return r

/-- The pattern of an expression. -/
def patternOf (ev : Evaluator) (t : Term) : Step Regex := do
  match t with
  | .pattern r | .grouped (.pattern r) => return r
  | t => compile (← textOf ev t)

/-- The divider of an expression. -/
def dividerOf (ev : Evaluator) (t : Term) : Step Divider := do
  match t with
  | .pattern r | .grouped (.pattern r) => return .pattern r
  | t =>
    let bs ← textOf ev t
    let (d, m) ← patternOr bs ((← memory).divider bs)
    set m
    return d

/-! ### Functions -/

/-- How long something is: a text, or a table. -/
def length (ev : Evaluator) (args : List Term) : Step Value := do
  match args with
  | [] => return .ofNat (← record).length
  | .variable name :: _ =>
    match (← memory).tableNumber? name with
    | some n => return .ofNat ((← memory).table n).size
    | none => return .ofNat (← textOf ev (.variable name)).length
  | e :: _ => return .ofNat (← textOf ev e).length

/-- A part of a text. -/
def substr (ev : Evaluator) (args : List Term) : Step Value := do
  let vs ← args.mapM ev
  let whole (v : Value) : Int := v.toNumber.whole?.getD 0
  match vs with
  | [s, start] => return .text (part ((← memory).text s) (whole start) none)
  | [s, start, n] => return .text (part ((← memory).text s) (whole start) (some (whole n)))
  | _ => return .unset

/-- Divides a text into a table. -/
def split (ev : Evaluator) (args : List Term) : Step Value := do
  match args with
  | e :: .variable table :: by_ =>
    let bs ← textOf ev e
    let d ← match by_ with
      | [] => dividerOf ev (.variable "FS")
      | t :: _ => dividerOf ev t
    let parts := d.split bs
    let n ← tableOf table
    onTable n fun _ => .ofList (parts.map .outside)
    return .ofNat parts.length
  | _ => return .unset

/-- Looks for a pattern and remembers where it is. -/
def matched (ev : Evaluator) (e pattern : Term) : Step Value := do
  let bs ← textOf ev e
  let r ← patternOf ev pattern
  let (start, size) : Nat × Int := match r.search? bs.toArray 0 with
    | some m => (m.start + 1, (m.stop - m.start : Nat))
    | none => (0, -1)
  setGlobal "RSTART" (.ofNat start)
  setGlobal "RLENGTH" (.ofInt size)
  return .ofNat start

/-- Replaces a pattern in the record or somewhere else, once or everywhere. -/
def replace (ev : Evaluator) (everywhere : Bool) (args : List Term) : Step Value := do
  match args with
  | pattern :: new :: into =>
    let r ← patternOf ev pattern
    let with_ ← textOf ev new
    let l ← match into with
      | [] => pure (.field 0)
      | t :: _ => locate ev t
    let old ← valueAt l
    let bs := (← memory).text old
    let (changed, n) :=
      if everywhere then replaceAll r bs with_
      else ((replaceFirst? r bs with_).map fun t => (t, 1)).getD (bs, 0)
    if n > 0 then setAt l (.text changed)
    return .ofNat n
  | _ => return .unset

/-- The text that a format makes of values. -/
def formatWith (user : String) (vs : List Value) : Step (Bytes × Option String) := do
  let m ← memory
  match vs with
  | [] => return ([], none)
  | f :: vs =>
    let format := m.text f
    let (bs, fault) := formatted m.text format vs
    return (bs, fault.map (FormatFault.message user format))

/-- A date by a format. -/
def strftime (ev : Evaluator) (args : List Term) : Step Value := do
  let vs ← args.mapM ev
  let m ← memory
  let now := (← onMachine Run.world).now
  let format := match vs with
    | f :: _ => m.text f
    | [] => Utf8.encode "%c"
  let seconds : Int := match vs with
    | _ :: t :: _ => t.toNumber.whole?.getD 0
    | _ => (now / 1000000000 : Nat)
  return .text (Calendar.format format (seconds * 1000000000))

/-- The time of a date: year, month, day, hour, minute and second. -/
def mktime (bs : Bytes) : Value :=
  match (words (bs.length + 1) bs).map integer? with
  | some y :: some mo :: some d :: some h :: some mi :: some s :: _ =>
    let months := y * 12 + (mo - 1)
    let day := Calendar.dayNumber (months / 12) ((months % 12).toNat + 1) 1 + (d - 1)
    .ofInt (day * 86400 + h * 3600 + mi * 60 + s)
  | _ => .ofInt (-1)

/-- A number from zero up to one that depends on another one. -/
def scattered (n : Nat) : Number :=
  let mixed := (n * 6364136223846793005 + 1442695040888963407) % Number.two 64
  .ofReal (.ofRatio false (mixed / Number.two 11) (Number.two 53))

/-- Calls a function that is always there. -/
def builtin (start : Run.Starter) (ev : Evaluator) (f : Function) (args : List Term) :
    Step Value := do
  let first : Step Value := match args with
    | e :: _ => ev e
    | [] => return .unset
  let numeric (g : Float → Float) : Step Value := do
    return .number ((← first).toNumber.apply g)
  let textual (g : Bytes → Bytes) : Step Value := do
    let v ← first
    return .text (g ((← memory).text v))
  match f, args with
  | .length, _ => length ev args
  | .substr, _ => substr ev args
  | .index, [s, t] =>
    let bs ← textOf ev s
    return .ofNat (indexIn (← textOf ev t) 1 bs)
  | .index, _ => return .unset
  | .split, _ => split ev args
  | .match_, [e, p] => matched ev e p
  | .match_, _ => return .unset
  | .sub, _ => replace ev false args
  | .gsub, _ => replace ev true args
  | .sprintf, _ =>
    match ← formatWith "sprintf" (← args.mapM ev) with
    | (bs, none) => return .text bs
    | (_, some m) => fault m
  | .sin, _ => numeric Float.sin
  | .cos, _ => numeric Float.cos
  | .exp, _ => numeric Float.exp
  | .log, _ => numeric Float.log
  | .sqrt, _ => numeric Float.sqrt
  | .int, _ => return .number (← first).toNumber.truncate
  | .atan2, [y, x] =>
    let y ← ev y
    let x ← ev x
    return .number (.combine Float.atan2 y.toNumber x.toNumber)
  | .atan2, _ => return .unset
  | .rand, _ =>
    let m ← memory
    set { m with drawn := m.drawn + 1 }
    return .number (scattered m.drawn)
  | .srand, _ =>
    let old := (← memory).seed
    let new ← match args with
      | e :: _ => ev e
      | [] => do
        let now := (← onMachine Run.world).now
        pure (.ofNat (now / 1000000000))
    modify fun m => { m with seed := new }
    return old
  | .tolower, _ => textual (·.map lower)
  | .toupper, _ => textual (·.map upper)
  | .system, _ =>
    let v ← first
    let n ← shell start "sh" ((← memory).text v) (pure ())
    return .ofNat n
  | .close, _ =>
    let v ← first
    return .ofInt (← close start ((← memory).text v))
  | .fflush, _ =>
    let _ ← args.mapM ev
    flush
    return .ofNat 0
  | .strftime, _ => strftime ev args
  | .mktime, _ =>
    let v ← first
    return mktime ((← memory).text v)
  | .systime, _ => return .ofNat ((← onMachine Run.world).now / 1000000000)

end Step

end Awk

end Shell

end FunctionIndex

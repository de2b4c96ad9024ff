import FunctionIndex.Shell.Awk.Format
import FunctionIndex.Shell.Awk.Grammar
import FunctionIndex.Shell.Awk.Record
import FunctionIndex.Shell.Awk.Table

/-!
# The memory of awk programs

What a program remembers while it runs: variables, tables, the record with its fields, and where
input comes from and output goes to.

A record is divided into fields when one of them is asked for, and put together again when it is
asked for after a field has been changed.
-/

namespace FunctionIndex

namespace Shell

namespace Awk

open Json (octet isDigit)

/-- What a parameter of a function holds. -/
inductive Slot where
  | value (v : Value)
  /-- The table of a number. -/
  | table (n : Nat)

/-- Something that is read from. -/
structure Input where
  name : Bytes
  /-- Whether it is what a command has written. -/
  isCommand : Bool := false
  /-- What has been read already and not been used. -/
  rest : Bytes
  /-- Whether more can be read from the input of the program. -/
  live : Bool := false
  /-- What closing it gives. -/
  status : Nat := 0

/-- Something that is written to. -/
structure Output where
  name : Bytes
  isCommand : Bool := false
  /-- The descriptor of a file. -/
  descriptor : Nat := 0
  /-- What has not been passed on, the latest first. -/
  pending : List Bytes := []

/-- The memory of a program. -/
structure Memory where
  program : Program
  /-- What the program is called in messages. -/
  name : Bytes
  functions : Std.HashMap String Definition := {}
  globals : Std.HashMap String Value := {}
  /-- The numbers of tables, those of functions apart. -/
  tableNumbers : Std.HashMap String Nat := {}
  tables : Std.HashMap Nat Table := {}
  freshTable : Nat := 0
  /-- The parameters of the function that is running. -/
  frame : List (String × Slot) := []
  /-- Number of parameters of all functions that are running. -/
  depth : Nat := 0
  record : Bytes := []
  /-- Whether a field has been changed since the record was put together. -/
  changed : Bool := false
  fields : Array Value := #[]
  /-- Whether the record has been divided into fields. -/
  divided : Bool := true
  patterns : Std.HashMap Bytes Regex := {}
  /-- Output that has not been passed on, the latest first. -/
  pending : List Bytes := []
  /-- Other outputs, the one used last first. -/
  outputs : List Output := []
  /-- Other inputs. -/
  inputs : List Input := []
  /-- The input that records are read from. -/
  main : Option Input := none
  /-- The next argument to read records from. -/
  argument : Nat := 1
  /-- Whether input has been chosen. -/
  chosen : Bool := false
  /-- The rules between whose two conditions the record stands. -/
  active : List Nat := []
  status : Nat := 0
  /-- What the last choice of random numbers was based on. -/
  seed : Value := .unset
  /-- How many random numbers have been given. -/
  drawn : Nat := 0

namespace Memory

/-! ### Variables -/

/-- A variable of the program as text. -/
def setting (m : Memory) (name : String) : Bytes :=
  match m.globals.get? name with
  | some (.text bs) | some (.outside bs) => bs
  | some (.number x) => x.wholeText?.getD (x.toText (Utf8.encode "%.6g"))
  | _ => []

/-- How numbers become texts. -/
def conversion (m : Memory) : Bytes := m.setting "CONVFMT"

/-- A value as text. -/
def text (m : Memory) (v : Value) : Bytes :=
  match v with
  | .unset => []
  | .text bs | .outside bs => bs
  | .number x => x.wholeText?.getD (x.toText m.conversion)

/-- A value as it is written. -/
def outputText (m : Memory) (v : Value) : Bytes :=
  match v with
  | .unset => []
  | .text bs | .outside bs => bs
  | .number x => x.wholeText?.getD (x.toText (m.setting "OFMT"))

/-- The variables that a program starts with. -/
def usualVariables : List (String × Value) :=
  let text (s : String) : Value := .text (Utf8.encode s)
  [("FS", text " "), ("RS", text "\n"), ("OFS", text " "), ("ORS", text "\n"),
    ("SUBSEP", .text [0x1C]), ("CONVFMT", text "%.6g"), ("OFMT", text "%.6g"),
    ("NR", .ofNat 0), ("FNR", .ofNat 0), ("RSTART", .ofNat 0), ("RLENGTH", .ofInt (-1)),
    ("FILENAME", text "")]

/-! ### Fields -/

/-- The divider of fields, and the memory with its pattern. -/
def divider (m : Memory) (bs : Bytes) : Except PatternFault (Divider × Memory) :=
  match m.patterns.get? bs, bs with
  | some r, _ :: _ :: _ => .ok (.pattern r, m)
  | _, _ =>
    match Divider.ofText bs with
    | .ok (.pattern r) => .ok (.pattern r, { m with patterns := m.patterns.insert bs r })
    | .ok d => .ok (d, m)
    | .error f => .error f

/-- The memory with the record divided into fields. -/
def withFields (m : Memory) : Except PatternFault Memory :=
  if m.divided then .ok m
  else do
    let (d, m) ← m.divider (m.setting "FS")
    return { m with fields := ((d.split m.record).map .outside).toArray, divided := true }

/-- The memory with the record put together. -/
def withRecord (m : Memory) : Memory :=
  if m.changed then
    let record := (m.setting "OFS").intercalate (m.fields.toList.map m.text)
    { m with record, changed := false }
  else m

/-- The memory with another record. -/
def setRecord (m : Memory) (bs : Bytes) : Memory :=
  { m with record := bs, changed := false, divided := false }

/-- The memory with another number of fields. -/
def resize (m : Memory) (n : Nat) : Memory :=
  let kept := m.fields.extract 0 n
  { m with fields := kept ++ Array.replicate (n - kept.size) (.text []), changed := true }

/-- The memory with a field changed; there may be more fields then. -/
def setField (m : Memory) (i : Nat) (v : Value) : Memory :=
  let m := if i > m.fields.size then m.resize i else m
  { m with fields := m.fields.setIfInBounds (i - 1) v, changed := true }

/-! ### Tables -/

/-- The number of a table. -/
def tableNumber? (m : Memory) (name : String) : Option Nat :=
  match m.frame.find? fun s => s.1 == name with
  | some (_, .table n) => some n
  | some (_, .value _) => none
  | none => m.tableNumbers.get? name

/-- A table. -/
def table (m : Memory) (n : Nat) : Table := m.tables.getD n .empty

/-- The memory with a table changed. -/
def setTable (m : Memory) (n : Nat) (t : Table) : Memory :=
  { m with tables := m.tables.insert n t }

/-- The memory with a new table, and its number. -/
def newTable (m : Memory) : Nat × Memory :=
  (m.freshTable,
    { m with freshTable := m.freshTable + 1, tables := m.tables.insert m.freshTable .empty })

/-- The key of values: several are joined. -/
def key (m : Memory) (vs : List Value) : Key :=
  match vs with
  | [.number x] =>
    match x.whole? with
    | some n =>
      if (Number.ofInt n).value == x.value && n.natAbs < Number.two 63 then .number n
      else .text (m.text (.number x))
    | none => .text (m.text (.number x))
  | [v] => .text (m.text v)
  | vs => .text ((m.setting "SUBSEP").intercalate (vs.map m.text))

/-! ### The start -/

/-- The memory with a table of the program filled. -/
def withTable (m : Memory) (name : String) (t : Table) : Memory :=
  let (n, m) := m.newTable
  { m.setTable n t with tableNumbers := m.tableNumbers.insert name n }

/-- The memory of a program before it runs. -/
def start (p : Program) (name : Bytes) (args : List Bytes) (env : List (String × Bytes)) :
    Memory :=
  let m : Memory :=
    { program := p, name
      functions := p.functions.foldl (fun fs d => fs.insert d.name d) {}
      globals := usualVariables.foldl (fun vs v => vs.insert v.1 v.2) {} }
  let argv := args.zipIdx.foldl (fun t (a, i) => t.set (.number i) (.outside a)) Table.empty
  let environ := env.foldl (fun t (n, v) => t.set (.text (Utf8.encode n)) (.outside v)) Table.empty
  let m := p.tables.foldl (fun m n => m.withTable n .empty) m
  let m := (m.withTable "ARGV" argv).withTable "ENVIRON" environ
  { m with globals := m.globals.insert "ARGC" (.ofNat args.length) }

end Memory

end Awk

end Shell

end FunctionIndex

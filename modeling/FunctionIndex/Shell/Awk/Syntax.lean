import FunctionIndex.Shell.Awk.Value
import FunctionIndex.Shell.Awk.Pattern

/-!
# Awk programs

A program is a list of rules: what to do before the first record, with each record for which a
pattern holds, and after the last one.  What is done is written in statements and expressions.
-/

namespace FunctionIndex

namespace Shell

namespace Awk

/-- An operation on two numbers. -/
inductive Operation where
  | add
  | subtract
  | multiply
  | divide
  | modulo
  | power
  deriving DecidableEq, Repr

/-- A comparison. -/
inductive Comparison where
  | equal
  | different
  | less
  | atMost
  | greater
  | atLeast
  deriving DecidableEq, Repr

/-- Whether a comparison holds of values in some order. -/
def Comparison.holds : Comparison → Ordering → Bool
  | equal, o => o == .eq
  | different, o => o != .eq
  | less, o => o == .lt
  | atMost, o => o != .gt
  | greater, o => o == .gt
  | atLeast, o => o != .lt

/-- A function that is always there. -/
inductive Function where
  | length
  | substr
  | index
  | split
  | match_
  | sub
  | gsub
  | sprintf
  | sin
  | cos
  | atan2
  | exp
  | log
  | sqrt
  | int
  | rand
  | srand
  | tolower
  | toupper
  | system
  | close
  | fflush
  | strftime
  | mktime
  | systime
  deriving DecidableEq, Repr

/-- An expression. -/
inductive Term where
  | number (x : Number)
  | text (bs : Bytes)
  /-- A pattern, to be looked for in the record if nothing else is said. -/
  | pattern (r : Regex)
  | variable (name : String)
  /-- An element of a table. -/
  | element (table : String) (keys : List Term)
  /-- A field of the record. -/
  | field (index : Term)
  /-- An expression in parentheses. -/
  | grouped (e : Term)
  | assign (target value : Term)
  /-- An assignment of what an operation on the old value gives. -/
  | update (op : Operation) (target value : Term)
  /-- One more or less, and whether the new value counts. -/
  | step (up new : Bool) (target : Term)
  | choose (condition yes no : Term)
  | either (a b : Term)
  | both (a b : Term)
  | negation (e : Term)
  /-- Whether a table has a key. -/
  | member (keys : List Term) (table : String)
  /-- Whether a pattern is found, or not. -/
  | found (wanted : Bool) (e pattern : Term)
  | compare (c : Comparison) (a b : Term)
  | concat (a b : Term)
  | operate (op : Operation) (a b : Term)
  | minus (e : Term)
  | plus (e : Term)
  | builtin (f : Function) (args : List Term)
  | call (name : String) (args : List Term)
  /-- Reads the next record of the input. -/
  | getline (target : Option Term)
  /-- Reads a line of a file. -/
  | getlineFrom (target : Option Term) (file : Term)
  /-- Reads a line of what a command writes. -/
  | getlineOf (target : Option Term) (command : Term)

/-- Whether something can be assigned to. -/
def Term.isTarget : Term → Bool
  | .variable _ | .element .. | .field _ => true
  | _ => false

/-- How output goes to a place other than the usual one. -/
inductive Direction where
  | overwrite
  | append
  | pipe
  deriving DecidableEq, Repr

/-- A statement. -/
inductive Statement where
  | nothing
  | evaluate (e : Term)
  | print (args : List Term) (target : Option (Direction × Term))
  | printf (args : List Term) (target : Option (Direction × Term))
  | branch (condition : Term) (yes no : Statement)
  | loop (condition : Term) (body : Statement)
  /-- A loop whose condition is looked at after each turn. -/
  | loopAfter (body : Statement) (condition : Term)
  /-- A loop with a step after each turn. -/
  | count (start : Option Term) (condition : Option Term) (step : Option Term) (body : Statement)
  /-- A loop over the keys of a table. -/
  | each (name table : String) (body : Statement)
  | block (body : List Statement)
  | leave
  | again
  | next
  | nextFile
  | exit (status : Option Term)
  | giveBack (value : Option Term)
  | delete (table : String) (keys : List Term)
  | clear (table : String)

/-- When the statements of a rule are carried out. -/
inductive Trigger where
  /-- Before the first record. -/
  | begin_
  /-- After the last record. -/
  | end_
  /-- With every record. -/
  | always
  /-- With records for which a condition holds. -/
  | when (condition : Term)
  /-- From a record for which one condition holds up to one for which another one holds. -/
  | between (first last : Term)

/-- A rule. -/
structure Rule where
  trigger : Trigger
  body : Statement

/-- A parameter of a function, and whether it stands for a table. -/
structure Parameter where
  name : String
  isTable : Bool := false

/-- A function of a program. -/
structure Definition where
  name : String
  parameters : List Parameter
  body : Statement

/-- A program. -/
structure Program where
  rules : List Rule := []
  functions : List Definition := []
  /-- The names of its tables, those of functions apart. -/
  tables : List String := []

end Awk

end Shell

end FunctionIndex

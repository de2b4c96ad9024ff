import FunctionIndex.Shell.Awk.Function

/-!
# Running awk programs

One layer of evaluation is written on top of an evaluator of the parts; the whole evaluator is
made of so many layers, which bounds how deep expressions, statements and calls can be nested.
-/

namespace FunctionIndex

namespace Shell

namespace Awk

open Json (octet isDigit)

/-- Carries out a statement. -/
abbrev Runner := Statement → Step Unit

namespace Step

/-! ### The records -/

/-- The variable that an argument sets, and its value. -/
def assignment? (bs : Bytes) : Option (String × Value) :=
  let name := bs.takeWhile (· != octet '=')
  let value := bs.drop (name.length + 1)
  if isName name && name.length < bs.length then
    some (asciiText name, .outside (unescaped (value.length + 1) value))
  else none

/-- An argument of the program. -/
def argument (i : Nat) : Step Bytes := do
  match (← memory).tableNumbers.get? "ARGV" with
  | none => return []
  | some n =>
    onTable n fun t => t.look false (.number i)
    let m ← memory
    return m.text ((m.table n).value (.number i))

/-- Starts to read records from an input. -/
def choose (i : Input) : Step Unit := do
  modify fun m => { m with main := some i, chosen := true }
  setGlobal "FILENAME" (.text i.name)
  setGlobal "FNR" (.ofNat 0)

/-- Chooses the next input among the arguments; those that set variables do so.  False if there is
none left. -/
def chooseNext : Nat → Step Bool
  | 0 => return false
  | fuel + 1 => do
    let m ← memory
    let count := ((m.globals.getD "ARGC" .unset).toNumber.whole?.getD 0).toNat
    if m.argument ≥ count then
      if m.chosen then return false
      else
        choose { name := [octet '-'], rest := [], live := true }
        return true
    else
      let bs ← argument m.argument
      modify fun m => { m with argument := m.argument + 1 }
      if bs.isEmpty then chooseNext fuel
      else
        match assignment? bs with
        | some (name, v) =>
          setGlobal name v
          chooseNext fuel
        | none =>
          match ← openInput bs with
          | .ok i =>
            choose i
            return true
          | .error (.system .isDirectory) => die s!"read error ({SystemError.isDirectory.wording})"
          | .error e => die s!"cannot open \"{Utf8.lossy bs}\" ({Work.wording e})"

/-- The most inputs that are passed over to find a record. -/
def maxInputs : Nat := 100000

/-- The next record of the input. -/
def mainRecord : Nat → Step (Option Bytes)
  | 0 => return none
  | fuel + 1 => do
    match (← memory).main with
    | none => if ← chooseNext maxInputs then mainRecord fuel else return none
    | some i =>
      let (bs, i) ← nextRecord i
      match bs with
      | some bs =>
        modify fun m => { m with main := some i }
        for name in ["NR", "FNR"] do
          let n := ((← memory).globals.getD name .unset).toNumber
          setGlobal name (.number (.combine (· + ·) n (.ofNat 1)))
        return some bs
      | none =>
        modify fun m => { m with main := none }
        mainRecord fuel

/-! ### Expressions -/

/-- The result of an operation. -/
def operated : Operation → Number → Number → Number
  | .add => .combine (· + ·)
  | .subtract => .combine (· - ·)
  | .multiply => .combine (· * ·)
  | .divide => .combine (· / ·)
  | .modulo => .remainder
  | .power => .combine Float.pow

/-- Stores what has been read: in a place, or as the record. -/
def keep (ev : Evaluator) (target : Option Term) (bs : Bytes) : Step Unit := do
  match target with
  | none => modify fun m => m.setRecord bs
  | some t => setAt (← locate ev t) (.outside bs)

/-- Stores what has been read from somewhere; one if there was something, zero if not, and minus
one if it cannot be read. -/
def kept (ev : Evaluator) (target : Option Term) : Option (Option Bytes) → Step Value
  | none => return .ofInt (-1)
  | some none => return .ofNat 0
  | some (some bs) => do
    keep ev target bs
    return .ofNat 1

/-- The most parameters that calls under way can have. -/
def maxParameters : Nat := 1004

/-- What a parameter is given; a table that it does not share is new. -/
def handOver (ev : Evaluator) (p : Parameter) (arg : Option Term) :
    Step ((String × Slot) × Option Nat) := do
  if p.isTable then
    match arg with
    | some (.variable name) => return ((p.name, .table (← tableOf name)), none)
    | _ =>
      let (n, m) := (← memory).newTable
      set m
      return ((p.name, .table n), some n)
  else
    let v ← match arg with
      | some e => ev e
      | none => pure .unset
    return ((p.name, .value v), none)

/-- Calls a function of the program. -/
def call (ev : Evaluator) (run : Runner) (f : String) (args : List Term) : Step Value := do
  match (← memory).functions.get? f with
  | none => return .unset
  | some d =>
    let slots ← d.parameters.zipIdx.mapM fun (p, i) => handOver ev p args[i]?
    let m ← memory
    if m.depth + slots.length > maxParameters then
      die "program limit exceeded: eval stack size=1024"
    set { m with frame := slots.map Prod.fst, depth := m.depth + slots.length }
    let result ← tryCatch (do run d.body; return .unset) fun
      | .giveBack v => return v
      | l => throw l
    let own := slots.filterMap Prod.snd
    modify fun now =>
      { now with frame := m.frame, depth := m.depth
                 tables := own.foldl (fun ts n => ts.erase n) now.tables }
    return result

/-- The value of an expression, by the values of its parts. -/
def evaluate (start : Run.Starter) (ev : Evaluator) (run : Runner) : Evaluator
  | .number x => return .number x
  | .text bs => return .text bs
  | .pattern r => do return .ofBool (r.search? (← record).toArray 0).isSome
  | .variable name => variable_ name
  | .element name keys => do
    let k ← keyOf ev keys
    valueOf (← tableOf name) k
  | .field i => do field (← indexOf (← ev i))
  | .grouped e => ev e
  | .assign target e => do
    let l ← locate ev target
    let v ← ev e
    setAt l v
    return v
  | .update op target e => do
    let l ← locate ev target
    let v ← ev e
    let old ← valueAt l
    let new : Value := .number (operated op old.toNumber v.toNumber)
    setAt l new
    return new
  | .step up new target => do
    let l ← locate ev target
    let old := (← valueAt l).toNumber
    let next := operated (if up then .add else .subtract) old (.ofNat 1)
    setAt l (.number next)
    return .number (if new then next else old)
  | .choose c yes no => do
    let v ← ev c
    if v.isTrue then ev yes else ev no
  | .either a b => do
    let v ← ev a
    if v.isTrue then return .ofBool true else return .ofBool (← ev b).isTrue
  | .both a b => do
    let v ← ev a
    if v.isTrue then return .ofBool (← ev b).isTrue else return .ofBool false
  | .negation e => do return .ofBool !(← ev e).isTrue
  | .member keys name => do
    let k ← keyOf ev keys
    let n ← tableOf name
    onTable n fun t => t.look false k
    return .ofBool (((← memory).table n).contains k)
  | .found wanted e pattern => do
    let bs ← textOf ev e
    let r ← patternOf ev pattern
    return .ofBool ((r.search? bs.toArray 0).isSome == wanted)
  | .compare c a b => do
    let x ← ev a
    let y ← ev b
    return .ofBool (c.holds (x.order (← memory).conversion y))
  | .concat a b => do
    let x ← textOf ev a
    let y ← textOf ev b
    return .text (x ++ y)
  | .operate op a b => do
    let x ← ev a
    let y ← ev b
    return .number (operated op x.toNumber y.toNumber)
  | .minus e => do return .number (← ev e).toNumber.negate
  | .plus e => do return .number (← ev e).toNumber
  | .builtin f args => builtin start ev f args
  | .call f args => call ev run f args
  | .getline target => do
    match ← mainRecord maxInputs with
    | none => return .ofNat 0
    | some bs => kept ev target (some (some bs))
  | .getlineFrom target file => do
    let name ← textOf ev file
    kept ev target (← readFrom start false name)
  | .getlineOf target command => do
    let name ← textOf ev command
    kept ev target (← readFrom start true name)

/-! ### Statements -/

/-- The most turns of a loop; one that takes more never ends. -/
def maxTurns : Nat := 2000000

/-- Repeats something as long as it says so. -/
def cycle : Nat → Step Bool → Step Unit
  | 0, _ => stuck
  | n + 1, turn => do
    if ← turn then cycle n turn

/-- Carries out the body of a loop; false if the loop ends there. -/
def turn (run : Runner) (body : Statement) : Step Bool :=
  tryCatch (do run body; return true) fun
    | .leave => return false
    | .again => return true
    | l => throw l

/-- Whether a condition holds; one that is missing does. -/
def holds (ev : Evaluator) : Option Term → Step Bool
  | none => return true
  | some c => do return (← ev c).isTrue

/-- Evaluates an expression that may be missing. -/
def evaluateIf (ev : Evaluator) : Option Term → Step Unit
  | none => return
  | some e => do let _ ← ev e

/-- Carries out the body of a loop with each key of a table. -/
def eachKey (run : Runner) (name : String) (body : Statement) : List Bytes → Step Unit
  | [] => return
  | k :: ks => do
    setVariable name (.text k)
    if ← turn run body then eachKey run name body ks

/-- Where output goes to. -/
def destination (ev : Evaluator) :
    Option (Direction × Term) → Step (Option (Direction × Bytes))
  | none => return none
  | some (d, e) => do return some (d, ← textOf ev e)

/-- Carries out a statement, by a way to carry out its parts. -/
def perform (ev : Evaluator) (run : Runner) : Runner
  | .nothing => return
  | .evaluate e => do let _ ← ev e
  | .print args target => do
    let vs ← args.mapM ev
    let d ← destination ev target
    let whole ← if vs.isEmpty then record else pure []
    let m ← memory
    let bs := if vs.isEmpty then whole else (m.setting "OFS").intercalate (vs.map m.outputText)
    write d (bs ++ m.setting "ORS")
  | .printf args target => do
    let vs ← args.mapM ev
    let d ← destination ev target
    let (bs, wrong) ← formatWith "printf" vs
    write d bs
    match wrong with
    | some m => fault m
    | none => return
  | .branch c yes no => do
    let v ← ev c
    if v.isTrue then run yes else run no
  | .loop c body =>
    cycle maxTurns do
      let v ← ev c
      if v.isTrue then turn run body else return false
  | .loopAfter body c =>
    cycle maxTurns do
      let goesOn ← turn run body
      if goesOn then return (← ev c).isTrue else return false
  | .count first c step body => do
    evaluateIf ev first
    cycle maxTurns do
      if ← holds ev c then
        let goesOn ← turn run body
        if goesOn then evaluateIf ev step
        return goesOn
      else return false
  | .each name table body => do
    let n ← tableOf table
    onTable n Table.listed
    eachKey run name body ((← memory).table n).keys
  | .block body => body.forM run
  | .leave => throw .leave
  | .again => throw .again
  | .next => throw .next
  | .nextFile => throw .nextFile
  | .exit e => do
    match e with
    | some e =>
      let v ← ev e
      let n := ((v.toNumber.whole?.getD 0) % 256).toNat
      modify fun m => { m with status := n }
    | none => pure ()
    throw .exit
  | .giveBack e => do
    match e with
    | some e => throw (.giveBack (← ev e))
    | none => throw (.giveBack .unset)
  | .delete table keys => do
    let k ← keyOf ev keys
    let n ← tableOf table
    onTable n fun t => t.erase k
  | .clear table => do
    let n ← tableOf table
    onTable n fun _ => .empty

mutual

/-- The value of an expression, `fuel` layers deep. -/
def eval (start : Run.Starter) : Nat → Evaluator
  | 0, _ => stuck
  | fuel + 1, e => evaluate start (eval start fuel) (exec start fuel) e

/-- Carries out a statement, `fuel` layers deep. -/
def exec (start : Run.Starter) : Nat → Runner
  | 0, _ => stuck
  | fuel + 1, s => perform (eval start fuel) (exec start fuel) s

end

/-! ### Rules -/

/-- Number of layers. -/
def maxLayers : Nat := 20000

/-- Whether a rule applies to the record. -/
def applies (ev : Evaluator) (i : Nat) : Trigger → Step Bool
  | .begin_ | .end_ => return false
  | .always => return true
  | .when c => do return (← ev c).isTrue
  | .between first last => do
    let inside ← if (← memory).active.contains i then pure true else do
      let v ← ev first
      if v.isTrue then modify fun m => { m with active := i :: m.active }
      pure v.isTrue
    if inside then
      let v ← ev last
      if v.isTrue then modify fun m => { m with active := m.active.filter (· != i) }
    return inside

/-- Applies the rules to the record. -/
def applyRules (ev : Evaluator) (run : Runner) (rules : List (Rule × Nat)) : Step Unit :=
  rules.forM fun (r, i) => do
    if ← applies ev i r.trigger then run r.body

/-- Takes the next record and applies the rules to it; false if there is none. -/
def takeRecord (ev : Evaluator) (run : Runner) (rules : List (Rule × Nat)) : Step Bool := do
  match ← mainRecord maxInputs with
  | none => return false
  | some bs =>
    modify fun m => m.setRecord bs
    tryCatch (do applyRules ev run rules; return true) fun
      | .next => return true
      | .nextFile => do
        modify fun m => { m with main := none }
        return true
      | l => throw l

/-- Does something until the program is to end. -/
def untilExit (s : Step Unit) : Step Bool :=
  tryCatch (do s; return true) fun
    | .exit => return false
    | l => throw l

/-- Runs a program. -/
def runProgram (start : Run.Starter) : Step Unit := do
  let rules := (← memory).program.rules
  let ev := eval start maxLayers
  let run := exec start maxLayers
  let isFirst (r : Rule) : Bool := match r.trigger with
    | .begin_ => true
    | _ => false
  let isLast (r : Rule) : Bool := match r.trigger with
    | .end_ => true
    | _ => false
  let goesOn ← untilExit ((rules.filter isFirst).forM fun r => run r.body)
  if rules.any fun r => !isFirst r then
    if goesOn then
      let _ ← untilExit (cycle maxTurns (takeRecord ev run rules.zipIdx))
    let _ ← untilExit ((rules.filter isLast).forM fun r => run r.body)

/-- Runs a program to its end; how it ends. -/
def toEnd (start : Run.Starter) : Step ExitStatus := do
  let halted : Option ExitStatus ← tryCatch (do runProgram start; return none) fun
    | .halt s => return some s
    | _ => return none
  match halted with
  | some (.signal n) => return .signal n
  | _ =>
    finish start
    match halted with
    | some s => return s
    | none => return .code (← memory).status

end Step

/-- Runs a program with some memory; how it ends. -/
def Memory.run (start : Run.Starter) (prepare : Step Unit) (m : Memory) : Run ExitStatus := do
  let work : Step ExitStatus := do
    prepare
    Step.toEnd start
  let (result, _) ← work.run.run m
  match result with
  | .ok s => return s
  | .error (.halt s) => return s
  | .error _ => return .code 2

end Awk

end Shell

end FunctionIndex

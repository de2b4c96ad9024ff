import FunctionIndex.Shell.Start

/-!
# Running commands

`evalWith` says what each kind of command does.  It is given an evaluator for the commands inside
the command; `eval` ties the knot, with a bound on the nesting.

A shell can be asked to end as soon as a command fails.  Commands whose failure is looked at by
another one, such as a condition, are exempt: the flag `tested` says so.
-/

namespace FunctionIndex

namespace Shell

open Json (octet isDigit)

namespace Run

/-- Ends the shell after a command that has killed it, or has failed while the shell is asked to
end then and nobody looks at the failure. -/
def endOnFailure (tested : Bool) : Run Unit := do
  dieIfKilled
  let p ← process
  if !tested && p.status != 0 && p.options.contains 'e' then throw .exit

/-- Sets the line of the command under way. -/
def atLine (line : Nat) : Run Unit := setProcess fun p => { p with line }

/-! ### Programs -/

/-- The status after a program that could not be started. -/
def startStatus (e : SystemError) : Nat :=
  if e = .notFound || e = .notDirectory || e = .tooManyLinks || e = .nameTooLong then 127 else 126

/-- Says that a program could not be started. -/
def startFailed (name : Bytes) (e : SystemError) : Run Unit := do
  let why := if e = .notFound || e = .notDirectory then "not found" else e.wording
  warn s!"{Utf8.lossy name}: {why}"
  setStatus (startStatus e)

/-- Whether the first line of a file holds something that no script does. -/
def isBinary (contents : Bytes) : Bool :=
  (contents.takeWhile (· != newline)).any fun b => (b < 0x20 && !isWhite b) || b == 0x7F

/-- Starts a program; a file that is no program is taken for a script. -/
def startProgram (ev : Evaluator) (p : Bytes) (argv : List Bytes) :
    Run (Except SystemError ExitStatus) := do
  match ← start ev maxStarters p argv with
  | .error e =>
    if e = .notExecutable then
      match (← disk).read ⟨p⟩ with
      | .ok bs =>
        if isBinary bs then return .error e
        else return .ok (← shell ev (Utf8.encode "/bin/sh" :: p :: argv.tail))
      | .error _ => return .error e
    else return .error e
  | .ok s => return .ok s

/-- Starts the first of some files that can be started. -/
def startAmong (ev : Evaluator) (argv : List Bytes) (e : SystemError) :
    List Bytes → Run (Except SystemError ExitStatus)
  | [] => return .error e
  | p :: ps => do
    match ← startProgram ev p argv with
    | .ok s => return .ok s
    | .error f => startAmong ev argv (if f = .notFound || f = .notDirectory then e else f) ps

/-- The files that may be the program of a name, the first of which is the likely one.  With
`usual`, nothing that has been set or found before counts. -/
def programFiles (usual : Bool) (name : Bytes) : Run (Except SystemError (List Bytes)) := do
  if name.contains Path.slash then return .ok [name]
  else
    let path ← if usual then pure usualPath else searchPath
    let candidates := candidatesIn path name
    let found ← if usual then pure (programAmong (← disk) candidates) else search name
    return found.map fun p => candidates.dropWhile (· != p)

/-- Runs a program and waits for it. -/
def external (ev : Evaluator) (usual : Bool) (argv : List Bytes) : Run Unit := do
  let name := argv.headD []
  match ← programFiles usual name with
  | .error e =>
    startFailed name e
    setStatus 127
  | .ok files =>
    match ← startAmong ev argv .notFound files with
    | .error e => startFailed name e
    | .ok s =>
      dieIfKilled
      obituary s
      childEnded
      setStatus (statusOf s)

/-- Puts a program in place of the shell. -/
def replaceBy (ev : Evaluator) (argv : List Bytes) : Run Nat := do
  let name := argv.headD []
  let files ← if name.contains Path.slash then pure [name]
    else do pure (candidatesIn (← searchPath) name)
  match ← startAmong ev argv .notFound files with
  | .error e => startFailed name e
  | .ok (.code n) =>
    setProcess fun p => { p with traps := [] }
    setStatus n
  | .ok (.signal n) => throw (.die n)
  throw .exit

/-! ### Names of commands -/

/-- What a name stands for. -/
inductive Meaning where
  | keyword
  | text (value : Bytes)
  | function (body : Command)
  | special
  | builtin
  /-- A program, and whether it was known before where it is. -/
  | program (p : Bytes) (known : Bool)

/-- What a name stands for if it is that of a program. -/
def programMeaning? (usual : Bool) (name : Bytes) : Run (Option Meaning) := do
  if name.contains Path.slash then
    return if ((← disk).stat ⟨name⟩).toBool then some (.program name false) else none
  else
    let known ← if usual then pure none else remembered? name
    match known with
    | some f => return some (.program f.path true)
    | none =>
      match ← programFiles usual name with
      | .ok (p :: _) => return some (.program p false)
      | _ => return none

/-- What a name stands for. -/
def meaning? (usual : Bool) (name : Bytes) : Run (Option Meaning) := do
  let p ← process
  let s := asciiText name
  if Token.keywords.contains s then return some .keyword
  else
    match p.aliases.find? fun a => a.1 == name, p.functions.find? fun f => f.1 == name with
    | some (_, value), _ => return some (.text value)
    | none, some (_, body) => return some (.function body)
    | none, none =>
      if specialBuiltins.contains s then return some .special
      else if Builtin.isBuiltin name then return some .builtin
      else programMeaning? usual name

/-- Says what names stand for; with `short`, in a form that can be used as a command. -/
def describe (short usual : Bool) (names : List Bytes) : Run Nat := do
  let results ← names.mapM fun n => do
    let name := Utf8.lossy n
    let say (long : String) : Run Nat :=
      Builtin.out (Utf8.encode ((if short then name else s!"{name} is {long}") ++ "\n"))
    match ← meaning? usual n with
    | some .keyword => say "a shell keyword"
    | some (.text v) =>
      if short then Builtin.out (Utf8.encode "alias " ++ Builtin.aliasText (n, v))
      else say s!"an alias for {Utf8.lossy v}"
    | some (.function _) => say "a shell function"
    | some .special => say "a special shell builtin"
    | some .builtin => say "a shell builtin"
    | some (.program p known) =>
      let word := if known then "a tracked alias for " else ""
      Builtin.out (if short then p ++ [newline]
        else Utf8.encode s!"{name} is {word}{Utf8.lossy p}\n")
    | none =>
      if !short then
        let _ ← Builtin.out (Utf8.encode s!"{name}: not found\n")
      return 127
  return results.foldl max 0

/-- Looks for programs anew, or lists those that have been found. -/
def hash : Builtin := Builtin.withFlags "r" fun flags names => do
  if flags.contains 'r' then
    setProcess fun p => { p with found := [] }
    return 0
  else if names.isEmpty then Builtin.listFound
  else
    let results ← names.mapM fun n => do
      let defined := (← process).functions.any fun f => f.1 == n
      if defined || Builtin.isBuiltin n then return 0
      else
        forgetProgram n
        match ← programFiles false n with
        | .ok _ => return 0
        | .error e =>
          startFailed n e
          return 1
    return results.foldl max 0

/-- Looks for the program of a command, if its name is plain, before it gets a shell of its own. -/
def lookAhead : Command → Run Unit
  | .simple _ _ ([.text name false] :: _) _ | .sequence [.simple _ _ ([.text name false] :: _) _] => do
    let defined := (← process).functions.any fun f => f.1 == name
    if isName name && !defined && !Builtin.isBuiltin name then
      let _ ← search name
  | _ => return

/-! ### Commands that run others -/

/-- Runs something as a function or file, which it may leave. -/
def leaving (r : Run Unit) : Run Unit := do
  match ← attempt r with
  | .ok () | .error .giveBack => return
  | .error j => throw j

/-- Runs a text as if it stood in place of the command; it may come from a file with the given
lines. -/
def evalText (ev : Evaluator) (tested : Bool) (lines : List Bytes) (bs : Bytes) : Run Nat := do
  if ← script ev tested lines bs then return (← process).status
  else return 0

/-- The file that a name of a script stands for. -/
def sourcePath (name : Bytes) : Run Bytes := do
  if name.contains Path.slash then return name
  else
    match findIn (← disk) (← searchPath) name with
    | some p => return p
    | none => refuse s!"{Utf8.lossy name}: not found"

/-- Runs a file as if it stood in place of the command. -/
def source (ev : Evaluator) : Builtin := Builtin.withoutFlags fun args => do
  match args with
  | [] => return 0
  | name :: _ =>
    let bs ← scriptFile (← sourcePath name)
    setProcess fun p => { p with command := some name }
    leaving do
      let _ ← evalText ev false (wholeLines bs) bs
    return (← process).status

/-- The command of the shell under a name that runs other commands. -/
def runningBuiltin? (ev : Evaluator) (tested : Bool) (name : String) : Option Builtin :=
  match name with
  | "eval" => some fun args => evalText ev tested [] ([0x20].intercalate args)
  | "." => some (source ev)
  | "exec" => some fun args => if args.isEmpty then return 0 else replaceBy ev args
  | "command" => some (Builtin.withFlags "pvV" fun flags args =>
    let asked := flags.any (· != 'p')
    if asked then describe (!flags.contains 'V') (flags.contains 'p') (args.take 1) else return 0)
  | "hash" => some hash
  | "type" => some (describe false false)
  | _ => none

/-- Runs a command of the shell.  An error in a special one ends the shell. -/
def builtin (special : Bool) (name : Bytes) (b : Builtin) (args : List Bytes) : Run Unit := do
  let outer := (← process).command
  setProcess fun p => { p with command := some name }
  let r ← attempt (b args)
  setProcess fun p => { p with command := outer }
  match r with
  | .ok n => setStatus n
  | .error .error => if special then throw .error
  | .error j => throw j

/-- Greatest nesting of functions. -/
def maxDepth : Nat := 1000

/-- Brings variables back. -/
def restore (saved : List (String × Option Variable)) : Run Unit :=
  saved.forM fun (name, v) => do
    setVariable name v
    if name == "OPTIND" then
      takeOptionsFrom (((v.bind Variable.value).bind natural?).getD 1)
    else if name == "PATH" then setProcess fun p => { p with found := [] }

/-- Calls a function. -/
def callFunction (ev : Evaluator) (tested : Bool) (body : Command) (args : List Bytes) :
    Run Unit := do
  let outer ← process
  if outer.depth ≥ maxDepth then
    refuse s!"Maximum function recursion depth ({maxDepth}) reached"
  else
    setProcess fun p =>
      { p with params := args, locals := [], localOptions := none, depth := p.depth + 1,
               loops := 0, optionIndex := 1, optionOffset := 0 }
    let r ← attempt (leaving (ev tested body))
    restore (← process).locals
    setProcess fun p =>
      { p with params := outer.params, locals := outer.locals, depth := outer.depth,
               loops := outer.loops, optionIndex := outer.optionIndex,
               optionOffset := outer.optionOffset,
               options := p.localOptions.getD p.options, localOptions := outer.localOptions }
    match r with
    | .ok () => return
    | .error j => throw j

/-! ### Simple commands -/

/-- Commands that take assignments as arguments. -/
def declarations : List String := ["export", "readonly", "local"]

/-- The fields of words.  After the name of a command that takes assignments, a word that is one
stays whole. -/
def arguments (ev : Evaluator) : List Word → List Bytes → Run (List Bytes)
  | [], done => return done
  | w :: ws, done => do
    let declares := declarations.contains (asciiText (done.headD []))
    match if declares then assignment? w else none with
    | some (name, value) =>
      let bs ← valueOf ev value
      arguments ev ws (done ++ [Utf8.encode name ++ octet '=' :: bs])
    | none => do arguments ev ws (done ++ (← fields ev w))

/-- The mark before commands that are shown. -/
def traceMark (ev : Evaluator) : Run Bytes := do
  let text := (← value? "PS4").getD []
  match Word.ofText? (← world).fresh text with
  | some w => documentOf ev w
  | none => return text

/-- Shows a command before it is run. -/
def trace (ev : Evaluator) (ws : List Bytes) : Run Unit := do
  if (← option 'x') && !ws.isEmpty then
    let mark ← traceMark ev
    let _ ← write 2 (mark ++ [0x20].intercalate ws ++ [newline])

/-- Sets variables one after the other; their settings as text. -/
def assignAll (ev : Evaluator) (exported : Bool) (as : List (String × Word)) :
    Run (List Bytes) :=
  as.mapM fun (name, w) => do
    let bs ← valueOf ev w
    assign name bs
    if exported then
      setVariable name (some { (← lookup? name).getD {} with exported := true })
    return Utf8.encode name ++ octet '=' :: bs

/-- Sets variables while something runs. -/
def withVariables (ev : Evaluator) (as : List (String × Word)) (args : List Bytes)
    (r : Run Unit) : Run Unit := do
  let saved ← as.mapM fun (name, _) => do return (name, ← lookup? name)
  let shown ← assignAll ev true as
  trace ev (shown ++ args)
  let result ← attempt r
  restore saved
  match result with
  | .ok () => return
  | .error j => throw j

/-- The arguments of a command after `command` and its options, whether functions are passed over,
and whether programs are looked for at the usual places only. -/
structure Plain where
  passOver : Bool := false
  usual : Bool := false
  /-- What has been taken. -/
  lead : List Bytes := []
  argv : List Bytes

/-- Takes `command` from the front of arguments. -/
def plain : Nat → Plain → Plain
  | 0, x => x
  | fuel + 1, x =>
    match x.argv with
    | name :: rest =>
      if asciiText name != "command" then x
      else
        let paths := rest.takeWhile fun a =>
          a.length > 1 && a.head? == some (octet '-') && a.tail.all (· == octet 'p')
        let after := rest.drop paths.length
        let ended := after.head? == some (Utf8.encode "--")
        let after := if ended then after.tail else after
        match after with
        | [] => x
        | a :: _ =>
          if !ended && a.head? == some (octet '-') && a.length > 1 then x
          else
            let lead := x.lead ++ x.argv.take (x.argv.length - after.length)
            plain fuel { passOver := true, usual := !paths.isEmpty, lead, argv := after }
    | [] => x

/-- Runs a command that has been expanded. -/
def dispatch (ev : Evaluator) (tested special : Bool) (x : Plain) : Run Unit := do
  match x.argv with
  | [] => setStatus 0
  | name :: args =>
    let p ← process
    let functions := if x.passOver then [] else p.functions
    match functions.find? fun f => f.1 == name with
    | some (_, body) =>
      stay
      callFunction ev tested body args
    | none =>
      match (runningBuiltin? ev tested (asciiText name)).orElse fun _ => Builtin.find? name with
      | some b =>
        stay
        builtin special name b args
      | none => external ev x.usual x.argv

/-- Runs a command with its redirections and assignments in effect. -/
def perform (ev : Evaluator) (tested special : Bool) (goals : List (Nat × Goal))
    (as : List (String × Word)) (x : Plain) : Run Unit := do
  if !(← redirect true goals) then
    setStatus 2
    if special then throw .error
  else if x.argv.isEmpty then
    let shown ← assignAll ev false as
    trace ev shown
    setStatus (← process).innerStatus
  else if special then
    let shown ← assignAll ev false as
    trace ev (shown ++ x.lead ++ x.argv)
    dispatch ev tested special x
  else withVariables ev as (x.lead ++ x.argv) (dispatch ev tested special x)

/-- Runs a simple command. -/
def simple (ev : Evaluator) (tested : Bool) (line : Nat) (as : List (String × Word))
    (ws : List Word) (rs : List Redirect) : Run Unit := do
  setProcess fun p => { p with line, innerStatus := 0 }
  let argv ← arguments ev ws []
  let x := plain (argv.length + 1) { argv }
  let name := asciiText (x.argv.headD [])
  let special := !x.passOver && specialBuiltins.contains name
  let goals ← rs.mapM (goalOf ev)
  if name == "exec" && x.argv.length == 1 then perform ev tested special goals as x
  else keepingDescriptors (perform ev tested special goals as x)
  endOnFailure tested

/-! ### Compound commands -/

/-- How a round of a loop ended. -/
inductive Round where
  | normal
  | leave
  | again
  deriving DecidableEq

/-- Runs a part of a loop. -/
def round (r : Run Unit) : Run Round := do
  match ← attempt r with
  | .ok () => return .normal
  | .error (.leave n) => if n ≤ 1 then return .leave else throw (.leave (n - 1))
  | .error (.again n) => if n ≤ 1 then return .again else throw (.again (n - 1))
  | .error j => throw j

/-- Runs something inside one more loop. -/
def inLoop (r : Run Unit) : Run Unit := do
  let outer := (← process).loops
  setProcess fun p => { p with loops := outer + 1 }
  let result ← attempt r
  setProcess fun p => { p with loops := outer }
  match result with
  | .ok () => return
  | .error j => throw j

/-- Greatest number of rounds of a loop. -/
def maxRounds : Nat := 1000000

/-- Runs a loop; the status so far. -/
def loop (ev : Evaluator) (tested until_ : Bool) (condition body : Command) :
    Nat → Nat → Run Unit
  | 0, _ => throw (.die 9)
  | fuel + 1, status => do
    match ← round (ev true condition) with
    | .leave => setStatus 0
    | .again => loop ev tested until_ condition body fuel status
    | .normal =>
      if ((← process).status == 0) == until_ then setStatus status
      else
        match ← round (ev tested body) with
        | .leave => return
        | .again | .normal => loop ev tested until_ condition body fuel (← process).status

/-- Runs a body once for each value of a variable. -/
def each (ev : Evaluator) (tested : Bool) (name : String) (body : Command) :
    List Bytes → Run Unit
  | [] => return
  | v :: vs => do
    assign name v
    match ← round (ev tested body) with
    | .leave => return
    | .again | .normal => each ev tested name body vs

/-- The command of the first arm with a pattern that matches. -/
def chosen? (ev : Evaluator) (subject : Bytes) :
    List (List Word × Command) → Run (Option Command)
  | [] => return none
  | (patterns, body) :: arms => do
    let hit ← patterns.anyM fun w => do return matchGlobs (← patternOf ev w) subject
    if hit then return some body else chosen? ev subject arms

/-- Number of commands that may be run to feed others. -/
def maxFeeding : Nat := 100000

/-- Runs something with a part of the budget only: what it writes is read by others, who will not
wait for ever. -/
def feeding {α : Type} (r : Run α) : Run α := do
  let all := (← world).budget
  let part := min all maxFeeding
  setWorld fun w => { w with budget := part }
  let a ← r
  setWorld fun w => { w with budget := all - (part - w.budget) }
  return a

/-- Runs commands that feed each other; the first one reads from `input`, or what the shell
reads from. -/
def feed (ev : Evaluator) (input : Option Nat) : List Command → Run Unit
  | [] => return
  | c :: cs => do
    lookAhead c
    let out ← if cs.isEmpty then pure none else some <$> addFile (.sink [])
    let plug : Run Unit := do
      match input with
      | some n => point 0 (some n)
      | none => pure ()
      match out with
      | some n => point 1 (some n)
      | none => pure ()
    let run := subshell ev false plug c
    let status ← if cs.isEmpty then run else feeding run
    obituary status
    match out with
    | none => setStatus (statusOf status)
    | some n =>
      match (← world).files[n]? with
      | some (.sink pieces) => setFile n (.input (Written.gather pieces))
      | _ => pure ()
      feed ev (some n) cs

/-- Runs a command without waiting for it: it runs to its end at once, and the clock is set back
then. -/
def background (ev : Evaluator) (c : Command) : Run Unit := do
  let nul ← addFile .null
  let began := (← world).now
  let pid := (← world).lastPid + 1
  let apart : Run Unit := do
    point 0 (some nul)
    setProcess fun p => { p with ignored := [2, 3] ++ p.ignored }
  let status ← subshell ev false apart c
  let w ← world
  let job : Job := { pid, lastPid := w.lastPid, status, ends := w.now }
  setWorld fun w => { w with now := began }
  setProcess fun p => { p with lastJob := some pid, jobs := job :: p.jobs, status := 0 }

/-- What happens when no more commands may be run: time passes up to the next deadline, or the
process ends. -/
def runOut : Run Unit := do
  if (← world).deadlines.isEmpty then throw (.die 13)
  let _ ← pass forever
  setWorld fun w => { w with budget := maxFeeding }

end Run

open Shell.Run in
/-- Runs a command, given an evaluator for the commands inside it. -/
def evalWith (ev : Evaluator) (tested : Bool) (c : Command) : Run Unit := do
  if (← world).budget = 0 then runOut
  setWorld fun w => { w with budget := w.budget - 1 }
  handleSignals ev
  if ← option 'n' then return
  match c with
  | .nothing => pure ()
  | .simple line as ws rs => simple ev tested line as ws rs
  | .pipeline cs =>
    feed ev none cs
    endOnFailure tested
  | .negated c =>
    ev true c
    setStatus (if (← process).status == 0 then 1 else 0)
  | .both a b =>
    ev true a
    if (← process).status == 0 then ev tested b
  | .either a b =>
    ev true a
    if (← process).status != 0 then ev tested b
  | .sequence cs => cs.forM (ev tested)
  | .background c => background ev c
  | .subshell line c rs =>
    atLine line
    let goals ← rs.mapM (goalOf ev)
    let plug : Run Unit := do
      if !(← redirect false goals) then
        setStatus 2
        throw .exit
    let status ← subshell ev tested plug c
    obituary status
    setStatus (statusOf status)
    endOnFailure tested
  | .redirected line c rs =>
    atLine line
    let goals ← rs.mapM (goalOf ev)
    keepingDescriptors do
      if ← redirect true goals then ev tested c
      else
        setStatus 2
        endOnFailure tested
  | .choice condition yes no =>
    ev true condition
    if (← process).status == 0 then ev tested yes
    else
      match no with
      | .nothing => setStatus 0
      | no => ev tested no
  | .loop until_ condition body =>
    inLoop (loop ev tested until_ condition body maxRounds 0)
  | .each line name words body =>
    atLine line
    let values ← match words with
      | some ws => do pure (← ws.mapM (fields ev)).flatten
      | none => do pure (← process).params
    if values.isEmpty then setStatus 0
    inLoop (each ev tested name body values)
  | .select line subject arms =>
    atLine line
    let bs ← textOf ev subject
    match ← chosen? ev bs arms with
    | some .nothing => setStatus 0
    | some body => ev tested body
    | none => setStatus 0
  | .define _ name body =>
    setProcess fun p =>
      { p with functions := (name, body) :: p.functions.filter fun f => f.1 != name, status := 0 }
  handleSignals ev

/-- Runs a command; commands are nested at most `depth` deep. -/
def eval : Nat → Evaluator
  | 0, _, _ => throw (.die 11)
  | depth + 1, tested, c => evalWith (eval depth) tested c

end Shell

end FunctionIndex

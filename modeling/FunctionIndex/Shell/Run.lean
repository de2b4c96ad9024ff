import FunctionIndex.Shell.Eval

/-!
# Programs on a host

The programs of a host whose files are known: those of the system, which `install` puts into a
directory tree, and scripts among the files.

A converter is a program of the host, most often a script that stands beside the files it converts.
A command line is carried out as a function of its host, and nothing of it is handed to the
operating system, so the programs that it names are carried out in the same way: on the directory
tree, by the shell and the utilities of the system as they are described here.  `programs` is one
instance of `Programs`; what is proved of runs holds of every instance.
-/

namespace FunctionIndex

namespace Shell

/-- How deep commands may be nested, those in functions included. -/
def maxEval : Nat := 6000

/-- Whether a name is to be looked up among the programs of the host rather than as a path: it
has one part. -/
def isBare (p : Path) : Bool :=
  p.parts.length + (if p.octets.take 2 == [Path.dot, Path.slash] then 1 else 0) ≤ 1

/-- The directory tree with the files of the system, as if all of it had been made just now. -/
def install (d : Disk) : Disk :=
  { d with root := withSystem d.root, now := (startTime : Nat) }.renumbered

/-- Where the program of a name is found.  A path is kept as it is spelt, after the current directory
if it does not start at the root. -/
def locate (d : Disk) (program : String) : Option Path :=
  let p := Path.ofString program
  if p.octets.contains 0 then none
  else if isBare p then
    if p.parts.isEmpty then none
    else
      match findIn d usualPath p.octets with
      | some q => if executable? d q == some true then some ⟨q⟩ else none
      | none => none
  else if executable? d p.octets == some true then
    some (if p.isAbsolute then p else ⟨(Disk.pathOf d.cwd).octets ++ Path.slash :: p.octets⟩)
  else none

/-- Number of octets an argument may have. -/
def maxArgument : Nat := 131071

/-- The variables that every program is given. -/
def givenVariables (d : Disk) : List (String × Variable) :=
  [("HOME", "/root"), ("PATH", Utf8.lossy usualPath), ("PWD", (Disk.pathOf d.cwd).display)].map
    fun (n, v) => (n, { value := some (Utf8.encode v), exported := true })

/-- The machine before a program starts: descriptor 0 reads the input, 1 and 2 collect output. -/
def machine (d : Disk) (input : Bytes) : Machine where
  world :=
    { root := d.root, freshFile := d.fresh, now := d.now.toNat
      files := #[.input input, .sink [], .sink []] }
  process :=
    { pid := 4242, shownPid := 4242, name := [], vars := givenVariables d, cwd := d.cwd
      directory := (Disk.pathOf d.cwd).octets, descriptors := [(0, 0), (1, 1), (2, 2)] }

/-- What a machine has collected in an open file. -/
def collected (m : Machine) (n : Nat) : Bytes :=
  match m.world.files[n]? with
  | some (.sink pieces) => Written.gather pieces
  | _ => []

/-- The directory tree that a machine leaves of one. -/
def left (d : Disk) (m : Machine) : Disk :=
  { d with root := m.world.root, fresh := m.world.freshFile, now := (m.world.now : Nat) }

/-- What comes of a program: an error if it could not be started, and otherwise what the machine
holds that it has run on. -/
def ended (d : Disk) (result : Except Jump (Except SystemError ExitStatus)) (m : Machine) :
    Except FileFault ProgramOutput :=
  let output (s : ExitStatus) : ProgramOutput := ⟨s, collected m 1, collected m 2, left d m⟩
  match result with
  | .ok (.ok s) => .ok (output s)
  | .ok (.error e) => .error (.system e)
  | .error (.die n) => .ok (output (.signal n))
  | .error _ => .ok (output (.code m.process.status))

/-- The call of the program at a path with arguments. -/
def callOf (p : Path) (args : List String) : List Bytes := p.octets :: args.map Utf8.encode

/-- Runs the program found at a path. -/
def run (d : Disk) (p : Path) (args : List String) (input : Bytes) :
    Except FileFault ProgramOutput :=
  let argv := callOf p args
  if argv.any (·.contains 0) then .error (.custom "nul byte found in provided data")
  else if argv.any fun a => a.length > maxArgument then .error (.system ⟨7⟩)
  else
    let work := Run.start (eval maxEval) Run.maxStarters p.octets argv
    let (result, m) := work.run (machine d input)
    ended d result m

/-- The programs of a host on which the files of the system are installed. -/
def programs : Programs := ⟨locate, run⟩

end Shell

end FunctionIndex

import FunctionIndex.CommandLine
import FunctionIndex.Disk.Edit
import FunctionIndex.Shell.Run

/-!
# The program

Takes a picture of the part of the file system that a command line is about, carries the command
line out on it and writes what comes of it.  No grammar is built in, so files of the languages
that need one end in an error.  The tool of a converter runs on the picture as well, so that
nothing but the picture decides what comes of a command line.
-/

namespace FunctionIndex

namespace Program

/-- Deepest nesting of directories that is looked at. -/
def maxDepth : Nat := 1000

/-- The result of an action, if it has one. -/
def attempt {α : Type} (action : IO α) : IO (Option α) := do
  try return some (← action)
  catch _ => return none

/-- The directory entry found at `path`, with all that it holds.  A directory whose entries cannot
be looked at lets nobody search it. -/
def snapshot : Nat → (path : String) → IO (Option Entry)
  | 0, _ => return none
  | fuel + 1, path => do
    let here ← IO.FS.realPath path
    match (← here.symlinkMetadata).type with
    | .file =>
      let contents := (← attempt (IO.FS.readBinFile here)).map fun bs => bs.toList
      return some (.file (contents.elim (.error .denied) .ok) (.ofFile true))
    | .dir =>
      let some found ← attempt here.readDir | return some (.dir ⟨false, true⟩ [] .ofDir)
      let mut entries := #[]
      let mut search := true
      for e in found do
        let name := Utf8.encode e.fileName
        match ← attempt e.path.symlinkMetadata with
        | none => search := false
        | some known =>
          if known.type == .symlink then
            if let some target ← attempt (IO.FS.realPath e.path) then
              entries := entries.push (name, .link (Utf8.encode target.toString))
          else
            if let some c ← snapshot fuel e.path.toString then
              entries := entries.push (name, c)
      return some (.dir ⟨true, search⟩ entries.toList .ofDir)
    | _ => return none

/-- The tree with what `path` leads to in the file system. -/
def withPath (d : Disk) (path : Path) : IO Disk := do
  match Utf8.decode? path.octets with
  | none => return d
  | some given =>
    try
      let there := (← IO.FS.realPath given).toString
      match ← snapshot maxDepth there with
      | none => return d
      | some e =>
        let real := Path.ofString there
        let d := if real == path then d else d.link path real.octets
        let place := real.parts.filterMap fun
          | .name n => some n
          | _ => none
        return (d.makeDirs (Disk.pathOf place.dropLast)).put place (some e)
    catch _ => return d

/-- The paths a command line is about. -/
def pathsOf (args : List Bytes) : List Path :=
  match CommandLine.parse args with
  | .ok ⟨.scan a, _⟩ =>
    let tool := (a.tool.map Path.ofString).toList.filter fun p => !Shell.isBare p
    [a.root] ++ a.base.toList ++ a.config.toList ++ tool
  | _ => []

/-- The part of the host that a command line is about. -/
def host (args : List Bytes) : IO Host := do
  let home := Path.ofString (← IO.currentDir).toString
  let cwd := home.parts.filterMap fun
    | .name n => some n
    | _ => none
  let start : Disk := { Disk.empty.makeDirs home with cwd }
  let mut disk := start
  for p in pathsOf args do
    disk ← withPath disk p
  return {
    disk := Shell.install disk
    grammars := ⟨fun _ => .error "no parser is built in"⟩
    programs := Shell.programs
    clock := (← IO.monoMsNow) / 1000 }

end Program

end FunctionIndex

open FunctionIndex in
/-- Carries out the command line. -/
def main (args : List String) : IO UInt32 := do
  let args := args.map Utf8.encode
  let report := perform (← Program.host args) args
  IO.print report.stdout
  if let some e := report.stderr then
    IO.eprintln e.payload.compact
  return report.code.toUInt32

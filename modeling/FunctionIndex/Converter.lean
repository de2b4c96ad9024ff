import FunctionIndex.Config
import FunctionIndex.Element
import FunctionIndex.Host
import FunctionIndex.Outcome

/-!
# Converters

A converter turns source text into an exchange tree.  It is told by a discriminator which
language the text is written in.  `Converter.ofTool` asks an external program: it is called with
its own arguments and the discriminator, is given the text as its input, and answers with the
JSON form of the tree.

To convert a text may change the directory tree of the host, as a tool is free to write files.
What is answered and what is left are two functions of the host: texts are converted at the same
time, each on the host as it was when the work began, while the changes add up.
-/

namespace FunctionIndex

/-- Something that turns source text into exchange trees. -/
structure Converter where
  /-- Whether it can be used at all. -/
  available : Host → Except ScanError Unit
  /-- The exchange tree of a text, given the discriminator. -/
  convert : Host → String → String → Outcome Element
  /-- The directory tree after a text has been converted, given the discriminator. -/
  leave : Host → String → String → Disk := fun h _ _ => h.disk

namespace Converter

/-- A converter that makes one and the same tree of every text. -/
def constant (e : Element) : Converter where
  available _ := .ok ()
  convert _ _ _ := .ok e

/-- A converter that cannot be used. -/
def unavailable (e : ScanError) : Converter where
  available _ := .error e
  convert _ _ _ := .error e

/-- Where the tool is found. -/
def locate (t : Tool) (h : Host) : Except ScanError Path :=
  match h.programs.locate h.disk t.program with
  | some p => .ok p
  | none => .error (.toolMissing t.program "cannot find binary path")

/-- The error of a tool that could not be started.  One that is not there, or may not be run, is
missing. -/
def startError (t : Tool) (e : FileFault) : ScanError :=
  if e = .system .notFound ∨ e = .system .denied then .toolMissing t.program e.message
  else .toolFailed t.program s!"failed to spawn: {e.message}"

/-- The tree in the answer of a tool. -/
def answer (t : Tool) (out : ProgramOutput) : Except ScanError Element :=
  if out.status = .code 0 then (Element.read out.stdout).mapError .json
  else
    .error (.toolFailed t.program
      s!"exited with {out.status.render}: {Text.trim (Utf8.lossy out.stderr)}")

/-- Runs a tool on a text. -/
def start (t : Tool) (h : Host) (source discriminator : String) : Except ScanError ProgramOutput :=
  match locate t h with
  | .error e => .error e
  | .ok p =>
    (h.programs.run h.disk p (t.args ++ ["--language", discriminator])
      (Utf8.encode source)).mapError (startError t)

/-- Asks a tool for the tree of a text. -/
def ask (t : Tool) (h : Host) (source discriminator : String) : Except ScanError Element :=
  match start t h source discriminator with
  | .error e => .error e
  | .ok out => answer t out

/-- The directory tree after a tool has been asked for the tree of a text: as it was, if the tool
cannot be started. -/
def after (t : Tool) (h : Host) (source discriminator : String) : Disk :=
  match start t h source discriminator with
  | .error _ => h.disk
  | .ok out => out.disk

/-- The converter that asks a tool. -/
def ofTool (t : Tool) : Converter where
  available h := (locate t h).map fun _ => ()
  convert h source discriminator := .ofExcept (ask t h source discriminator)
  leave := after t

end Converter

end FunctionIndex

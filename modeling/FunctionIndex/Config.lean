import FunctionIndex.Fingerprint
import FunctionIndex.Json.Read
import FunctionIndex.ScanError
import FunctionIndex.Text.Blank

/-!
# Configuration

What a run depends on besides the files: the smallest function that is recorded, the fingerprint
policy, the external tool and the time backends are given.  A configuration is read from a JSON
record whose fields may all be left out (`Config.read`), is admitted by `Config.validate`, and is
written with all its fields (`Config.toJson`).
-/

namespace FunctionIndex

/-- How the external tool is called. -/
structure Tool where
  /-- The program. -/
  program : String := "fnscan-normalize"
  /-- Its first arguments. -/
  args : List String := []
  deriving DecidableEq, Repr

/-- A configuration. -/
structure Config where
  /-- Least number of lines of a recorded function. -/
  minLines : Nat := 1
  /-- Least number of characters of a recorded function. -/
  minChars : Nat := 0
  /-- Whether fingerprints ignore names. -/
  abstractIdentifiers : Bool := false
  /-- The external tool. -/
  tool : Tool := {}
  /-- Seconds that backends are given; as long as they need if absent. -/
  timeoutSecs : Option Nat := none
  deriving DecidableEq, Repr

/-- What backends take from a configuration. -/
structure ExtractOptions where
  /-- The smallest function that is recorded. -/
  threshold : Threshold := {}
  /-- How tokens are hashed. -/
  policy : Policy := {}
  deriving DecidableEq, Repr

/-- The JSON form of a tool. -/
def Tool.toJson (t : Tool) : Json.Value :=
  .obj [("program", .str t.program), ("args", .arr (t.args.map .str))]

namespace Config

open Json (Field Form Fault)

/-! ### Reading and writing -/

/-- The form of the tool's record, `depth` being left inside it. -/
def toolForm (depth : Nat) : Form Tool where
  title := "struct ExternalToolConfig"
  fields := [
    ⟨"program", false, fun d t => do return { t with program := ← d.readString }⟩,
    ⟨"args", false, fun d t => do
      return { t with args := ← d.readList depth Json.Doc.readString }⟩]
  closed := true

/-- The form of a configuration's record, `depth` being left inside it. -/
def form (depth : Nat) : Form Config where
  title := "struct ScanConfig"
  fields := [
    ⟨"min_lines", false, fun d c => do return { c with minLines := ← d.readWord "usize" }⟩,
    ⟨"min_chars", false, fun d c => do return { c with minChars := ← d.readWord "usize" }⟩,
    ⟨"abstract_identifiers", false, fun d c => do
      return { c with abstractIdentifiers := ← d.readBool }⟩,
    ⟨"external_tool", false, fun d c => do
      return { c with tool := ← (toolForm (depth - 1)).read depth {} d }⟩,
    ⟨"backend_timeout_secs", false, fun d c => do
      return { c with timeoutSecs := ← d.readOption (Json.Doc.readWord "u64") }⟩]
  closed := true

/-- Reads a configuration; what is not given has its default. -/
def read (bs : Bytes) : Except Fault Config :=
  Json.readDocument (fun depth d => (form (depth - 1)).read depth {} d) bs

/-- The JSON form of a configuration. -/
def toJson (c : Config) : Json.Value :=
  .obj [
    ("min_lines", .num c.minLines),
    ("min_chars", .num c.minChars),
    ("abstract_identifiers", .bool c.abstractIdentifiers),
    ("external_tool", c.tool.toJson),
    ("backend_timeout_secs", .ofOption .num c.timeoutSecs)]

/-! ### Admission -/

/-- Why a configuration is not admitted; the first reason counts. -/
def objection? (c : Config) : Option String :=
  if c.minLines = 0 then some "min_lines must be at least 1"
  else if (Text.trim c.tool.program).isEmpty then some "external_tool.program must not be empty"
  else if c.timeoutSecs = some 0 then some "backend_timeout_secs must be positive"
  else none

/-- Refuses a configuration that is not admitted. -/
def validate (c : Config) : Except ScanError Unit :=
  match c.objection? with
  | some m => .error (.config m)
  | none => .ok ()

/-- The admitted configuration in a file, `path` being where its `contents` were found. -/
def load (path : Path) (contents : Except FileFault Bytes) : Except ScanError Config :=
  match contents with
  | .error e => .error (.file path e)
  | .ok bs =>
    match Utf8.decode? bs with
    | none => .error (.file path .notText)
    | some _ =>
      match read bs with
      | .error e => .error (.json e)
      | .ok c => c.validate.map fun _ => c

/-! ### What a run takes from it -/

/-- The smallest function that is recorded. -/
def threshold (c : Config) : Threshold := ⟨c.minLines, c.minChars⟩

/-- How tokens are hashed. -/
def policy (c : Config) : Policy := ⟨c.abstractIdentifiers⟩

/-- What backends take from the configuration. -/
def extractOptions (c : Config) : ExtractOptions := ⟨c.threshold, c.policy⟩

/-- The time that backends are given. -/
def timeout (c : Config) : Option Duration := c.timeoutSecs.map Duration.ofSeconds

end Config

end FunctionIndex

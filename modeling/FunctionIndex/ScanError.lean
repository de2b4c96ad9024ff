import FunctionIndex.Json.Fault
import FunctionIndex.Json.Value
import FunctionIndex.Language
import FunctionIndex.Path
import FunctionIndex.SystemError

/-!
# Errors

Everything that can go wrong, from a file that cannot be read to a backend that does not answer
in time.  `ScanError.message` words an error, `ScanError.kind` names its kind, and
`ScanError.isFatal` tells the errors that end a backend's work from those that cost one file.
-/

namespace FunctionIndex

/-! ### Lengths of time -/

/-- A length of time in nanoseconds. -/
structure Duration where
  /-- Number of nanoseconds. -/
  nanos : Nat
  deriving DecidableEq, Repr

namespace Duration

/-- So many seconds. -/
def ofSeconds (n : Nat) : Duration := ⟨n * 1000000000⟩

/-- Whole seconds. -/
def seconds (d : Duration) : Nat := d.nanos / 1000000000

/-- A fraction of `10 ^ places` as digits after a point, without zeros at the end. -/
def fraction (places n : Nat) : String :=
  if n = 0 then ""
  else
    let ds := Nat.toDigits 10 n
    let padded := List.replicate (places - ds.length) '0' ++ ds
    "." ++ String.ofList (padded.reverse.dropWhile (· == '0')).reverse

/-- A length of time in the largest unit it fills. -/
def render (d : Duration) : String :=
  let n := d.nanos
  if 1000000000 ≤ n then s!"{n / 1000000000}" ++ fraction 9 (n % 1000000000) ++ "s"
  else if 1000000 ≤ n then s!"{n / 1000000}" ++ fraction 6 (n % 1000000) ++ "ms"
  else if 1000 ≤ n then s!"{n / 1000}" ++ fraction 3 (n % 1000) ++ "µs"
  else s!"{n}ns"

end Duration

/-! ### Errors -/

/-- Why an operation on a file failed. -/
inductive FileFault where
  /-- The operating system refused it. -/
  | system (e : SystemError)
  /-- The file was to hold text and does not. -/
  | notText
  /-- Any other reason. -/
  | custom (message : String)
  deriving DecidableEq, Repr

/-- The wording of a reason. -/
def FileFault.message : FileFault → String
  | .system e => e.message
  | .notText => "stream did not contain valid UTF-8"
  | .custom m => m

/-- What can go wrong. -/
inductive ScanError where
  /-- A file or directory could not be used. -/
  | file (path : Path) (cause : FileFault)
  /-- A source file could not be understood. -/
  | parse (path : Path) (message : String)
  /-- A grammar could not be loaded. -/
  | grammar (language : Language) (message : String)
  /-- Octets that are no text. -/
  | utf8 (cause : Utf8.Fault)
  /-- A JSON document that is refused. -/
  | json (cause : Json.Fault)
  /-- An external tool that cannot be run at all. -/
  | toolMissing (program reason : String)
  /-- An external tool that ran and failed. -/
  | toolFailed (program message : String)
  /-- A backend that failed. -/
  | backend (language : Language) (cause : ScanError)
  /-- Backends that did not answer in time. -/
  | timeout (pending : List Language) (limit : Duration)
  /-- A configuration that is not admitted. -/
  | config (message : String)
  /-- Anything else. -/
  | other (message : String)
  deriving DecidableEq, Repr

namespace ScanError

/-- The wording of an error. -/
def message : ScanError → String
  | file path cause => s!"I/O error for path {path.display}: {cause.message}"
  | parse path m => s!"Parse error in {path.display}: {m}"
  | grammar language m => s!"Failed to load {language.tag} grammar: {m}"
  | utf8 cause => s!"UTF-8 error: {cause.message}"
  | json cause => s!"JSON error: {cause.message}"
  | toolMissing program reason => s!"External tool '{program}' not available: {reason}"
  | toolFailed program m => s!"External tool '{program}' failed: {m}"
  | backend language cause => s!"{language.tag} backend failed: {cause.message}"
  | timeout pending limit =>
    "Backends [" ++ ", ".intercalate (pending.map Language.title) ++ "] did not finish within " ++
      limit.render
  | config m => s!"Invalid configuration: {m}"
  | other m => m

/-- The word for the kind of an error. -/
def kind : ScanError → String
  | file .. => "io"
  | parse .. => "parse"
  | grammar .. => "grammar"
  | utf8 .. => "utf8"
  | json .. => "json"
  | toolMissing .. => "tool_not_found"
  | toolFailed .. => "external_tool"
  | backend .. => "backend_failed"
  | timeout .. => "backend_timeout"
  | config .. => "config"
  | other .. => "other"

/-- Whether an error ends the work of the backend that meets it, and not only its work on one
file. -/
def isFatal : ScanError → Bool
  | grammar .. => true
  | toolMissing .. => true
  | _ => false

/-- The path of an operation that does not say which file it was about. -/
def unknownPath : Path := Path.ofString "<unknown>"

/-- The JSON fault at the bottom of an error, if there is one. -/
def jsonFault? : ScanError → Option Json.Fault
  | json cause => some cause
  | backend _ cause => cause.jsonFault?
  | _ => none

/-- The report of an error that ends the program. -/
def payload (e : ScanError) : Json.Value :=
  .obj [("status", .str "error"), ("error_kind", .str e.kind), ("message", .str e.message)]

end ScanError

end FunctionIndex

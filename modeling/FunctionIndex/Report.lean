import FunctionIndex.Run

/-!
# Reports

The JSON forms of records and run results.
-/

namespace FunctionIndex

open Json (Value)

/-- The JSON form of a record. -/
def Record.toJson (r : Record) : Value :=
  .obj [
    ("file_name", .str r.fileName),
    ("language", .str r.language.tag),
    ("name", .str r.name),
    ("start_line", .num r.startLine),
    ("end_line", .num r.endLine),
    ("fingerprint", .str r.fingerprint)]

/-- The JSON form of counters by language, in tag order. -/
def countsToJson (m : ByLanguage Nat) : Value :=
  .obj (m.toList.map fun e => (e.1.tag, .num e.2))

/-- The JSON form of the counters of a run. -/
def RunStats.toJson (s : RunStats) : Value :=
  .obj [
    ("unsupported_files", .num s.unsupported),
    ("unregistered_files", .num s.unregistered),
    ("files_by_language", countsToJson s.files),
    ("records_by_language", countsToJson s.records)]

/-- The JSON form of the result of a run. -/
def RunResult.toJson (r : RunResult) : Value :=
  .obj [
    ("filenames", .arr (r.filenames.map .str)),
    ("records", .arr (r.records.map Record.toJson)),
    ("stats", r.stats.toJson)]

/-- A text filled up with spaces to the given number of characters. -/
def padRight (n : Nat) (s : String) : String :=
  s ++ String.ofList (List.replicate (n - s.length) ' ')

/-- One line for each language: its tag, the family of its backend and its extensions. -/
def languageTable (r : Registry) : String :=
  "\n".intercalate (Language.all.map fun l =>
    let family := match r.get? l with
      | some b => b.family.tag
      | none => "none"
    padRight 12 l.tag ++ " " ++ padRight 14 family ++ " " ++ ", ".intercalate l.extensions)

end FunctionIndex

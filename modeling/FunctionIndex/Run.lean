import FunctionIndex.Disk.Walk
import FunctionIndex.FanOut

/-!
# Runs

A run walks a directory tree, routes each file to the backend of its language, lets the backends
work and joins their records in tag order.  Files that no backend takes are counted.  The first
language in tag order whose backend failed fails the run.
-/

namespace FunctionIndex

/-- The counters of a run. -/
structure RunStats where
  /-- Files of no known language. -/
  unsupported : Nat := 0
  /-- Files of a language without a backend. -/
  unregistered : Nat := 0
  /-- Routed files by language. -/
  files : ByLanguage Nat := .empty
  /-- Records by language. -/
  records : ByLanguage Nat := .empty

/-- The result of a run. -/
structure RunResult where
  /-- The names of all files walked, in order. -/
  filenames : List String := []
  /-- The records, grouped by language. -/
  records : List Record := []
  /-- The counters. -/
  stats : RunStats := {}

namespace Run

/-! ### Routing -/

/-- Files on their way to backends. -/
structure Routing where
  /-- The counters so far. -/
  stats : RunStats := {}
  /-- The batches so far. -/
  batches : ByLanguage Batch := .empty

/-- Counts one more file of a language. -/
def countFile (files : ByLanguage Nat) (l : Language) : ByLanguage Nat :=
  files.alter l fun n => some (n.getD 0 + 1)

/-- Puts a file into the batch of its language. -/
def enqueue (batches : ByLanguage Batch) (l : Language) (name : String) (path : Path) :
    ByLanguage Batch :=
  batches.alter l fun b => some ((b.getD (Batch.new l)).add name path)

/-- Routes one file. -/
def routeFile (r : Registry) (base : Path) (s : Routing) (path : Path) : Routing :=
  let c := classify path base
  match c.language with
  | none => { s with stats := { s.stats with unsupported := s.stats.unsupported + 1 } }
  | some l =>
    if (r.get? l).isNone then
      { s with stats := { s.stats with unregistered := s.stats.unregistered + 1 } }
    else
      { s with
        batches := enqueue s.batches l c.name path
        stats := { s.stats with files := countFile s.stats.files l } }

/-- Routes files in order. -/
def route (r : Registry) (base : Path) (paths : List Path) : Routing :=
  paths.foldl (routeFile r base) {}

/-! ### Joining -/

/-- Joins the reports of the given languages, in order. -/
def join (reports : ByLanguage Report) (result : RunResult) :
    List Language → Except ScanError RunResult
  | [] => .ok result
  | l :: ls =>
    match reports.get? l with
    | some (.ok rs) =>
      let counts := result.stats.records
      join reports
        { result with
          records := result.records ++ rs
          stats := { result.stats with
            records := if rs.isEmpty then counts else counts.insert l rs.length } } ls
    | some (.error e) => .error (.backend l e)
    | none => .error (.backend l (.other "backend exited without reporting"))

/-- The path that files are named relative to: where `base` leads, or what it stands for if it
leads nowhere. -/
def basePath (d : Disk) (base : Path) : Path :=
  match d.canonical base with
  | .ok p => p
  | .error _ => (d.absolute? base).getD base

end Run

/-- A run over the files below `root`, which are named relative to `base`; `fanOut` tells what the
registered backends report of their batches. -/
def Run.through (r : Registry) (h : Host)
    (fanOut : ByLanguage Batch → Outcome (ByLanguage Report)) (root base : Path) :
    Outcome RunResult :=
  match h.disk.canonical root with
  | .error e => .error (.file root e)
  | .ok top =>
    let paths := h.disk.walk top
    let base := Run.basePath h.disk base
    let s := Run.route r base paths
    match fanOut s.batches with
    | .error e => .error e
    | .crash m => .crash m
    | .ok reports =>
      let names := paths.map fun p => relativeName p base
      .ofExcept (Run.join reports { filenames := names, stats := s.stats } r.languages)

/-- Runs the registered backends over the files below `root`, naming files relative to `base`. -/
def run (r : Registry) (h : Host) (limit : Option Duration) (root base : Path) :
    Outcome RunResult :=
  Run.through r h (FanOut.run r h limit) root base

/-- The directory tree after a run: what the backends make of it, in tag order.  A backend works
on although another one has failed, and although nobody waits for it any more. -/
def Run.after (r : Registry) (h : Host) (root base : Path) : Disk :=
  match h.disk.canonical root with
  | .error _ => h.disk
  | .ok top =>
    let s := Run.route r (Run.basePath h.disk base) (h.disk.walk top)
    r.toList.foldl (fun d e => e.2.leave h (FanOut.batchOf s.batches e.1) d) h.disk

/-- Runs the default backends under an admitted configuration. -/
def scan (c : Config) (h : Host) (root base : Path) : Outcome RunResult :=
  match c.validate with
  | .error e => .error e
  | .ok _ => run (.withDefaults c) h c.timeout root base

/-- The directory tree after a scan. -/
def Run.afterScan (c : Config) (h : Host) (root base : Path) : Disk :=
  match c.validate with
  | .error _ => h.disk
  | .ok _ => Run.after (.withDefaults c) h root base

end FunctionIndex

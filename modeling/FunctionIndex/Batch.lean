import FunctionIndex.Language
import FunctionIndex.Path
import Std.Data.HashSet

/-!
# Batches of files

The files of one language that wait for its backend, in the order in which they were added.  A
name waits once: adding it again changes nothing, whatever the path.
-/

namespace FunctionIndex

/-- A file that waits for a backend. -/
structure QueuedFile where
  /-- Its name relative to the base. -/
  name : String
  /-- Where it is found. -/
  path : Path
  deriving DecidableEq, Repr

/-- Files of one language. -/
structure Batch where
  /-- The language. -/
  language : Language
  /-- The files in the order of their first addition. -/
  files : List QueuedFile
  /-- The names among them. -/
  seen : Std.HashSet String

namespace Batch

/-- The batch without files. -/
def new (l : Language) : Batch := ⟨l, [], {}⟩

/-- Adds a file unless one of its name waits already. -/
def add (b : Batch) (name : String) (path : Path) : Batch :=
  if b.seen.contains name then b
  else { b with files := b.files ++ [⟨name, path⟩], seen := b.seen.insert name }

/-- Adds files one after the other. -/
def addAll (b : Batch) (fs : List QueuedFile) : Batch := fs.foldl (fun b f => b.add f.name f.path) b

/-- Number of files. -/
def size (b : Batch) : Nat := b.files.length

/-- Whether no file waits. -/
def isEmpty (b : Batch) : Bool := b.files.isEmpty

end Batch

end FunctionIndex

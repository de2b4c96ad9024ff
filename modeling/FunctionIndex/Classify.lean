import FunctionIndex.Language
import FunctionIndex.Path

/-!
# Classifying files

A file is classified by its path alone: its language follows from the extension, and its name
leads from a base directory to it.
-/

namespace FunctionIndex

/-! ### Language -/

/-- An ASCII capital as its small letter. -/
def lowerAscii (s : String) : String := String.ofList (s.toList.map Char.toLower)

/-- The language of a file, by its extension in any mix of capitals and small letters. -/
def Language.ofPath? (p : Path) : Option Language := do
  let ext ← p.extension?
  let text ← Utf8.decode? ext
  Language.ofExtension? (lowerAscii text)

/-! ### Name relative to a base -/

/-- Length of the longest common beginning of two lists. -/
def sharedLength {α : Type} [DecidableEq α] : List α → List α → Nat
  | a :: as, b :: bs => if a = b then sharedLength as bs + 1 else 0
  | _, _ => 0

/-- A part of a path as a segment of a relative name; the root has none. -/
def Part.segment? : Part → Option String
  | .root => none
  | .up => some ".."
  | .name n => some (Utf8.lossy n)

/-- The segments that lead from `base` to `path`: up to where they part, then down.  Without a
common root the path's own parts are all there is. -/
def relativeSegments (path base : Path) : List String :=
  let shared := sharedLength path.parts base.parts
  if shared = 0 && (path.isAbsolute || base.isAbsolute) then path.parts.filterMap Part.segment?
  else
    List.replicate (base.parts.length - shared) ".." ++
      (path.parts.drop shared).filterMap Part.segment?

/-- The name of `path` relative to `base`. -/
def relativeName (path base : Path) : String := "./" ++ "/".intercalate (relativeSegments path base)

/-- What a path says about a file. -/
structure Classification where
  /-- Name relative to the base. -/
  name : String
  /-- Language, if the extension is known. -/
  language : Option Language
  deriving DecidableEq, Repr

/-- Classifies the file at `path`, naming it relative to `base`. -/
def classify (path base : Path) : Classification := ⟨relativeName path base, Language.ofPath? path⟩

/-! ### Version control -/

/-- Whether an entry name is that of version-control metadata. -/
def isVersionControl (n : Name) : Bool :=
  let s := Utf8.lossy n
  s.startsWith ".git" || s == ".svn" || s == ".hg"

end FunctionIndex

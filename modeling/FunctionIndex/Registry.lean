import FunctionIndex.Backend

/-!
# Registries

The backends that take part in a run, at most one for each language.  Registering a backend
replaces the one its language had.
-/

namespace FunctionIndex

/-- The backends that take part in a run. -/
structure Registry where
  /-- The backend of each language. -/
  backends : ByLanguage Backend

namespace Registry

/-- The registry without backends. -/
def empty : Registry := ⟨.empty⟩

/-- Registers a backend for its language. -/
def register (r : Registry) (b : Backend) : Registry := ⟨r.backends.insert b.language b⟩

/-- Removes the backend of a language. -/
def unregister (r : Registry) (l : Language) : Registry := ⟨r.backends.erase l⟩

/-- The backend of a language. -/
def get? (r : Registry) (l : Language) : Option Backend := r.backends.get? l

/-- The languages with a backend, in tag order. -/
def languages (r : Registry) : List Language := r.backends.keys

/-- The languages with their backends, in tag order. -/
def toList (r : Registry) : List (Language × Backend) := r.backends.toList

/-- Number of backends. -/
def size (r : Registry) : Nat := r.backends.size

/-- Whether there is no backend. -/
def isEmpty (r : Registry) : Bool := r.toList.isEmpty

/-- Registers backends one after the other. -/
def registerAll (r : Registry) (bs : List Backend) : Registry := bs.foldl register r

/-- Every language with its default backend, converting with `c`. -/
def withConverter (c : Config) (conv : Converter) : Registry :=
  empty.registerAll (Language.all.filterMap (Backend.default? conv c.extractOptions))

/-- Every language with its default backend, converting with the configured tool. -/
def withDefaults (c : Config) : Registry := withConverter c (.ofTool c.tool)

end Registry

end FunctionIndex

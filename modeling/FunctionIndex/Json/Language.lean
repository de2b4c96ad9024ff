import FunctionIndex.Json.Read
import FunctionIndex.Language

/-!
# Languages in JSON documents

A language is read from its tag, or from an object whose only member has the tag as its key and
`null` as its value.
-/

namespace FunctionIndex

namespace Language

open Json (Doc Fault Members)

/-- The language of a tag. -/
def readTag (tag : String) : Except Fault Language :=
  match ofTag? tag with
  | some l => .ok l
  | none => .error (.misfit (.unknownVariant tag (all.map Language.tag)))

/-- Refuses an object with no or several members. -/
def refuseMap : Except Fault Language :=
  .error (.misfit (.wrongValue .map "map with a single key"))

/-- The members of an object, a later one replacing an earlier one of the same key. -/
def members : Members → Except Fault (List (String × Doc))
  | .close => .ok []
  | .broken e => .error (.malformed e)
  | .member key d rest => do
    let name ← Json.spelled key.text
    let ms ← members rest
    return if ms.any fun m => m.1 == name then ms else (name, d) :: ms

/-- Reads a language. -/
def read (d : Doc) : Except Fault Language :=
  match d with
  | .text t => do readTag (← Json.spelled t.text)
  | .object ms => do
    match ← members ms with
    | [(tag, value)] =>
      let l ← readTag tag
      match value with
      | .null => return l
      | value => value.refuse "unit"
    | _ => refuseMap
  | d => d.refuse "string or map"

end Language

end FunctionIndex

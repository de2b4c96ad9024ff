import FunctionIndex.Shell.Pattern
import FunctionIndex.Shell.Subshell

/-!
# Expanding words

A word becomes fields in three steps.  Its pieces are replaced by their values, which gives
`Chunk`s; values that were not quoted are divided into fields where they hold separators; and
fields that are patterns are replaced by the names of the files that match them.
-/

namespace FunctionIndex

namespace Shell

open Json (octet isDigit)

/-- A part of a word after its pieces have been replaced by their values. -/
inductive Chunk where
  /-- Octets that belong to one field. -/
  | fixed (bs : Bytes) (quoted : Bool)
  /-- Octets to be divided into fields. -/
  | loose (bs : Bytes)
  /-- Something quoted: there is a field here, even if it is empty. -/
  | mark
  /-- The end of a field. -/
  | cut
  /-- The end of all parameters in quotes: every separator in the next octets that are divided
  ends a field. -/
  | strict

namespace Chunk

/-- The octets of a chunk. -/
def octets : Chunk → Bytes
  | fixed bs _ => bs
  | loose bs => bs
  | _ => []

/-- The octets of a chunk, marked for patterns. -/
def marked : Chunk → List Marked
  | fixed bs q => bs.map fun b => (b, q)
  | loose bs => bs.map fun b => (b, false)
  | _ => []

end Chunk

/-! ### Fields -/

/-- Separators as they are if nobody has changed them. -/
def usualSeparators : Bytes := [0x20, 0x09, newline]

/-- Fields while a word is divided. -/
structure Fields where
  /-- Those finished, the latest first. -/
  done : List (List Marked) := []
  /-- The one under way, its last octet first. -/
  current : List Marked := []
  /-- Whether there is one under way. -/
  open_ : Bool := false
  /-- Whether every separator is to end a field. -/
  strict : Bool := false

namespace Fields

/-- Ends the field under way. -/
def cut (f : Fields) : Fields := { done := f.current.reverse :: f.done, strict := f.strict }

/-- Goes on with octets. -/
def append (f : Fields) (bs : Bytes) (quoted : Bool) : Fields :=
  { f with current := (bs.map fun b => (b, quoted)).reverse ++ f.current,
           open_ := f.open_ || !bs.isEmpty }

/-- What follows the separators after a field: white space, and one other separator at most,
which is gone already if `used`. -/
def skipSeparators (separators : Bytes) : Bool → Bytes → Bytes
  | _, [] => []
  | used, b :: bs =>
    let blank := b == 0 || usualSeparators.contains b
    if b != 0 && !separators.contains b then b :: bs
    else if blank then skipSeparators separators used bs
    else if used then b :: bs
    else skipSeparators separators true bs

/-- Goes on with octets that are divided into fields.  An octet zero separates like white
space. -/
def divide (separators : Bytes) : Nat → Fields → Bytes → Fields
  | 0, f, _ => f
  | _ + 1, f, [] => f
  | fuel + 1, f, b :: bs =>
    if b == 0 || separators.contains b then
      let blank := b == 0 || usualSeparators.contains b
      if f.strict then divide separators fuel f.cut bs
      else if blank && !f.open_ then divide separators fuel f bs
      else divide separators fuel f.cut (skipSeparators separators (!blank) bs)
    else divide separators fuel (f.append [b] false) bs

/-- Goes on with a chunk. -/
def add (separators : Bytes) (f : Fields) : Chunk → Fields
  | .fixed bs q => f.append bs q
  | .loose bs => { divide separators (bs.length + 1) f bs with strict := false }
  | .mark => { f with open_ := true }
  | .cut => f.cut
  | .strict => { f with strict := true }

/-- The fields of chunks. -/
def ofChunks (separators : Bytes) (cs : List Chunk) : List (List Marked) :=
  let f := cs.foldl (add separators) {}
  (if f.open_ then f.cut else f).done.reverse

end Fields

/-! ### Names of files -/

/-- Whether a pattern asks for names that start with a dot. -/
def asksForDot : List Marked → Bool
  | (b, _) :: _ => b == octet '.'
  | [] => false

/-- The names in the directory at a place that match a pattern. -/
def namesMatching (d : Disk) (directory : Bytes) (pattern : List Marked) : List Bytes :=
  let place := if directory.isEmpty then .ok d.cwd else d.resolve ⟨directory⟩
  match place with
  | .error _ => []
  | .ok place =>
    match d.root.get? place with
    | some (.dir ⟨true, _⟩ es _) =>
      let gs := globs pattern
      let own : List Bytes := if asksForDot pattern then [[Path.dot], [Path.dot, Path.dot]] else []
      (own ++ es.map Prod.fst).filter fun n =>
        (n.head? != some Path.dot || asksForDot pattern) && matchGlobs gs n
    | _ => []

/-- The paths that start with one of `found` and match the parts of a pattern that follow. -/
def pathsMatching (d : Disk) : List (List Marked) → List Bytes → List Bytes
  | [], found => found
  | part :: parts, found =>
    let sep : Bytes := if parts.isEmpty then [] else [Path.slash]
    let next :=
      if isWild (globs part) then
        found.flatMap fun p => (namesMatching d p part).map fun n => p ++ n ++ sep
      else found.map fun p => p ++ part.map Prod.fst ++ sep
    pathsMatching d parts next

/-- The parts of marked octets between slashes. -/
def splitParts : List Marked → List (List Marked)
  | [] => [[]]
  | (b, q) :: r =>
    if b == Path.slash then [] :: splitParts r
    else
      match splitParts r with
      | p :: ps => ((b, q) :: p) :: ps
      | [] => [[(b, q)]]

/-- The files that match a field, in order; the field itself if there are none. -/
def filesMatching (d : Disk) (field : List Marked) : List Bytes :=
  let self := field.map Prod.fst
  if !isWild (globs field) then [self]
  else
    let found := (pathsMatching d (splitParts field) [[]]).filter fun p =>
      (d.resolveWith .entry ⟨p⟩).isOk
    if found.isEmpty then [self] else found.mergeSort fun a b => !bytesLt b a

/-! ### Home directories -/

/-- A text that starts with a tilde, cut after it; none if the tilde does not stand for a home
directory. -/
def afterTilde? (atEnd assignment : Bool) (bs : Bytes) : Option Bytes :=
  match bs with
  | b :: rest =>
    let user := rest.takeWhile fun c => c != Path.slash && !(assignment && c == octet ':')
    if b == octet '~' && user.isEmpty && (atEnd || !rest.isEmpty) then some rest else none
  | [] => none

/-- The chunks of a text with a home directory in place of a tilde at its start. -/
def homeText (home : Bytes) (atEnd assignment : Bool) (plain : Bytes → Chunk) (bs : Bytes) :
    List Chunk :=
  match afterTilde? atEnd assignment bs with
  | some rest => [.fixed home true, plain rest]
  | none => [plain bs]

/-- The chunks of texts between colons, each with a home directory in place of a tilde at its
start. -/
def homeTexts (home : Bytes) (atEnd : Bool) (plain : Bytes → Chunk) : List Bytes → List Chunk
  | [] => []
  | [t] => homeText home atEnd true plain t
  | t :: ts => homeText home true true plain t ++ plain [octet ':'] :: homeTexts home atEnd plain ts

/-! ### Parameters -/

/-- The value of a parameter. -/
inductive Value where
  /-- One text, or none. -/
  | single (bs : Option Bytes)
  /-- All positional parameters; `apart` if each of them stays a field of its own in quotes. -/
  | all (apart : Bool) (bss : List Bytes)

namespace Run

/-- The letters of the options that are switched on, in order. -/
def optionLetters (p : Process) : Bytes :=
  Utf8.encode (String.ofList ("efIimnsxvVECabu".toList.filter p.options.contains))

/-- The value of a parameter. -/
def parameter (name : String) : Run Value := do
  let p ← process
  let digits := Utf8.encode name
  match name with
  | "@" => return .all true p.params
  | "*" => return .all false p.params
  | "#" => return .single (some (decimal p.params.length))
  | "?" => return .single (some (decimal p.status))
  | "$" => return .single (some (decimal p.shownPid))
  | "!" => return .single (p.lastJob.map fun n => decimal n)
  | "-" => return .single (some (optionLetters p))
  | _ =>
    if digits.all isDigit && !digits.isEmpty then
      match Json.Numeral.natOf digits with
      | 0 => return .single (some p.name)
      | n + 1 => return .single p.params[n]?
    else return .single (← value? name)

/-- The separators of fields. -/
def separators : Run Bytes := do return (← value? "IFS").getD usualSeparators

end Run

/-- Texts with the first separator between them. -/
def joinParams (separators : Bytes) (bss : List Bytes) : Bytes :=
  (separators.take 1).intercalate bss

/-- The chunks of a value.  `fields` says whether the word is divided into fields. -/
def Value.chunks (v : Value) (separators : Bytes) (quoted fields : Bool) : List Chunk :=
  let one (bs : Bytes) : Chunk := if quoted then .fixed bs true else .loose bs
  match v with
  | .single none => if quoted then [one []] else []
  | .single (some bs) => [one bs]
  | .all apart bss =>
    if !fields then [one (joinParams separators bss)]
    else if !quoted then [.loose ([0].intercalate bss)]
    else if apart then
      [Chunk.cut].intercalate (bss.map fun bs => [.mark, .fixed bs true]) ++
        if bss.isEmpty then [] else [.strict]
    else [.fixed (joinParams separators bss) true]

/-- The value as one text, if there is one. -/
def Value.text? (v : Value) (separators : Bytes) : Option Bytes :=
  match v with
  | .single bs => bs
  | .all _ [] => none
  | .all _ bss => some (joinParams separators bss)

/-- Texts that stand one after the other, without what a pattern matches at one end.  A match is
looked for inside one text only: the first one, or for a short match at the end the last one that
has any.  What follows a match at the end is gone, and so is everything if a long match at the
start takes all of the first text. -/
def trimTexts (suffix longest : Bool) (gs : List Glob) : List Bytes → List Bytes
  | [] => []
  | bs :: rest =>
    let cuts (bs : Bytes) : Bool :=
      (splits bs).any fun x => matchGlobs gs (if suffix then x.2 else x.1)
    let trimmed := trimGlobs suffix longest gs bs
    if suffix then
      if !longest && rest.any cuts then bs :: trimTexts suffix longest gs rest
      else if cuts bs then [trimmed]
      else bs :: rest
    else if longest && matchGlobs gs bs then [[]]
    else trimmed :: rest

/-- The value without what a pattern matches at one end of it.  Parameters are taken one after the
other where they become fields, and as one text otherwise. -/
def Value.trim (v : Value) (separators : Bytes) (quoted fields suffix longest : Bool)
    (gs : List Glob) : Value :=
  match v with
  | .single bs => .single (bs.map (trimGlobs suffix longest gs))
  | .all apart bss =>
    if fields && (apart || !quoted) then .all apart (trimTexts suffix longest gs bss)
    else if bss.isEmpty then v
    else .single (some (trimGlobs suffix longest gs (joinParams separators bss)))

/-! ### Words -/

/-- How a word is expanded. -/
structure Manner where
  /-- Whether it is divided into fields. -/
  fields : Bool
  /-- Whether its own text is divided, too. -/
  loose : Bool := false
  /-- The directory that a tilde at the start stands for, and whether the word is the value of a
  variable, where it can also follow a colon. -/
  home : Option (Bytes × Bool) := none

/-- The chunks of text in a word. -/
def Manner.text (m : Manner) (last : Bool) (bs : Bytes) (quoted : Bool) : List Chunk :=
  let plain (bs : Bytes) : Chunk := if m.loose then .loose bs else .fixed bs false
  if quoted then [.mark, .fixed bs true]
  else
    match m.home with
    | some (home, false) => homeText home last false plain bs
    | some (home, true) => homeTexts home last plain (bs.splitOn (octet ':'))
    | none => [plain bs]

/-- Whether the quotes around a word hold nothing but all parameters, so that there is no field if
there are no parameters. -/
def onlyParams : Word → Bool
  | .text [] true :: .param "@" .value true :: rest =>
    match rest with
    | [] => true
    | .text [] true :: _ => true
    | .text _ q :: _ => !q
    | .param _ _ q :: _ => !q
    | .output _ q :: _ => !q
    | .number _ q :: _ => !q
  | _ => false

/-- Whether a value counts as set; `empty` says whether an empty one does not. -/
def Value.isSet (v : Value) (separators : Bytes) (empty : Bool) : Bool :=
  match v.text? separators with
  | some bs => !(empty && bs.isEmpty)
  | none => false

/-- The home directory, for the value of a variable or another word. -/
def Run.home? (assignment : Bool) : Run (Option (Bytes × Bool)) := do
  return (← value? "HOME").map fun bs => (bs, assignment)

/-- Whether a parameter may be missing even where parameters have to be set. -/
def mayBeMissing (name : String) : Bool := name == "@" || name == "*"

/-- The value of an expression as chunks. -/
def Run.arithmetic (bs : Bytes) : Run Bytes := do
  let p ← process
  let outer (name : String) : Bytes :=
    ((p.vars.find? fun v => v.1 == name).bind fun v => v.2.value).getD []
  match evaluate outer bs with
  | .ok (n, assigned) =>
    for (name, v) in assigned.reverse do assign name (decimal v)
    return decimal n
  | .error (.expression m) => refuse s!"arithmetic expression: {m}: \"{Utf8.lossy bs}\""
  | .error (.value text) => refuse s!"Illegal number: {Utf8.lossy text}"

open Shell.Run in
/-- The chunks of the value of a parameter. -/
def valueChunks (m : Manner) (name : String) (quoted : Bool) : Run (List Chunk) := do
  let v ← parameter name
  let seps ← separators
  if (← option 'u') && !mayBeMissing name && (v.text? seps).isNone then
    refuse s!"{name}: parameter not set"
  else return v.chunks seps quoted m.fields

open Shell.Run in
mutual

/-- The chunks of a word. -/
def chunksOf (ev : Evaluator) (m : Manner) : Word → Run (List Chunk)
  | [] => return []
  | .param name (.final w) quoted :: _ => do
    return (← valueChunks m name quoted) ++ (← chunksOf ev { m with home := none } w)
  | p :: w => do
    let cs ← chunksOfPiece ev m w.isEmpty p
    let cs := if onlyParams (p :: w) then [] else cs
    return cs ++ (← chunksOf ev { m with home := none } w)

/-- The chunks of a piece, which may be the last one. -/
def chunksOfPiece (ev : Evaluator) (m : Manner) (last : Bool) : Piece → Run (List Chunk)
  | .text bs quoted => return m.text last bs quoted
  | .param name use quoted => chunksOfUse ev m name quoted use
  | .output body quoted => do
    let bs ← capture ev body
    let bs := ((bs.filter (· != 0)).reverse.dropWhile (· == newline)).reverse
    return if quoted then [.fixed bs true] else [.loose bs]
  | .number expression quoted => do
    let cs ← chunksOf ev { fields := false } expression
    let bs ← arithmetic (cs.flatMap Chunk.octets)
    return if quoted then [.fixed bs true] else [.loose bs]

/-- The chunks of what is made of a parameter. -/
def chunksOfUse (ev : Evaluator) (m : Manner) (name : String) (quoted : Bool) :
    Use → Run (List Chunk)
  | .unknown => refuse "Bad substitution"
  | .final w => do
    return (← valueChunks m name quoted) ++ (← chunksOf ev { m with home := none } w)
  | .value => valueChunks m name quoted
  | .length => do
    let v ← parameter name
    let seps ← separators
    match v.text? seps with
    | some bs => return (Value.single (some (decimal bs.length))).chunks seps quoted m.fields
    | none =>
      if (← option 'u') && !mayBeMissing name then refuse s!"{name}: parameter not set"
      else return (Value.single (some (decimal 0))).chunks seps quoted m.fields
  | .default empty w => do
    let v ← parameter name
    let seps ← separators
    if v.isSet seps empty then return v.chunks seps quoted m.fields
    else chunksOf ev { m with loose := true, home := ← home? false } w
  | .alternative empty w => do
    let v ← parameter name
    let seps ← separators
    if v.isSet seps empty then chunksOf ev { m with loose := true, home := ← home? false } w
    else return if quoted then [] else [.loose []]
  | .assign empty w => do
    let v ← parameter name
    let seps ← separators
    if v.isSet seps empty then return v.chunks seps quoted m.fields
    else
      let cs ← chunksOf ev { fields := false, home := ← home? false } w
      let bs := cs.flatMap Chunk.octets
      if isName (Utf8.encode name) then
        assign name bs
        return (Value.single (some bs)).chunks seps quoted m.fields
      else refuse s!"{name}: bad variable name"
  | .require empty w => do
    let v ← parameter name
    let seps ← separators
    if v.isSet seps empty then return v.chunks seps quoted m.fields
    else
      let cs ← chunksOf ev { fields := false, home := ← home? false } w
      let message := if w.isEmpty then
          if empty then "parameter not set or null" else "parameter not set"
        else Utf8.lossy (cs.flatMap Chunk.octets)
      refuse s!"{name}: {message}"
  | .trim suffix longest pattern => do
    let v ← parameter name
    let seps ← separators
    if (← option 'u') && !mayBeMissing name && (v.text? seps).isNone then
      refuse s!"{name}: parameter not set"
    else
      let cs ← chunksOf ev { fields := false, home := ← home? false } pattern
      let gs := globs (cs.flatMap Chunk.marked)
      return (v.trim seps quoted m.fields suffix longest gs).chunks seps quoted m.fields

end

namespace Run

/-- The fields of a word. -/
def fields (ev : Evaluator) (w : Word) : Run (List Bytes) := do
  let cs ← chunksOf ev { fields := true, home := ← home? false } w
  let fs := Fields.ofChunks (← separators) cs
  if ← option 'f' then return fs.map fun f => f.map Prod.fst
  else
    let d ← disk
    return fs.flatMap (filesMatching d)

/-- The text of a word. -/
def textOf (ev : Evaluator) (w : Word) : Run Bytes := do
  let cs ← chunksOf ev { fields := false, home := ← home? false } w
  return cs.flatMap Chunk.octets

/-- The text of a word that a variable is set to. -/
def valueOf (ev : Evaluator) (w : Word) : Run Bytes := do
  let cs ← chunksOf ev { fields := false, home := ← home? true } w
  return cs.flatMap Chunk.octets

/-- The pattern a word spells. -/
def patternOf (ev : Evaluator) (w : Word) : Run (List Glob) := do
  let cs ← chunksOf ev { fields := false, home := ← home? false } w
  return globs (cs.flatMap Chunk.marked)

/-- The text of a here-document. -/
def documentOf (ev : Evaluator) (w : Word) : Run Bytes := do
  let cs ← chunksOf ev { fields := false } w
  return cs.flatMap Chunk.octets

end Run

end Shell

end FunctionIndex

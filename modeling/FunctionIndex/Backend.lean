import FunctionIndex.Batch
import FunctionIndex.Converter

/-!
# Backends

A backend turns a batch of files into records.  Files are worked on independently of each other:
a file that cannot be read or understood contributes nothing, and only a fatal error or a crash
ends the work on the batch.

* `Backend.ofExtractor` finds functions in the text of each file, `Backend.ofGrammar` by means of
  a grammar.
* `Backend.ofConverter` asks a converter.  It does not look for the converter while there is
  nothing to do.

Files of a batch, and the batches of several backends, are worked on at the same time, so every
file is found as it was when the work began.  `Work.Step` lets the files of a batch be finished in
any order; what comes of each is put into the place of the file, so `extractBatch` goes through the
files in theirs.  `Backend.leave` adds up what the work changes in the directory tree, in the order
of the files.
-/

namespace FunctionIndex

/-- Something that finds the functions of one language. -/
structure Backend where
  /-- The language. -/
  language : Language
  /-- How it finds functions. -/
  family : Family
  /-- The records of a batch. -/
  parse : Host → Batch → Outcome (List Record)
  /-- What the work on a batch, begun on a host, makes of a directory tree. -/
  leave : Host → Batch → Disk → Disk := fun _ _ d => d
  /-- How long it takes. -/
  delay : Duration := ⟨0⟩

/-- A backend that ends in one way, whatever it is given. -/
def Backend.constant (l : Language) (x : Outcome (List Record)) : Backend where
  language := l
  family := .grammar
  parse _ _ := x

/-! ### One file after the other -/

/-- What is done with the contents of a file. -/
abbrev Extractor := QueuedFile → Bytes → Outcome (List Found)

/-- The functions of a file. -/
def extractFile (h : Host) (extract : Extractor) (f : QueuedFile) : Outcome (List Found) :=
  (Outcome.ofExcept (h.readSource f.path)).bind (extract f)

/-- The first crash among outcomes. -/
def firstCrash? {α : Type} : List (QueuedFile × Outcome α) → Option (Option String)
  | [] => none
  | (_, .crash m) :: _ => some m
  | _ :: rest => firstCrash? rest

/-- The records of the functions of one file. -/
def recordsOf (l : Language) (t : Threshold) (f : QueuedFile) (fs : List Found) : List Record :=
  fs.filterMap fun x => x.record? f.name l t

/-- The records of all files up to the first fatal error. -/
def joinRecords (l : Language) (t : Threshold) :
    List (QueuedFile × Outcome (List Found)) → Outcome (List Record)
  | [] => .ok []
  | (f, .ok fs) :: rest => (joinRecords l t rest).map (recordsOf l t f fs ++ ·)
  | (_, .error e) :: rest => if e.isFatal then .error e else joinRecords l t rest
  | (_, .crash m) :: _ => .crash m

/-- What comes of a batch whose files ended as given.  All files are worked on before their
outcomes are joined, so a crash on any of them comes before an error on another. -/
def settle (l : Language) (t : Threshold) (outcomes : List (QueuedFile × Outcome (List Found))) :
    Outcome (List Record) :=
  match firstCrash? outcomes with
  | some m => .crash m
  | none => joinRecords l t outcomes

/-- The records of a batch. -/
def extractBatch (h : Host) (o : ExtractOptions) (extract : Extractor) (b : Batch) :
    Outcome (List Record) :=
  settle b.language o.threshold (b.files.map fun f => (f, extractFile h extract f))

/-! ### Files in any order -/

namespace Work

variable {α β : Type}

/-- The places for what comes of some files, before any work. -/
def init (files : List α) : List (Option β) := files.map fun _ => none

/-- One step of workers who share some files: what comes of a file is put into its place, which
was empty. -/
inductive Step (work : α → β) (files : List α) : List (Option β) → List (Option β) → Prop where
  /-- The work on a file is finished. -/
  | finish (places : List (Option β)) (i : Nat) (f : α) (hf : files[i]? = some f)
      (he : places[i]? = some none) :
      Step work files places (places.set i (some (work f)))

end Work

namespace Backend

/-! ### Grammar backends -/

/-- The backend of a language whose functions `extract` finds, given where a text was found. -/
def ofExtractor (language : Language)
    (extract : Host → Policy → Path → Bytes → Outcome (List Found)) (o : ExtractOptions) :
    Backend where
  language
  family := .grammar
  parse h b := extractBatch h o (fun f source => extract h o.policy f.path source) b

/-- The backend of a language that extracts as `l` does. -/
def ofGrammar (language : Language) (l : GrammarLanguage) (o : ExtractOptions) : Backend :=
  ofExtractor language (fun h p path source => .ofExcept (l.extract h.grammars p path source)) o

/-! ### Converter backends -/

/-- Extracts from the exchange tree that a converter makes of a text. -/
def converterExtractor (h : Host) (c : Converter) (discriminator : String) (p : Policy) :
    Extractor := fun f source =>
  match Utf8.decode source with
  | .error e => .error (.parse f.path e.message)
  | .ok text => (c.convert h text discriminator).map (Element.collect p (Text.lines text))

/-- What the conversion of a file, as it is found on a host, makes of a directory tree. -/
def leaveFile (h : Host) (c : Converter) (discriminator : String) (d : Disk) (f : QueuedFile) :
    Disk :=
  match (h.readSource f.path).toOption.bind Utf8.decode? with
  | some text => c.leave { h with disk := d } text discriminator
  | none => d

/-- The backend of a language that asks a converter. -/
def ofConverter (language : Language) (discriminator : String) (c : Converter)
    (o : ExtractOptions) : Backend where
  language
  family := .externalTool
  parse h b :=
    if b.isEmpty then .ok []
    else
      match c.available h with
      | .error e => .error e
      | .ok _ => extractBatch h o (converterExtractor h c discriminator o.policy) b
  leave h b d :=
    match c.available h with
    | .error _ => d
    | .ok _ => b.files.foldl (leaveFile h c discriminator) d

/-- The backend that a language has by default: a grammar if there is one, else the converter. -/
def default? (c : Converter) (o : ExtractOptions) (l : Language) : Option Backend :=
  match GrammarLanguage.ofLanguage? l with
  | some g => some (ofGrammar l g o)
  | none => l.discriminator?.map fun d => ofConverter l d c o

end Backend

end FunctionIndex

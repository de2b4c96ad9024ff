import FunctionIndex.Json.Doc

/-!
# Reading values out of JSON documents

A reader takes a value of a certain form out of a `Doc`, from left to right, and stops at the
first fault it meets, be it of form or of spelling.  Values that nobody asked for are passed
over by `Doc.fault?`, which looks at their spelling only.

Records are read by a `Form`: the list of their fields.  They may be given as an object or as an
array with the fields in their order, and the depth of nested arrays and objects is limited.
-/

namespace FunctionIndex

namespace Json

/-- Largest depth a document may be read to. -/
def depthLimit : Nat := 128

/-! ### Passing over a value -/

/-- The fault of a numeral nobody asked for. -/
def Numeral.fault? (n : Numeral) : Option SyntaxFault :=
  if n.ending = .complete then none else some .invalidNumber

mutual

/-- The first fault in the spelling of a value. -/
def Doc.fault? : Doc → Option SyntaxFault
  | .null => none
  | .bool _ => none
  | .number n => n.fault?
  | .text t => t.fault?
  | .array items => items.fault?
  | .object members => members.fault?
  | .broken e => some e

/-- The first fault in the spelling of the remaining items. -/
def Items.fault? : Items → Option SyntaxFault
  | .close => none
  | .item d rest => d.fault?.or rest.fault?
  | .broken e => some e

/-- The first fault in the spelling of the remaining members. -/
def Members.fault? : Members → Option SyntaxFault
  | .close => none
  | .member key d rest => key.fault?.or (d.fault?.or rest.fault?)
  | .broken e => some e

end

/-! ### Scalars -/

/-- The result of a step that can only find the text malformed. -/
def spelled {α : Type} : Except SyntaxFault α → Except Fault α
  | .ok a => .ok a
  | .error e => .error (.malformed e)

/-- The value of a numeral. -/
def Numeral.read (n : Numeral) : Except SyntaxFault Number :=
  match n.ending with
  | .stray => .error .invalidNumber
  | .cut => .error .eofInValue
  | .complete =>
    match n.number? with
    | some x => .ok x
    | none => .error .numberOutOfRange

/-- What a value looks like to a reader that cannot use it. -/
def Doc.seen : Doc → Except SyntaxFault Seen
  | .null => .ok .null
  | .bool b => .ok (.bool b)
  | .number n => n.read.map .number
  | .text t => t.text.map .text
  | .array _ => .ok .sequence
  | .object _ => .ok .map
  | .broken e => .error e

/-- Refuses a value of another kind than expected. -/
def Doc.refuse {α : Type} (d : Doc) (expected : String) : Except Fault α :=
  match d.seen with
  | .ok s => .error (.misfit (.wrongType s expected))
  | .error e => .error (.malformed e)

/-- Reads a natural number that fits a word, called `expected` in messages. -/
def Doc.readWord (expected : String) (d : Doc) : Except Fault Nat :=
  match d with
  | .number n => do
    match ← spelled n.read with
    | .unsigned k => .ok k
    | .negative k => .error (.misfit (.wrongValue (.number (.negative k)) expected))
    | .float minus x => .error (.misfit (.wrongType (.number (.float minus x)) expected))
  | d => d.refuse expected

/-- Reads a truth value. -/
def Doc.readBool (d : Doc) : Except Fault Bool :=
  match d with
  | .bool b => .ok b
  | d => d.refuse "a boolean"

/-- Reads a text. -/
def Doc.readString (d : Doc) : Except Fault String :=
  match d with
  | .text t => spelled t.text
  | d => d.refuse "a string"

/-- Reads a value that may be `null`. -/
def Doc.readOption {α : Type} (f : Doc → Except Fault α) (d : Doc) : Except Fault (Option α) :=
  match d with
  | .null => .ok none
  | d => (f d).map some

/-! ### Lists -/

/-- Refuses to go deeper when no depth is left. -/
def entering {α : Type} (depth : Nat) (inner : Except Fault α) : Except Fault α :=
  if depth ≤ 1 then .error (.malformed .tooDeep) else inner

/-- Reads the remaining items of an array. -/
def Items.read {α : Type} (f : Doc → Except Fault α) : Items → Except Fault (List α)
  | .close => .ok []
  | .item d rest => do
    let a ← f d
    let as ← rest.read f
    return a :: as
  | .broken e => .error (.malformed e)

/-- Reads an array at the given depth. -/
def Doc.readList {α : Type} (depth : Nat) (f : Doc → Except Fault α) (d : Doc) :
    Except Fault (List α) :=
  match d with
  | .array items => entering depth (items.read f)
  | d => d.refuse "a sequence"

/-! ### Records -/

/-- A field of a record that is assembled in a draft of type `σ`. -/
structure Field (σ : Type) where
  /-- Name of the field. -/
  name : String
  /-- Whether it has to be given. -/
  required : Bool
  /-- Reads its value into the draft. -/
  read : Doc → σ → Except Fault σ

/-- The form of a record. -/
structure Form (σ : Type) where
  /-- What the record is called in messages. -/
  title : String
  /-- Its fields, in order. -/
  fields : List (Field σ)
  /-- Whether other fields are refused rather than passed over. -/
  closed : Bool

namespace Form

variable {σ : Type} (form : Form σ)

/-- The field of the given name. -/
def field? (name : String) : Option (Field σ) := form.fields.find? fun f => f.name == name

/-- Refuses a record in which a required field is not among those given. -/
def checkGiven (given : List String) (s : σ) : Except Fault σ :=
  match form.fields.find? fun f => f.required && !given.contains f.name with
  | some f => .error (.misfit (.missingField f.name))
  | none => .ok s

/-- Reads the remaining members of an object into a draft; `given` holds the names of the fields
read so far. -/
def readMembers (given : List String) (s : σ) : Members → Except Fault σ
  | .close => form.checkGiven given s
  | .broken e => .error (.malformed e)
  | .member key d rest => do
    let name ← spelled key.text
    match form.field? name with
    | none =>
      if form.closed then .error (.misfit (.unknownField name (form.fields.map Field.name)))
      else
        match d.fault? with
        | some e => .error (.malformed e)
        | none => readMembers given s rest
    | some f =>
      if given.contains name then .error (.misfit (.duplicateField name))
      else
        let s ← f.read d s
        readMembers (name :: given) s rest

/-- What may follow the last field in an array: nothing but its end. -/
def checkEnd (s : σ) : Items → Except Fault σ
  | .close => .ok s
  | .item (.broken .trailingComma) _ => .error (.malformed .trailingComma)
  | .item _ _ => .error (.malformed .trailingCharacters)
  | .broken .eofInList => .error (.malformed .eofInList)
  | .broken _ => .error (.malformed .trailingCharacters)

/-- What the length of an array is compared with in messages. -/
def expectedLength : String := s!"{form.title} with {form.fields.length} elements"

/-- Reads the remaining items of an array into a draft, the next being the `i`-th field. -/
def readItems : List (Field σ) → Nat → σ → Items → Except Fault σ
  | [], _, s, items => checkEnd s items
  | f :: fs, i, s, .item d rest => do
    let s ← f.read d s
    readItems fs (i + 1) s rest
  | _ :: _, _, _, .broken e => .error (.malformed e)
  | f :: fs, i, s, .close =>
    if f.required then .error (.misfit (.wrongLength i form.expectedLength))
    else readItems fs (i + 1) s .close

/-- Reads a record at the given depth, starting from the draft `s`. -/
def read (depth : Nat) (s : σ) (d : Doc) : Except Fault σ :=
  match d with
  | .object members => entering depth (form.readMembers [] s members)
  | .array items => entering depth (form.readItems form.fields 0 s items)
  | d => d.refuse form.title

end Form

/-! ### Whole documents -/

/-- Reads a document that consists of one value. -/
def readDocument {α : Type} (f : Nat → Doc → Except Fault α) (bs : Bytes) : Except Fault α := do
  let (d, rest) := Doc.scan bs
  let a ← f depthLimit d
  if (Doc.skip rest).isEmpty then .ok a else .error (.malformed .trailingCharacters)

end Json

end FunctionIndex

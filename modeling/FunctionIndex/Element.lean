import FunctionIndex.Fingerprint
import FunctionIndex.Function
import FunctionIndex.Json.Read
import FunctionIndex.Json.Value
import FunctionIndex.Text.Blank
import FunctionIndex.Text.Lines

/-!
# Exchange trees

An external tool describes a source file as a tree of elements.  An element has a tag, may have a
text of its own, spans some lines, and has children.  Functions are the elements with a function
tag and a block among their children; `Element.collect` reports them in document order, and
`Element.collect?` is the same with each step checked that could fail on words or lines.

The tree travels as JSON: `Element.read` reads it and `Element.toJson` writes it.
-/

namespace FunctionIndex

/-- An element of an exchange tree. -/
inductive Element where
  /-- An element with its tag, text, first line, last line and children. -/
  | mk (tag : String) (text : Option String) (line : Nat) (endLine : Option Nat)
    (children : List Element)
  deriving Repr

namespace Element

/-- What kind of element this is. -/
def tag : Element → String
  | mk tag _ _ _ _ => tag

/-- The element's own text. -/
def text : Element → Option String
  | mk _ text _ _ _ => text

/-- The line it starts on. -/
def line : Element → Nat
  | mk _ _ line _ _ => line

/-- The line it says it ends on. -/
def endLine : Element → Option Nat
  | mk _ _ _ endLine _ => endLine

/-- The elements it consists of. -/
def children : Element → List Element
  | mk _ _ _ _ children => children

/-! ### Tags -/

/-- The tags of functions. -/
def functionTags : List String := ["function", "constructor", "destructor"]

/-- The tag of names. -/
def nameTag : String := "name"

/-- The tag of bodies. -/
def blockTag : String := "block"

/-- The tag of comments. -/
def commentTag : String := "comment"

/-- Whether the element is tagged as a function. -/
def isFunction (e : Element) : Bool := functionTags.contains e.tag

/-- Whether a body is among the children. -/
def hasBody (e : Element) : Bool := e.children.any fun c => c.tag == blockTag

/-- The line the element ends on, never before the one it starts on. -/
def lastLine (e : Element) : Nat := max (e.endLine.getD e.line) e.line

/-! ### Text -/

mutual

/-- All text of an element in document order, comments left out. -/
def flatText : Element → String
  | mk tag text _ _ children =>
    if tag == commentTag then "" else text.getD "" ++ flatTexts children

/-- All text of a sequence of elements, comments left out. -/
def flatTexts : List Element → String
  | [] => ""
  | e :: es => flatText e ++ flatTexts es

end

/-- The name of a function: the text of the first name among the children, unless it is empty. -/
def functionName? (e : Element) : Option String :=
  match e.children.find? fun c => c.tag == nameTag with
  | some c => if c.flatText.isEmpty then none else some c.flatText
  | none => none

mutual

/-- The tokens of an element, comments left out; `inName` inside a name. -/
def tokens (inName : Bool) : Element → List Token
  | mk tag text _ _ children =>
    if tag == commentTag then []
    else
      let inName := inName || tag == nameTag
      let own := text.toList.map fun t =>
        if inName then .identifier (Text.trim t) else .other (Text.trim t)
      own ++ tokensOfAll inName children

/-- The tokens of a sequence of elements. -/
def tokensOfAll (inName : Bool) : List Element → List Token
  | [] => []
  | e :: es => tokens inName e ++ tokensOfAll inName es

end

/-! ### Functions -/

/-- Number of characters of the lines from `first` to `last`, counted from one, blank characters
at either end left out. -/
def spanChars (lines : List String) (first last : Nat) : Nat :=
  (Text.trim ("\n".intercalate ((lines.take last).drop (first - 1)))).length

/-- The function an element describes. -/
def describe (p : Policy) (lines : List String) (e : Element) : Found :=
  let startLine := max e.line 1
  let endLine := max e.lastLine startLine
  { name := e.functionName?.getD anonymous
    startLine, endLine
    charCount := spanChars lines startLine endLine
    fingerprint := ((Builder.new p).pushAll (e.tokens false)).finish }

mutual

/-- The functions in an element, in document order. -/
def collect (p : Policy) (lines : List String) : Element → List Found
  | mk tag text line endLine children =>
    let e := mk tag text line endLine children
    (if e.isFunction && e.hasBody then [e.describe p lines] else []) ++
      collectAll p lines children

/-- The functions in a sequence of elements, in document order. -/
def collectAll (p : Policy) (lines : List String) : List Element → List Found
  | [] => []
  | e :: es => collect p lines e ++ collectAll p lines es

end

/-! ### Checked forms -/

/-- The lines between two positions, if there are lines up to the second and it is not before the
first. -/
def slice? (lines : List String) (first last : Nat) : Option (List String) :=
  if first ≤ last ∧ last ≤ lines.length then some ((lines.take last).drop first) else none

/-- `spanChars`, if no step leaves the range of words or the lines there are. -/
def spanChars? (lines : List String) (first last : Nat) : Option Nat :=
  (subWord? first 1).bind fun start =>
    if lines.length ≤ start then some 0
    else
      (slice? lines start (min last lines.length)).map fun spanned =>
        (Text.trim ("\n".intercalate spanned)).length

/-- `describe`, if no step leaves the range of words or the lines there are. -/
def describe? (p : Policy) (lines : List String) (e : Element) : Option Found :=
  let startLine := max e.line 1
  let endLine := max e.lastLine startLine
  (spanChars? lines startLine endLine).map fun charCount =>
    { name := e.functionName?.getD anonymous
      startLine, endLine, charCount
      fingerprint := ((Builder.new p).pushAll (e.tokens false)).finish }

mutual

/-- `collect`, if all functions can be described. -/
def collect? (p : Policy) (lines : List String) : Element → Option (List Found)
  | mk tag text line endLine children =>
    let e := mk tag text line endLine children
    (if e.isFunction && e.hasBody then (e.describe? p lines).map fun f => [f] else some []).bind
      fun own => (collectAll? p lines children).map fun below => own ++ below

/-- `collectAll`, if all functions can be described. -/
def collectAll? (p : Policy) (lines : List String) : List Element → Option (List Found)
  | [] => some []
  | e :: es =>
    (collect? p lines e).bind fun own => (collectAll? p lines es).map fun after => own ++ after

end

/-! ### JSON -/

/-- An element while it is read. -/
structure Draft where
  tag : String := ""
  text : Option String := none
  line : Nat := 0
  endLine : Option Nat := none
  children : List Element := []

/-- The element that a draft has become. -/
def Draft.finish (d : Draft) : Element := Element.mk d.tag d.text d.line d.endLine d.children

open Json (Field Form Fault) in
/-- The form of an element's record, given how the list of children is read. -/
def form (children : Json.Doc → Except Fault (List Element)) : Form Draft where
  title := "struct TreeNode"
  fields := [
    ⟨"tag", true, fun d e => do return { e with tag := ← d.readString }⟩,
    ⟨"text", false, fun d e => do return { e with text := ← d.readOption Json.Doc.readString }⟩,
    ⟨"line", true, fun d e => do return { e with line := ← d.readWord "usize" }⟩,
    ⟨"end_line", false, fun d e => do
      return { e with endLine := ← d.readOption (Json.Doc.readWord "usize") }⟩,
    ⟨"children", false, fun d e => do return { e with children := ← children d }⟩]
  closed := false

/-- Reads an element at the given depth: it takes one level, and the list of its children
another. -/
def readAt : Nat → Json.Doc → Except Json.Fault Element
  | 0, d => ((form fun _ => .ok []).read 0 {} d).map Draft.finish
  | 1, d => ((form fun _ => .ok []).read 1 {} d).map Draft.finish
  | depth + 2, d =>
    ((form fun c => c.readList (depth + 1) (readAt depth)).read (depth + 2) {} d).map Draft.finish

/-- Reads an exchange tree. -/
def read (bs : Bytes) : Except Json.Fault Element := Json.readDocument readAt bs

mutual

/-- The JSON form of an element: what is absent or empty is left out. -/
def toJson : Element → Json.Value
  | mk tag text line endLine children =>
    .obj ([("tag", .str tag)] ++
      (text.toList.map fun t => ("text", .str t)) ++
      [("line", .num line)] ++
      (endLine.toList.map fun n => ("end_line", .num n)) ++
      (if children.isEmpty then [] else [("children", .arr (toJsonAll children))]))

/-- The JSON forms of a sequence of elements. -/
def toJsonAll : List Element → List Json.Value
  | [] => []
  | e :: es => toJson e :: toJsonAll es

end

end Element

end FunctionIndex

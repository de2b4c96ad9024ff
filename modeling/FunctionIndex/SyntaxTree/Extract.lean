import FunctionIndex.Fingerprint
import FunctionIndex.Function
import FunctionIndex.SyntaxTree.Walk
import FunctionIndex.Text.Blank
import FunctionIndex.Text.Lines

/-!
# Functions in a syntax tree

What a node says about a function: the lines it spans, its number of characters, the tokens it
consists of and the name it goes by.  `Rule` tells which nodes are functions and what they are
called; `collect` reports them in document order.
-/

namespace FunctionIndex

namespace Node

/-! ### Tokens -/

/-- Kinds whose nodes are one token although they have parts. -/
def atomicKinds : List String :=
  ["string", "string_literal", "raw_string_literal", "char_literal", "template_string", "regex"]

/-- Whether a kind is that of a comment. -/
def isCommentKind (kind : String) : Bool := kind == "comment" || kind.endsWith "_comment"

/-- Whether a node is one token. -/
def isToken (n : Node) : Bool := n.children.isEmpty || atomicKinds.contains n.kind

/-- The token a node stands for. -/
def token (source : Bytes) (n : Node) : Token :=
  let text := (n.text? source).getD ""
  if n.named && n.kind.endsWith "identifier" then .identifier text else .other text

/-- Feeds the tokens of the visited nodes to a fingerprint; comments have none. -/
def feed (source : Bytes) : Visitor Builder := fun b x =>
  if isCommentKind x.node.kind then (b, false)
  else if x.node.isToken then (b.push (x.node.token source), false)
  else (b, true)

mutual

/-- The tokens of a node in document order. -/
def tokens (source : Bytes) : Node → List Token
  | mk kind named field start stop children =>
    let n := mk kind named field start stop children
    if isCommentKind kind then []
    else if n.isToken then [n.token source]
    else tokensOfAll source children

/-- The tokens of a sequence of nodes in document order. -/
def tokensOfAll (source : Bytes) : List Node → List Token
  | [] => []
  | n :: ns => tokens source n ++ tokensOfAll source ns

end

/-! ### Size -/

/-- Offset of the last octet of a node; of the first if it covers none. -/
def lastOctet (n : Node) : Nat := max (n.stop - 1) n.start

/-- The function that the node at `x` defines. -/
def found (p : Policy) (source : Bytes) (chars : List Char) (name : String) (n : Node) : Found :=
  { name
    startLine := Text.lineAt chars n.start + 1
    endLine := Text.lineAt chars n.lastOctet + 1
    charCount := Text.charAt chars n.stop - Text.charAt chars n.start
    fingerprint := (Site.walk (feed source) ⟨n, none⟩ (Builder.new p)).finish }

end Node

/-! ### Names -/

/-- The name of the function at a site, if the node there defines one. -/
abbrev Rule := Bytes → Site → Option String

namespace Rule

/-- Nodes of one kind that have a name. -/
def ofKind (kind : String) : Rule := fun source x =>
  if x.node.kind == kind then
    match x.node.childByField? "name" with
    | some (n, _) => n.text? source
    | none => none
  else none

/-- Kinds of script functions. -/
def scriptKinds : List String :=
  ["function_declaration", "generator_function_declaration", "function_expression", "function",
    "generator_function", "arrow_function", "method_definition"]

/-- A single or double quote. -/
def isQuote (c : Char) : Bool := c == '"' || c == '\''

/-- The text of a name; a quoted one without the quotes at its ends. -/
def keyText? (source : Bytes) (n : Node) : Option String := do
  let s ← n.text? source
  if n.kind == "string" then return String.ofList (Text.trimBy isQuote s.toList) else return s

/-- The name a function carries itself. -/
def ownName? (source : Bytes) (n : Node) : Option String := do
  let (name, _) ← n.childByField? "name"
  keyText? source name

/-- The field of a node under which what it binds to a value is found. -/
def targetField? (kind : String) : Option String :=
  if kind == "variable_declarator" then some "name"
  else if kind == "assignment_expression" then some "left"
  else if kind == "pair" then some "key"
  else if kind == "field_definition" then some "property"
  else if kind == "public_field_definition" then some "name"
  else none

/-- The name to which the node above binds a function, unless the function is part of it. -/
def bindingName? (source : Bytes) (x : Site) : Option String := do
  let (parent, index) ← x.above
  let field ← targetField? parent.kind
  let (target, i) ← parent.childByField? field
  if i = index then none else keyText? source target

/-- Script functions: named by themselves or by what they are bound to. -/
def script : Rule := fun source x =>
  if x.node.named && scriptKinds.contains x.node.kind then
    some (((ownName? source x.node).or (bindingName? source x)).getD anonymous)
  else none

end Rule

/-! ### Collecting -/

/-- Reports the functions among the visited nodes; their own nodes are visited too. -/
def Rule.report (rule : Rule) (p : Policy) (source : Bytes) (chars : List Char) :
    Visitor (List Found) := fun fs x =>
  match rule source x with
  | some name => (fs ++ [x.node.found p source chars name], true)
  | none => (fs, true)

/-- The functions of a tree in document order. -/
def Rule.collect (rule : Rule) (p : Policy) (source : Bytes) (chars : List Char) (root : Node) :
    List Found :=
  Site.walk (rule.report p source chars) ⟨root, none⟩ []

end FunctionIndex

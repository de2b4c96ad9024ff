import FunctionIndex.Text.Utf8

/-!
# Syntax trees

The tree that a grammar makes of a source text.  A node has a kind, covers a span of octets, and
its parent may hold it under a field name; *named* nodes stand for constructs, the others for
keywords and punctuation.
-/

namespace FunctionIndex

/-- A node of a syntax tree. -/
inductive Node where
  /-- A node with its kind, whether it is named, the field its parent holds it under, the offsets
  of its first octet and of the one after its last, and its children. -/
  | mk (kind : String) (named : Bool) (field : Option String) (start stop : Nat)
    (children : List Node)
  deriving Repr

namespace Node

/-- The construct or token the node stands for. -/
def kind : Node → String
  | mk kind _ _ _ _ _ => kind

/-- Whether the node stands for a construct. -/
def named : Node → Bool
  | mk _ named _ _ _ _ => named

/-- The field under which the parent holds the node. -/
def field : Node → Option String
  | mk _ _ field _ _ _ => field

/-- Offset of the first octet. -/
def start : Node → Nat
  | mk _ _ _ start _ _ => start

/-- Offset after the last octet. -/
def stop : Node → Nat
  | mk _ _ _ _ stop _ => stop

/-- The nodes directly below. -/
def children : Node → List Node
  | mk _ _ _ _ _ children => children

mutual

/-- Number of nodes from this one down. -/
def size : Node → Nat
  | mk _ _ _ _ _ children => 1 + sizeAll children

/-- Number of nodes of a sequence of subtrees. -/
def sizeAll : List Node → Nat
  | [] => 0
  | n :: ns => size n + sizeAll ns

end

/-- The first child held under a field, with its position among the children. -/
def childByField? (n : Node) (name : String) : Option (Node × Nat) :=
  n.children.zipIdx.find? fun c => c.1.field == some name

/-- The octets a node covers. -/
def slice (n : Node) (source : Bytes) : Bytes := (source.drop n.start).take (n.stop - n.start)

/-- The text a node covers, if it is one. -/
def text? (n : Node) (source : Bytes) : Option String := Utf8.decode? (n.slice source)

theorem size_eq (n : Node) : n.size = 1 + sizeAll n.children := by
  cases n
  rfl

end Node

/-- The syntax tree of a source text. -/
structure SyntaxTree where
  /-- The topmost node. -/
  root : Node
  /-- Whether the text does not follow the grammar somewhere. -/
  hasError : Bool

end FunctionIndex

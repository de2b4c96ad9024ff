import FunctionIndex.Classify
import FunctionIndex.ScanError
import FunctionIndex.SyntaxTree.Extract

/-!
# Grammars

A grammar turns source text into a syntax tree.  The grammars themselves come from outside
(`Grammars`); this module chooses among them, refuses texts that do not follow them, and extracts
the functions of those that do.
-/

namespace FunctionIndex

/-- A notation with a grammar of its own. -/
inductive Dialect where
  | rust
  | python
  | javascript
  | typescript
  | tsx
  deriving DecidableEq, Repr

/-- Parsers by dialect.  Loading one may fail; parsing may give no tree. -/
structure Grammars where
  /-- The parser of a dialect. -/
  load : Dialect → Except String (Bytes → Option SyntaxTree)

/-- A language with a grammar. -/
inductive GrammarLanguage where
  | rust
  | python
  | javascript
  | typescript
  deriving DecidableEq, Repr

namespace GrammarLanguage

/-- The language as one of all. -/
def toLanguage : GrammarLanguage → Language
  | rust => .rust
  | python => .python
  | javascript => .javascript
  | typescript => .typescript

/-- The language with a grammar among all. -/
def ofLanguage? : Language → Option GrammarLanguage
  | .rust => some rust
  | .python => some python
  | .javascript => some javascript
  | .typescript => some typescript
  | _ => none

/-- Whether the extension of a path is `tsx`, in any mix of capitals and small letters. -/
def isTsx (path : Path) : Bool :=
  match path.extension?.bind Utf8.decode? with
  | some ext => lowerAscii ext == "tsx"
  | none => false

/-- The dialect a file is written in. -/
def dialect (l : GrammarLanguage) (path : Path) : Dialect :=
  match l with
  | rust => .rust
  | python => .python
  | javascript => .javascript
  | typescript => if isTsx path then .tsx else .typescript

/-- Which nodes are functions, and what they are called. -/
def rule : GrammarLanguage → Rule
  | rust => .ofKind "function_item"
  | python => .ofKind "function_definition"
  | javascript => .script
  | typescript => .script

/-- The tree of a source text that follows its grammar, and the characters of the text. -/
def parse (g : Grammars) (l : GrammarLanguage) (path : Path) (source : Bytes) :
    Except ScanError (SyntaxTree × List Char) :=
  match g.load (l.dialect path) with
  | .error m => .error (.grammar l.toLanguage m)
  | .ok parser =>
    match Utf8.decodeChars source with
    | .error e => .error (.utf8 e)
    | .ok chars =>
      match parser source with
      | none => .error (.parse path "Parse failed - no tree returned")
      | some tree =>
        if tree.hasError then
          .error (.parse path s!"{l.toLanguage.tag} syntax errors in file")
        else .ok (tree, chars)

/-- The functions of a source text. -/
def extract (g : Grammars) (l : GrammarLanguage) (p : Policy) (path : Path) (source : Bytes) :
    Except ScanError (List Found) :=
  match parse g l path source with
  | .error e => .error e
  | .ok (tree, chars) => .ok (l.rule.collect p source chars tree.root)

end GrammarLanguage

end FunctionIndex

/-!
# Languages

The eight languages the index knows, in the order used wherever an order shows: listings,
records, counters and reports all follow `Language.all` (*tag order*).  A language is
recognised by file extension, and four of them are handled by a converter that is told which
language it reads by a discriminator.
-/

namespace FunctionIndex

/-- A source language. -/
inductive Language where
  | rust
  | python
  | javascript
  | typescript
  | c
  | cpp
  | java
  | csharp
  deriving DecidableEq, Repr

namespace Language

/-- Every language, in tag order. -/
def all : List Language := [rust, python, javascript, typescript, c, cpp, java, csharp]

/-- Position of a language in tag order. -/
def rank : Language → Nat
  | rust => 0
  | python => 1
  | javascript => 2
  | typescript => 3
  | c => 4
  | cpp => 5
  | java => 6
  | csharp => 7

/-- The word that stands for a language in every document read or written. -/
def tag : Language → String
  | rust => "rust"
  | python => "python"
  | javascript => "javascript"
  | typescript => "typescript"
  | c => "c"
  | cpp => "cpp"
  | java => "java"
  | csharp => "csharp"

/-- The name used where several languages are enumerated in a message. -/
def title : Language → String
  | rust => "Rust"
  | python => "Python"
  | javascript => "JavaScript"
  | typescript => "TypeScript"
  | c => "C"
  | cpp => "Cpp"
  | java => "Java"
  | csharp => "CSharp"

/-- File extensions of a language, in lower case and without the dot. -/
def extensions : Language → List String
  | rust => ["rs"]
  | python => ["py", "pyw", "pyi"]
  | javascript => ["js", "mjs", "cjs", "jsx"]
  | typescript => ["ts", "mts", "cts", "tsx"]
  | c => ["c", "h"]
  | cpp => ["cpp", "cc", "cxx", "c++", "hpp", "hh", "hxx"]
  | java => ["java"]
  | csharp => ["cs"]

/-- The word by which a converter is told what it reads, for the languages it handles. -/
def discriminator? : Language → Option String
  | c => some "C"
  | cpp => some "C++"
  | java => some "Java"
  | csharp => some "C#"
  | _ => none

/-- The language a tag stands for. -/
def ofTag? (s : String) : Option Language := all.find? fun l => l.tag == s

/-- The language whose extension list holds `ext`. -/
def ofExtension? (ext : String) : Option Language := all.find? fun l => l.extensions.contains ext

theorem mem_all (l : Language) : l ∈ all := by
  cases l <;> decide

theorem nodup_all : all.Nodup := by decide

end Language

/-- How a backend finds functions. -/
inductive Family where
  /-- It parses source text with a grammar. -/
  | grammar
  /-- It asks an external tool for an exchange tree. -/
  | externalTool
  deriving DecidableEq, Repr

/-- The word that stands for a family in listings. -/
def Family.tag : Family → String
  | .grammar => "grammar"
  | .externalTool => "external-tool"

/-! ### Tables keyed by language -/

/-- A table with at most one entry per language. -/
@[ext]
structure ByLanguage (α : Type) where
  rust : Option α := none
  python : Option α := none
  javascript : Option α := none
  typescript : Option α := none
  c : Option α := none
  cpp : Option α := none
  java : Option α := none
  csharp : Option α := none
  deriving DecidableEq, Repr

namespace ByLanguage

variable {α : Type}

/-- The table without entries. -/
def empty : ByLanguage α := {}

/-- The entry of a language. -/
def get? (m : ByLanguage α) : Language → Option α
  | .rust => m.rust
  | .python => m.python
  | .javascript => m.javascript
  | .typescript => m.typescript
  | .c => m.c
  | .cpp => m.cpp
  | .java => m.java
  | .csharp => m.csharp

/-- The table with the entry of a language replaced. -/
def set (m : ByLanguage α) (l : Language) (a : Option α) : ByLanguage α :=
  match l with
  | .rust => { m with rust := a }
  | .python => { m with python := a }
  | .javascript => { m with javascript := a }
  | .typescript => { m with typescript := a }
  | .c => { m with c := a }
  | .cpp => { m with cpp := a }
  | .java => { m with java := a }
  | .csharp => { m with csharp := a }

/-- The table with the entry of `l` set to `a`. -/
def insert (m : ByLanguage α) (l : Language) (a : α) : ByLanguage α := m.set l (some a)

/-- The table without an entry for `l`. -/
def erase (m : ByLanguage α) (l : Language) : ByLanguage α := m.set l none

/-- The table whose entry of `l` is computed from the old one. -/
def alter (m : ByLanguage α) (l : Language) (f : Option α → Option α) : ByLanguage α :=
  m.set l (f (m.get? l))

/-- The languages with an entry, in tag order. -/
def keys (m : ByLanguage α) : List Language := Language.all.filter fun l => (m.get? l).isSome

/-- The entries, in tag order. -/
def toList (m : ByLanguage α) : List (Language × α) :=
  Language.all.filterMap fun l => (m.get? l).map fun a => (l, a)

/-- Number of entries. -/
def size (m : ByLanguage α) : Nat := m.toList.length

@[simp] theorem get?_empty (l : Language) : (empty : ByLanguage α).get? l = none := by
  cases l <;> rfl

theorem get?_set (m : ByLanguage α) (l k : Language) (a : Option α) :
    (m.set l a).get? k = if k = l then a else m.get? k := by
  cases l <;> cases k <;> rfl

theorem get?_insert (m : ByLanguage α) (l k : Language) (a : α) :
    (m.insert l a).get? k = if k = l then some a else m.get? k := get?_set m l k (some a)

theorem get?_erase (m : ByLanguage α) (l k : Language) :
    (m.erase l).get? k = if k = l then none else m.get? k := get?_set m l k none

theorem get?_alter (m : ByLanguage α) (l k : Language) (f : Option α → Option α) :
    (m.alter l f).get? k = if k = l then f (m.get? l) else m.get? k := get?_set m l k _

theorem mem_keys {m : ByLanguage α} {l : Language} : l ∈ m.keys ↔ (m.get? l).isSome := by
  simp [keys, Language.mem_all]

/-- A table is determined by its entries. -/
theorem eq_of_get? {m m' : ByLanguage α} (h : ∀ l, m.get? l = m'.get? l) : m = m' :=
  ByLanguage.ext (h .rust) (h .python) (h .javascript) (h .typescript) (h .c) (h .cpp) (h .java)
    (h .csharp)

end ByLanguage

end FunctionIndex

import FunctionIndex.Language

/-!
# Functions and records

A backend reports a function it found as a `Found`: a name, a span of lines, a size in
characters and a fingerprint.  What is large enough for the threshold becomes a `Record`, which
adds the file and the language.

Line numbers and counts live in 64-bit words.  The sizes are computed on natural numbers, and
the checked forms `lineCount?` have no value where a word would overflow.
-/

namespace FunctionIndex

/-- Largest number a machine word holds. -/
def maxWord : Nat := 0xFFFFFFFFFFFFFFFF

/-- Sum of two words, if it is a word. -/
def addWord? (a b : Nat) : Option Nat := if a + b ≤ maxWord then some (a + b) else none

/-- Difference of two words, if it is a word. -/
def subWord? (a b : Nat) : Option Nat := if b ≤ a then some (a - b) else none

/-- The name of a function that has none. -/
def anonymous : String := "<anonymous>"

/-- A function as a backend reports it. -/
structure Found where
  /-- Declared or inferred name. -/
  name : String
  /-- First line, counted from one. -/
  startLine : Nat
  /-- Last line, counted from one. -/
  endLine : Nat
  /-- Characters of the definition. -/
  charCount : Nat
  /-- Digest of its tokens. -/
  fingerprint : String
  deriving DecidableEq, Repr

/-- The smallest function that is recorded. -/
structure Threshold where
  /-- Least number of lines. -/
  minLines : Nat := 1
  /-- Least number of characters. -/
  minChars : Nat := 0
  deriving DecidableEq, Repr

/-- Whether a function of the given size is large enough. -/
def Threshold.admits (t : Threshold) (lines chars : Nat) : Bool :=
  t.minLines ≤ lines && t.minChars ≤ chars

/-- One function of one file. -/
structure Record where
  /-- Name of the file relative to the base. -/
  fileName : String
  /-- Language of the file. -/
  language : Language
  /-- Name of the function. -/
  name : String
  /-- First line, counted from one. -/
  startLine : Nat
  /-- Last line, counted from one. -/
  endLine : Nat
  /-- Digest of its tokens. -/
  fingerprint : String
  deriving DecidableEq, Repr

namespace Found

/-- Lines of the function; a span that ends before it starts has one. -/
def lineCount (f : Found) : Nat := f.endLine - f.startLine + 1

/-- Lines of the function, if their number is a word. -/
def lineCount? (f : Found) : Option Nat := addWord? (f.endLine - f.startLine) 1

/-- The record of a function of the given file. -/
def toRecord (f : Found) (fileName : String) (language : Language) : Record :=
  { fileName, language, name := f.name, startLine := f.startLine, endLine := f.endLine,
    fingerprint := f.fingerprint }

/-- The record of a function that is large enough. -/
def record? (f : Found) (fileName : String) (language : Language) (t : Threshold) :
    Option Record :=
  if t.admits f.lineCount f.charCount then some (f.toRecord fileName language) else none

end Found

/-- Lines of the recorded function, if neither step leaves the range of words: one more than the
last line, less the first. -/
def Record.lineCount? (r : Record) : Option Nat :=
  (addWord? r.endLine 1).bind fun n => subWord? n r.startLine

end FunctionIndex

import FunctionIndex.Json.Fault

/-!
# JSON documents as written

`Doc.scan` divides the octets of a document into values without judging them: numerals and
strings are kept as written, and where the text stops being JSON a `broken` node stands in place
of what could not be read.  Whoever reads the document from left to right thus meets its first
fault exactly where it is, and a fault behind the place where the reader stops does not matter.
-/

namespace FunctionIndex

namespace Json

/-! ### Strings -/

/-- A piece of a string as written. -/
inductive Atom where
  /-- An octet that stands for itself. -/
  | plain (b : UInt8)
  /-- A two-character escape of the given octet. -/
  | short (b : UInt8)
  /-- A hexadecimal escape. -/
  | unit (n : Nat)
  deriving DecidableEq, Repr

/-- How the reading of a string ends. -/
inductive StringEnd where
  /-- With the closing quote. -/
  | closed
  /-- With the input. -/
  | cut
  /-- With a control character. -/
  | control
  /-- With a backslash before a character that takes none. -/
  | badEscape
  /-- With a hexadecimal escape that is none. -/
  | badHex
  deriving DecidableEq, Repr

/-- A string as written. -/
structure Lexeme where
  /-- Its pieces. -/
  atoms : List Atom
  /-- How it ends. -/
  ending : StringEnd
  deriving DecidableEq, Repr

namespace Lexeme

/-- The value of a hexadecimal digit. -/
def hexValue? (b : UInt8) : Option Nat :=
  if 0x30 ≤ b && b ≤ 0x39 then some (b.toNat - 0x30)
  else if 0x61 ≤ b && b ≤ 0x66 then some (b.toNat - 0x61 + 10)
  else if 0x41 ≤ b && b ≤ 0x46 then some (b.toNat - 0x41 + 10)
  else none

/-- The value of four hexadecimal digits. -/
def hex4? (a b c d : UInt8) : Option Nat := do
  return (((← hexValue? a) * 16 + (← hexValue? b)) * 16 + (← hexValue? c)) * 16 + (← hexValue? d)

/-- The octet that a two-character escape stands for. -/
def shortEscape? (b : UInt8) : Option UInt8 :=
  if b == octet '"' || b == octet '\\' || b == octet '/' then some b
  else if b == octet 'b' then some 0x08
  else if b == octet 'f' then some 0x0C
  else if b == octet 'n' then some 0x0A
  else if b == octet 'r' then some 0x0D
  else if b == octet 't' then some 0x09
  else none

/-- Puts a piece in front of what was read after it. -/
def cons (a : Atom) (r : Lexeme × Bytes) : Lexeme × Bytes := ({ r.1 with atoms := a :: r.1.atoms }, r.2)

/-- Reads a string after its opening quote. -/
def scan : Bytes → Lexeme × Bytes
  | [] => (⟨[], .cut⟩, [])
  | b :: r =>
    if b == octet '"' then (⟨[], .closed⟩, r)
    else if b == octet '\\' then
      match r with
      | [] => (⟨[], .cut⟩, [])
      | e :: r₁ =>
        if e == octet 'u' then
          match r₁ with
          | h₁ :: h₂ :: h₃ :: h₄ :: r₂ =>
            match hex4? h₁ h₂ h₃ h₄ with
            | some n => cons (.unit n) (scan r₂)
            | none => (⟨[], .badHex⟩, r₂)
          | _ => (⟨[], .cut⟩, [])
        else
          match shortEscape? e with
          | some v => cons (.short v) (scan r₁)
          | none => (⟨[], .badEscape⟩, r₁)
    else if b < 0x20 then (⟨[], .control⟩, r)
    else cons (.plain b) (scan r)

/-- The fault of a string that is not closed, if only its form matters. -/
def fault? (t : Lexeme) : Option SyntaxFault :=
  match t.ending with
  | .closed => none
  | .cut => some .eofInString
  | .control => some .controlCharacter
  | .badEscape => some .invalidEscape
  | .badHex => some .invalidEscape

/-- The fault of a leading surrogate that is the last complete piece of a string. -/
def unpaired (e : StringEnd) : SyntaxFault :=
  match e with
  | .cut => .eofInString
  | .badHex => .invalidEscape
  | _ => .unpairedSurrogate

/-- A code unit of the first half of a surrogate pair. -/
def isLeading (n : Nat) : Bool := 0xD800 ≤ n && n ≤ 0xDBFF

/-- A code unit of the second half of a surrogate pair. -/
def isTrailing (n : Nat) : Bool := 0xDC00 ≤ n && n ≤ 0xDFFF

/-- The octets of the code point `n`, which is no surrogate. -/
def octetsOf (n : Nat) : Bytes := String.utf8EncodeChar (Char.ofNat n)

/-- The octets that the pieces of a string stand for. -/
def octets (e : StringEnd) : List Atom → Except SyntaxFault Bytes
  | [] => .ok []
  | .plain b :: as => (octets e as).map (b :: ·)
  | .short b :: as => (octets e as).map (b :: ·)
  | .unit n :: as =>
    if isTrailing n then .error .loneSurrogate
    else if isLeading n then
      match as with
      | [] => .error (unpaired e)
      | .unit n₂ :: as₁ =>
        if isTrailing n₂ then
          (octets e as₁).map (octetsOf ((n - 0xD800) * 1024 + (n₂ - 0xDC00) + 0x10000) ++ ·)
        else .error .loneSurrogate
      | _ :: _ => .error .unpairedSurrogate
    else (octets e as).map (octetsOf n ++ ·)

/-- The text of a string, or its first fault. -/
def text (t : Lexeme) : Except SyntaxFault String := do
  let bs ← octets t.ending t.atoms
  match t.fault? with
  | some e => .error e
  | none =>
    match Utf8.decode? bs with
    | some s => .ok s
    | none => .error .invalidCodePoint

end Lexeme

/-! ### Values -/

mutual

/-- A value as written. -/
inductive Doc where
  | null
  | bool (b : Bool)
  | number (n : Numeral)
  | text (t : Lexeme)
  | array (items : Items)
  | object (members : Members)
  /-- A value was due and could not be read. -/
  | broken (e : SyntaxFault)

/-- The items of an array from some point on. -/
inductive Items where
  | close
  | item (d : Doc) (rest : Items)
  /-- Neither an item nor the end could be read. -/
  | broken (e : SyntaxFault)

/-- The members of an object from some point on. -/
inductive Members where
  | close
  | member (key : Lexeme) (value : Doc) (rest : Members)
  /-- Neither a key nor the end could be read. -/
  | broken (e : SyntaxFault)

end

namespace Doc

/-- Whether an octet may stand between tokens. -/
def isSpace (b : UInt8) : Bool := b == 0x20 || b == 0x0A || b == 0x09 || b == 0x0D

/-- The octets from the next token on. -/
def skip (bs : Bytes) : Bytes := bs.dropWhile isSpace

/-- Reads the rest of a word. -/
def word (d : Doc) : Bytes → Bytes → Doc × Bytes
  | [], bs => (d, bs)
  | _ :: _, [] => (broken .eofInValue, [])
  | w :: ws, b :: bs => if w == b then word d ws bs else (broken .expectedWord, bs)

mutual

/-- Reads a value; `fuel` bounds the number of values and separators still to come. -/
def scanValue : Nat → Bytes → Doc × Bytes
  | 0, bs => (broken .eofInValue, bs)
  | fuel + 1, bs =>
    match skip bs with
    | [] => (broken .eofInValue, [])
    | b :: r =>
      if b == octet 'n' then word null (Utf8.encode "ull") r
      else if b == octet 't' then word (bool true) (Utf8.encode "rue") r
      else if b == octet 'f' then word (bool false) (Utf8.encode "alse") r
      else if b == octet '-' || isDigit b then
        let (n, rest) := Numeral.scan (b :: r)
        (number n, rest)
      else if b == octet '"' then
        let (t, rest) := Lexeme.scan r
        (text t, rest)
      else if b == octet '[' then
        let (items, rest) := scanItems fuel true r
        (array items, rest)
      else if b == 0x7B then
        let (members, rest) := scanMembers fuel true r
        (object members, rest)
      else (broken .expectedValue, b :: r)

/-- Reads items up to the end of the array; `first` before the first of them. -/
def scanItems : Nat → Bool → Bytes → Items × Bytes
  | 0, _, bs => (.broken .eofInList, bs)
  | fuel + 1, first, bs =>
    match skip bs with
    | [] => (.broken .eofInList, [])
    | b :: r =>
      if b == octet ']' then (.close, r)
      else if first then
        let (d, rest) := scanValue fuel (b :: r)
        let (items, rest) := scanItems fuel false rest
        (.item d items, rest)
      else if b == octet ',' then
        match skip r with
        | [] => (.item (broken .eofInValue) .close, [])
        | c :: r₁ =>
          if c == octet ']' then (.item (broken .trailingComma) .close, r₁)
          else
            let (d, rest) := scanValue fuel (c :: r₁)
            let (items, rest) := scanItems fuel false rest
            (.item d items, rest)
      else (.broken .expectedListEnd, r)

/-- Reads members up to the end of the object; `first` before the first of them. -/
def scanMembers : Nat → Bool → Bytes → Members × Bytes
  | 0, _, bs => (.broken .eofInObject, bs)
  | fuel + 1, first, bs =>
    match skip bs with
    | [] => (.broken .eofInObject, [])
    | b :: r =>
      if b == 0x7D then (.close, r)
      else if first then
        if b == octet '"' then scanMember fuel r else (.broken .keyNotString, r)
      else if b == octet ',' then
        match skip r with
        | [] => (.broken .eofInValue, [])
        | c :: r₁ =>
          if c == octet '"' then scanMember fuel r₁
          else if c == 0x7D then (.broken .trailingComma, r₁)
          else (.broken .keyNotString, r₁)
      else (.broken .expectedObjectEnd, r)

/-- Reads a member after the opening quote of its key, and the members after it. -/
def scanMember : Nat → Bytes → Members × Bytes
  | 0, bs => (.broken .eofInObject, bs)
  | fuel + 1, bs =>
    let (key, rest) := Lexeme.scan bs
    match skip rest with
    | [] => (.member key (broken .eofInObject) .close, [])
    | b :: r =>
      if b == octet ':' then
        let (d, rest) := scanValue fuel r
        let (members, rest) := scanMembers fuel false rest
        (.member key d members, rest)
      else (.member key (broken .expectedColon) .close, r)

end

/-- Reads the value a document begins with; the rest follows it. -/
def scan (bs : Bytes) : Doc × Bytes := scanValue (3 * bs.length + 3) bs

end Doc

end Json

end FunctionIndex

/-!
# UTF-8

Octet sequences are read as text piece by piece: a character, a run of octets that begins no
character, or a character that the end of the input cuts off.  An ill-formed run is as long as
a well-formed beginning reaches (`Piece.bad`), and that one division serves both readers:

* `Utf8.decode` accepts exactly the sequences made of characters only and otherwise says where
  and how the first ill-formed piece begins;
* `Utf8.lossy` shows each ill-formed piece as one replacement character.
-/

namespace FunctionIndex

/-- A sequence of octets: contents of a file, a path, an argument. -/
abbrev Bytes := List UInt8

namespace Utf8

/-- One piece of an octet sequence read as UTF-8. -/
inductive Piece where
  /-- A well-formed character. -/
  | char (c : Char)
  /-- So many octets that begin no character. -/
  | bad (octets : Nat)
  /-- So many octets at the end of the input that begin a character without finishing it. -/
  | cut (octets : Nat)
  deriving DecidableEq, Repr

/-- An octet that continues a character. -/
def isTail (b : UInt8) : Bool := 0x80 ≤ b && b ≤ 0xBF

/-- A second octet that can follow the lead `b` of a character of three octets: no longer than
needed, and no surrogate. -/
def isSecondOfThree (b b₁ : UInt8) : Bool :=
  if b == 0xE0 then 0xA0 ≤ b₁ && b₁ ≤ 0xBF
  else if b == 0xED then 0x80 ≤ b₁ && b₁ ≤ 0x9F
  else isTail b₁

/-- A second octet that can follow the lead `b` of a character of four octets: no longer than
needed, and at most U+10FFFF. -/
def isSecondOfFour (b b₁ : UInt8) : Bool :=
  if b == 0xF0 then 0x90 ≤ b₁ && b₁ ≤ 0xBF
  else if b == 0xF4 then 0x80 ≤ b₁ && b₁ ≤ 0x8F
  else isTail b₁

/-- The six payload bits of a continuing octet. -/
def tailBits (b : UInt8) : Nat := b.toNat - 0x80

/-- The pieces of an octet sequence, in order. -/
def pieces : Bytes → List Piece
  | [] => []
  | b :: r =>
    if b < 0x80 then .char (Char.ofNat b.toNat) :: pieces r
    else if 0xC2 ≤ b && b ≤ 0xDF then
      match r with
      | [] => [.cut 1]
      | b₁ :: r₁ =>
        if isTail b₁ then
          .char (Char.ofNat ((b.toNat - 0xC0) * 64 + tailBits b₁)) :: pieces r₁
        else .bad 1 :: pieces (b₁ :: r₁)
    else if 0xE0 ≤ b && b ≤ 0xEF then
      match r with
      | [] => [.cut 1]
      | b₁ :: r₁ =>
        if isSecondOfThree b b₁ then
          match r₁ with
          | [] => [.cut 2]
          | b₂ :: r₂ =>
            if isTail b₂ then
              .char (Char.ofNat (((b.toNat - 0xE0) * 64 + tailBits b₁) * 64 + tailBits b₂)) ::
                pieces r₂
            else .bad 2 :: pieces (b₂ :: r₂)
        else .bad 1 :: pieces (b₁ :: r₁)
    else if 0xF0 ≤ b && b ≤ 0xF4 then
      match r with
      | [] => [.cut 1]
      | b₁ :: r₁ =>
        if isSecondOfFour b b₁ then
          match r₁ with
          | [] => [.cut 2]
          | b₂ :: r₂ =>
            if isTail b₂ then
              match r₂ with
              | [] => [.cut 3]
              | b₃ :: r₃ =>
                if isTail b₃ then
                  .char (Char.ofNat ((((b.toNat - 0xF0) * 64 + tailBits b₁) * 64 + tailBits b₂)
                    * 64 + tailBits b₃)) :: pieces r₃
                else .bad 3 :: pieces (b₃ :: r₃)
            else .bad 2 :: pieces (b₂ :: r₂)
        else .bad 1 :: pieces (b₁ :: r₁)
    else .bad 1 :: pieces r

/-- Why an octet sequence is not UTF-8. -/
structure Fault where
  /-- Number of octets before the first ill-formed piece. -/
  validUpTo : Nat
  /-- Length of the ill-formed piece; `none` when the input ends inside a character. -/
  octets : Option Nat
  deriving DecidableEq, Repr

/-- The sentence that describes a fault. -/
def Fault.message (e : Fault) : String :=
  match e.octets with
  | some n => s!"invalid utf-8 sequence of {n} bytes from index {e.validUpTo}"
  | none => s!"incomplete utf-8 byte sequence from index {e.validUpTo}"

/-- The characters of pieces that are characters only, the first piece standing at octet `n`. -/
def charsFrom (n : Nat) : List Piece → Except Fault (List Char)
  | [] => .ok []
  | .char c :: ps =>
    match charsFrom (n + c.utf8Size) ps with
    | .ok cs => .ok (c :: cs)
    | .error e => .error e
  | .bad k :: _ => .error ⟨n, some k⟩
  | .cut _ :: _ => .error ⟨n, none⟩

/-- The characters of an octet sequence, if it is UTF-8 throughout. -/
def decodeChars (bs : Bytes) : Except Fault (List Char) := charsFrom 0 (pieces bs)

/-- The text of an octet sequence, if it is UTF-8 throughout. -/
def decode (bs : Bytes) : Except Fault String := (decodeChars bs).map String.ofList

/-- The text of an octet sequence that is UTF-8 throughout. -/
def decode? (bs : Bytes) : Option String := (decode bs).toOption

/-- A piece as a reader sees it: an ill-formed one is the replacement character. -/
def Piece.shown : Piece → Char
  | .char c => c
  | .bad _ => Char.ofNat 0xFFFD
  | .cut _ => Char.ofNat 0xFFFD

/-- The text of any octet sequence, ill-formed pieces replaced. -/
def lossy (bs : Bytes) : String := String.ofList ((pieces bs).map Piece.shown)

/-- The octets of a text. -/
def encode (s : String) : Bytes := s.toList.flatMap String.utf8EncodeChar

end Utf8

end FunctionIndex

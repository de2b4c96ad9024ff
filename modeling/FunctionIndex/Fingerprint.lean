import FunctionIndex.Sha256

/-!
# Fingerprints

A fingerprint identifies a function by its tokens: the SHA-256 digest of the token texts with
one space between them.  Layout and comments leave no trace, and under a policy that abstracts
identifiers neither do names.

`Builder` takes the tokens one after the other; `Fingerprint.stream` is the text it has
written after all of them, in one formula.
-/

namespace FunctionIndex

/-- What is done to tokens before they are hashed. -/
structure Policy where
  /-- Identifiers are replaced by one placeholder, so that renaming keeps the fingerprint. -/
  abstractIdentifiers : Bool := false
  deriving DecidableEq, Repr

/-- A token of a function. -/
inductive Token where
  /-- A name. -/
  | identifier (text : String)
  /-- Anything else. -/
  | other (text : String)
  deriving DecidableEq, Repr

namespace Fingerprint

/-- What an abstracted identifier is hashed as. -/
def placeholder : String := "$id"

/-- The text a token is hashed as. -/
def normal (p : Policy) : Token → String
  | .identifier text => if p.abstractIdentifiers then placeholder else text
  | .other text => text

/-- The texts that reach the digest, in order: empty ones do not. -/
def texts (p : Policy) (ts : List Token) : List String :=
  (ts.map (normal p)).filter fun t => !t.isEmpty

/-- The text that is hashed for a sequence of tokens. -/
def stream (p : Policy) (ts : List Token) : String := " ".intercalate (texts p ts)

/-- The fingerprint of a sequence of tokens. -/
def ofTokens (p : Policy) (ts : List Token) : String := Sha256.hex (Utf8.encode (stream p ts))

end Fingerprint

/-- A fingerprint under construction. -/
structure Builder where
  /-- How tokens are normalised. -/
  policy : Policy
  /-- Whether nothing has been written yet. -/
  fresh : Bool
  /-- The text written so far. -/
  written : String

namespace Builder

/-- The builder before the first token. -/
def new (p : Policy) : Builder := ⟨p, true, ""⟩

/-- Writes a text after a separating space; an empty text is skipped. -/
def write (b : Builder) (text : String) : Builder :=
  if text.isEmpty then b
  else if b.fresh then { b with fresh := false, written := b.written ++ text }
  else { b with written := b.written ++ " " ++ text }

/-- Takes the next token. -/
def push (b : Builder) (t : Token) : Builder := b.write (Fingerprint.normal b.policy t)

/-- Takes several tokens, in order. -/
def pushAll (b : Builder) (ts : List Token) : Builder := ts.foldl push b

/-- The fingerprint of the tokens taken so far. -/
def finish (b : Builder) : String := Sha256.hex (Utf8.encode b.written)

end Builder

end FunctionIndex

import FunctionIndex.Shell.Digest

/-!
# SM3

A digest of 256 bits.  Blocks of 64 octets are stretched to 68 words and mixed into a state of eight
words in 64 steps.
-/

namespace FunctionIndex

namespace Shell

namespace Digest

namespace Sm3

/-- The words that the state starts with. -/
def start : Array UInt32 := #[
  0x7380166f, 0x4914b2b9, 0x172442d7, 0xda8a0600, 0xa96f30bc, 0x163138aa, 0xe38dee4d, 0xb0fb0e4e]

/-- The word of four octets, the most significant first. -/
def word (bs : Bytes) : UInt32 := bs.foldl (fun w b => w <<< 8 ||| b.toUInt32) 0

/-- Stretches the words of a block. -/
def stretch (block : Array UInt32) : Array UInt32 :=
  (List.range 52).foldl (fun w i =>
    let at_ (k : Nat) : UInt32 := w.getD (i + 16 - k) 0
    let x := at_ 16 ^^^ at_ 9 ^^^ rotateLeft (at_ 3) 15
    let p := x ^^^ rotateLeft x 15 ^^^ rotateLeft x 23
    w.push (p ^^^ rotateLeft (at_ 13) 7 ^^^ at_ 6)) block

/-- The bits of a word moved left any number of places. -/
def turned (x : UInt32) (n : Nat) : UInt32 :=
  if n % 32 = 0 then x else rotateLeft x (n % 32).toUInt32

/-- One step. -/
def step (w : Array UInt32) (s : Array UInt32) (j : Nat) : Array UInt32 :=
  let r (k : Nat) : UInt32 := s.getD k 0
  let constant : UInt32 := if j < 16 then 0x79cc4519 else 0x7a879d8a
  let twelve := rotateLeft (r 0) 12
  let ss1 := rotateLeft (twelve + r 4 + turned constant j) 7
  let ss2 := ss1 ^^^ twelve
  let ff := if j < 16 then r 0 ^^^ r 1 ^^^ r 2
    else (r 0 &&& r 1) ||| (r 0 &&& r 2) ||| (r 1 &&& r 2)
  let gg := if j < 16 then r 4 ^^^ r 5 ^^^ r 6 else (r 4 &&& r 5) ||| (~~~(r 4) &&& r 6)
  let t1 := ff + r 3 + ss2 + (w.getD j 0 ^^^ w.getD (j + 4) 0)
  let t2 := gg + r 7 + ss1 + w.getD j 0
  #[t1, r 0, rotateLeft (r 1) 9, r 2, t2 ^^^ rotateLeft t2 9 ^^^ rotateLeft t2 17, r 4,
    rotateLeft (r 5) 19, r 6]

/-- Mixes a block into the state. -/
def compress (s : Array UInt32) (block : Bytes) : Array UInt32 :=
  let w := stretch ((blocks 4 16 block).map word).toArray
  let t := (List.range 64).foldl (step w) s
  ((List.range 8).map fun i => s.getD i 0 ^^^ t.getD i 0).toArray

end Sm3

/-- The SM3 digest of octets. -/
def sm3 (bs : Bytes) : String :=
  let padded := padded 64 8 false bs
  let s := (blocks 64 (padded.length / 64) padded).foldl Sm3.compress Sm3.start
  hexOf (s.toList.flatMap octets32)

end Digest

end Shell

end FunctionIndex

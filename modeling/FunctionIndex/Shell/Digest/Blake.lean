import FunctionIndex.Shell.Digest

/-!
# BLAKE2b

A digest of up to 512 bits.  Blocks of 128 octets are mixed into a state of eight words of 64 bits,
together with the number of octets so far; the last block is marked.
-/

namespace FunctionIndex

namespace Shell

namespace Digest

namespace Blake

/-- The words that the state starts with. -/
def start : Array UInt64 := #[
  0x6a09e667f3bcc908, 0xbb67ae8584caa73b, 0x3c6ef372fe94f82b, 0xa54ff53a5f1d36f1,
  0x510e527fade682d1, 0x9b05688c2b3e6c1f, 0x1f83d9abfb41bd6b, 0x5be0cd19137e2179]

/-- The order of the words of a block in each round. -/
def orders : Array (Array Nat) := #[
  #[0, 1, 2, 3, 4, 5, 6, 7, 8, 9, 10, 11, 12, 13, 14, 15],
  #[14, 10, 4, 8, 9, 15, 13, 6, 1, 12, 0, 2, 11, 7, 5, 3],
  #[11, 8, 12, 0, 5, 2, 15, 13, 10, 14, 3, 6, 7, 1, 9, 4],
  #[7, 9, 3, 1, 13, 12, 11, 14, 2, 6, 5, 10, 4, 0, 15, 8],
  #[9, 0, 5, 7, 2, 4, 10, 15, 14, 1, 11, 12, 6, 8, 3, 13],
  #[2, 12, 6, 10, 0, 11, 8, 3, 4, 13, 7, 5, 15, 14, 1, 9],
  #[12, 5, 1, 15, 14, 13, 4, 10, 0, 7, 6, 3, 9, 2, 8, 11],
  #[13, 11, 7, 14, 12, 1, 3, 9, 5, 0, 15, 4, 8, 6, 2, 10],
  #[6, 15, 14, 9, 11, 3, 0, 8, 12, 2, 13, 7, 1, 4, 10, 5],
  #[10, 2, 8, 4, 7, 6, 1, 5, 15, 11, 9, 14, 3, 12, 13, 0]]

/-- The places of the words that are mixed with each other, in the steps of a round. -/
def places : List (Nat × Nat × Nat × Nat) :=
  [(0, 4, 8, 12), (1, 5, 9, 13), (2, 6, 10, 14), (3, 7, 11, 15),
    (0, 5, 10, 15), (1, 6, 11, 12), (2, 7, 8, 13), (3, 4, 9, 14)]

/-- Mixes four words with two of a block. -/
def mix (v : Array UInt64) (p : Nat × Nat × Nat × Nat) (x y : UInt64) : Array UInt64 :=
  let (i, j, k, l) := p
  let a := v.getD i 0 + v.getD j 0 + x
  let d := rotateRight64 (v.getD l 0 ^^^ a) 32
  let c := v.getD k 0 + d
  let b := rotateRight64 (v.getD j 0 ^^^ c) 24
  let a := a + b + y
  let d := rotateRight64 (d ^^^ a) 16
  let c := c + d
  let b := rotateRight64 (b ^^^ c) 63
  (((v.setIfInBounds i a).setIfInBounds j b).setIfInBounds k c).setIfInBounds l d

/-- One round. -/
def mixRound (block : Array UInt64) (v : Array UInt64) (n : Nat) : Array UInt64 :=
  let order := orders.getD (n % 10) #[]
  places.zipIdx.foldl (fun v (p, i) =>
    mix v p (block.getD (order.getD (2 * i) 0) 0) (block.getD (order.getD (2 * i + 1) 0) 0)) v

/-- The word of eight octets, the least significant first. -/
def word (bs : Bytes) : UInt64 := bs.reverse.foldl (fun w b => w <<< 8 ||| b.toUInt64) 0

/-- The words of a block. -/
def words (bs : Bytes) : Array UInt64 := ((blocks 8 16 bs).map word).toArray

/-- Mixes a block into the state; `count` is the number of octets up to its end. -/
def compress (h : Array UInt64) (bs : Bytes) (count : Nat) (last : Bool) : Array UInt64 :=
  let block := words (bs ++ List.replicate (128 - bs.length) 0)
  let v := h ++ start
  let v := v.setIfInBounds 12 (v.getD 12 0 ^^^ count.toUInt64)
  let v := if last then v.setIfInBounds 14 (~~~(v.getD 14 0)) else v
  let v := (List.range 12).foldl (mixRound block) v
  ((List.range 8).map fun i => h.getD i 0 ^^^ v.getD i 0 ^^^ v.getD (i + 8) 0).toArray

/-- Mixes blocks into the state one after the other. -/
def compressAll (h : Array UInt64) (count : Nat) : List Bytes → Array UInt64
  | [] => h
  | [b] => compress h b (count + b.length) true
  | b :: bs => compressAll (compress h b (count + b.length) false) (count + b.length) bs

end Blake

/-- The BLAKE2b digest of octets, so many octets long. -/
def blake2b (size : Nat) (bs : Bytes) : String :=
  let head := Blake.start.setIfInBounds 0
    (Blake.start.getD 0 0 ^^^ (0x01010000 + size).toUInt64)
  let pieces := blocks 128 (bs.length / 128 + 1) bs
  let h := Blake.compressAll head 0 (if pieces.isEmpty then [[]] else pieces)
  hexOf ((h.toList.flatMap fun w => (Sha256.octets64 w.toNat).reverse).take size)

end Digest

end Shell

end FunctionIndex

import FunctionIndex.Sha256

/-!
# Digests and checksums

Numbers that tell whether octets have changed: a checksum of 32 bits, two plain sums, and the
digests of 128 to 512 bits.  A digest pads the octets to whole blocks and mixes each block into a
state of several words.
-/

namespace FunctionIndex

namespace Shell

namespace Digest

/-- The rounds of octets in whole blocks: `size` octets each, `n` of them at most. -/
def blocks (size : Nat) : Nat → Bytes → List Bytes
  | 0, _ => []
  | n + 1, bs => if bs.isEmpty then [] else bs.take size :: blocks size n (bs.drop size)

/-- Octets with their padding: one set bit, zeros, and the length in bits as `width` octets that
end a block of `size` octets. -/
def padded (size width : Nat) (littleEndian : Bool) (bs : Bytes) : Bytes :=
  let n := bs.length
  let zeros := (2 * size - 1 - width - n % size) % size
  let length := List.replicate (width - 8) 0 ++ Sha256.octets64 (8 * n)
  bs ++ 0x80 :: List.replicate zeros 0 ++ (if littleEndian then length.reverse else length)

/-- Octets as hexadecimal digits. -/
def hexOf (bs : Bytes) : String :=
  String.ofList (bs.flatMap fun b => [Nat.digitChar (b.toNat / 16), Nat.digitChar (b.toNat % 16)])

/-- The octets of a word, most significant first. -/
def octets32 (w : UInt32) : Bytes := [(w >>> 24).toUInt8, (w >>> 16).toUInt8, (w >>> 8).toUInt8, w.toUInt8]

/-- The bits of a word moved left by `n`, those that fall off coming in on the right. -/
def rotateLeft (x n : UInt32) : UInt32 := (x <<< n) ||| (x >>> (32 - n))

/-! ### 128 bits -/

/-- Fractional parts of sines, one for each step. -/
def sines : Array UInt32 := #[
  0xd76aa478, 0xe8c7b756, 0x242070db, 0xc1bdceee, 0xf57c0faf, 0x4787c62a, 0xa8304613, 0xfd469501,
  0x698098d8, 0x8b44f7af, 0xffff5bb1, 0x895cd7be, 0x6b901122, 0xfd987193, 0xa679438e, 0x49b40821,
  0xf61e2562, 0xc040b340, 0x265e5a51, 0xe9b6c7aa, 0xd62f105d, 0x02441453, 0xd8a1e681, 0xe7d3fbc8,
  0x21e1cde6, 0xc33707d6, 0xf4d50d87, 0x455a14ed, 0xa9e3e905, 0xfcefa3f8, 0x676f02d9, 0x8d2a4c8a,
  0xfffa3942, 0x8771f681, 0x6d9d6122, 0xfde5380c, 0xa4beea44, 0x4bdecfa9, 0xf6bb4b60, 0xbebfbc70,
  0x289b7ec6, 0xeaa127fa, 0xd4ef3085, 0x04881d05, 0xd9d4d039, 0xe6db99e5, 0x1fa27cf8, 0xc4ac5665,
  0xf4292244, 0x432aff97, 0xab9423a7, 0xfc93a039, 0x655b59c3, 0x8f0ccc92, 0xffeff47d, 0x85845dd1,
  0x6fa87e4f, 0xfe2ce6e0, 0xa3014314, 0x4e0811a1, 0xf7537e82, 0xbd3af235, 0x2ad7d2bb, 0xeb86d391]

/-- How far words are moved in the steps of each round. -/
def shifts : Array UInt32 := #[7, 12, 17, 22, 5, 9, 14, 20, 4, 11, 16, 23, 6, 10, 15, 21]

/-- Four words. -/
structure Words4 where
  a : UInt32
  b : UInt32
  c : UInt32
  d : UInt32

/-- One step of the digest of 128 bits. -/
def step128 (block : Array UInt32) (s : Words4) (i : Nat) : Words4 :=
  let (f, k) := match i / 16 with
    | 0 => ((s.b &&& s.c) ||| (~~~s.b &&& s.d), i)
    | 1 => ((s.d &&& s.b) ||| (~~~s.d &&& s.c), (5 * i + 1) % 16)
    | 2 => (s.b ^^^ s.c ^^^ s.d, (3 * i + 5) % 16)
    | _ => (s.c ^^^ (s.b ||| ~~~s.d), (7 * i) % 16)
  let x := f + s.a + sines.getD i 0 + block.getD k 0
  ⟨s.d, s.b + rotateLeft x (shifts.getD (i / 16 * 4 + i % 4) 0), s.b, s.c⟩

/-- Octets read as words of four, least significant first. -/
def littleWords : Bytes → List UInt32
  | b₀ :: b₁ :: b₂ :: b₃ :: r =>
    (b₀.toUInt32 ||| (b₁.toUInt32 <<< 8) ||| (b₂.toUInt32 <<< 16) ||| (b₃.toUInt32 <<< 24)) ::
      littleWords r
  | _ => []

/-- The digest of 128 bits. -/
def md5 (bs : Bytes) : String :=
  let message := padded 64 8 true bs
  let mix (s : Words4) (block : Bytes) : Words4 :=
    let t := (List.range 64).foldl (step128 (littleWords block).toArray) s
    ⟨s.a + t.a, s.b + t.b, s.c + t.c, s.d + t.d⟩
  let s := (blocks 64 (message.length / 64 + 1) message).foldl mix
    ⟨0x67452301, 0xefcdab89, 0x98badcfe, 0x10325476⟩
  hexOf ([s.a, s.b, s.c, s.d].flatMap fun w => (octets32 w).reverse)

/-! ### 160 bits -/

/-- Five words. -/
structure Words5 where
  a : UInt32
  b : UInt32
  c : UInt32
  d : UInt32
  e : UInt32

/-- The 80 words that feed the steps, from the 16 words of a block. -/
def schedule160 (block : List UInt32) : Array UInt32 :=
  (List.range 64).foldl
    (fun w i => w.push (rotateLeft (w.getD (i + 13) 0 ^^^ w.getD (i + 8) 0 ^^^ w.getD (i + 2) 0 ^^^ w.getD i 0) 1))
    block.toArray

/-- One step of the digest of 160 bits. -/
def step160 (w : Array UInt32) (s : Words5) (i : Nat) : Words5 :=
  let (f, k) : UInt32 × UInt32 := match i / 20 with
    | 0 => ((s.b &&& s.c) ||| (~~~s.b &&& s.d), 0x5a827999)
    | 1 => (s.b ^^^ s.c ^^^ s.d, 0x6ed9eba1)
    | 2 => ((s.b &&& s.c) ||| (s.b &&& s.d) ||| (s.c &&& s.d), 0x8f1bbcdc)
    | _ => (s.b ^^^ s.c ^^^ s.d, 0xca62c1d6)
  ⟨rotateLeft s.a 5 + f + s.e + k + w.getD i 0, s.a, rotateLeft s.b 30, s.c, s.d⟩

/-- The digest of 160 bits. -/
def sha1 (bs : Bytes) : String :=
  let message := padded 64 8 false bs
  let mix (s : Words5) (block : Bytes) : Words5 :=
    let t := (List.range 80).foldl (step160 (schedule160 (Sha256.words block))) s
    ⟨s.a + t.a, s.b + t.b, s.c + t.c, s.d + t.d, s.e + t.e⟩
  let s := (blocks 64 (message.length / 64 + 1) message).foldl mix
    ⟨0x67452301, 0xefcdab89, 0x98badcfe, 0x10325476, 0xc3d2e1f0⟩
  hexOf ([s.a, s.b, s.c, s.d, s.e].flatMap octets32)

/-! ### 224 and 256 bits -/

/-- The digest of 256 bits. -/
def sha256 (bs : Bytes) : String := Sha256.hex bs

/-- The digest of 224 bits: that of 256 bits from another state, cut short. -/
def sha224 (bs : Bytes) : String :=
  let ws := Sha256.words (Sha256.pad bs)
  let s := Sha256.absorb (ws.length / 16)
    ⟨0xc1059ed8, 0x367cd507, 0x3070dd17, 0xf70e5939, 0xffc00b31, 0x68581511, 0x64f98fa7, 0xbefa4fa4⟩ ws
  hexOf ([s.a, s.b, s.c, s.d, s.e, s.f, s.g].flatMap octets32)

/-! ### 384 and 512 bits -/

/-- The round constants: fractional parts of the cube roots of the first 80 primes. -/
def constants512 : Array UInt64 := #[
  0x428a2f98d728ae22, 0x7137449123ef65cd, 0xb5c0fbcfec4d3b2f, 0xe9b5dba58189dbbc,
  0x3956c25bf348b538, 0x59f111f1b605d019, 0x923f82a4af194f9b, 0xab1c5ed5da6d8118,
  0xd807aa98a3030242, 0x12835b0145706fbe, 0x243185be4ee4b28c, 0x550c7dc3d5ffb4e2,
  0x72be5d74f27b896f, 0x80deb1fe3b1696b1, 0x9bdc06a725c71235, 0xc19bf174cf692694,
  0xe49b69c19ef14ad2, 0xefbe4786384f25e3, 0x0fc19dc68b8cd5b5, 0x240ca1cc77ac9c65,
  0x2de92c6f592b0275, 0x4a7484aa6ea6e483, 0x5cb0a9dcbd41fbd4, 0x76f988da831153b5,
  0x983e5152ee66dfab, 0xa831c66d2db43210, 0xb00327c898fb213f, 0xbf597fc7beef0ee4,
  0xc6e00bf33da88fc2, 0xd5a79147930aa725, 0x06ca6351e003826f, 0x142929670a0e6e70,
  0x27b70a8546d22ffc, 0x2e1b21385c26c926, 0x4d2c6dfc5ac42aed, 0x53380d139d95b3df,
  0x650a73548baf63de, 0x766a0abb3c77b2a8, 0x81c2c92e47edaee6, 0x92722c851482353b,
  0xa2bfe8a14cf10364, 0xa81a664bbc423001, 0xc24b8b70d0f89791, 0xc76c51a30654be30,
  0xd192e819d6ef5218, 0xd69906245565a910, 0xf40e35855771202a, 0x106aa07032bbd1b8,
  0x19a4c116b8d2d0c8, 0x1e376c085141ab53, 0x2748774cdf8eeb99, 0x34b0bcb5e19b48a8,
  0x391c0cb3c5c95a63, 0x4ed8aa4ae3418acb, 0x5b9cca4f7763e373, 0x682e6ff3d6b2b8a3,
  0x748f82ee5defb2fc, 0x78a5636f43172f60, 0x84c87814a1f0ab72, 0x8cc702081a6439ec,
  0x90befffa23631e28, 0xa4506cebde82bde9, 0xbef9a3f7b2c67915, 0xc67178f2e372532b,
  0xca273eceea26619c, 0xd186b8c721c0c207, 0xeada7dd6cde0eb1e, 0xf57d4f7fee6ed178,
  0x06f067aa72176fba, 0x0a637dc5a2c898a6, 0x113f9804bef90dae, 0x1b710b35131c471b,
  0x28db77f523047d84, 0x32caab7b40c72493, 0x3c9ebe0a15c9bebc, 0x431d67c49c100d4c,
  0x4cc5d4becb3e42b6, 0x597f299cfc657e2a, 0x5fcb6fab3ad6faec, 0x6c44198c4a475817]

/-- Eight words. -/
structure Words8 where
  a : UInt64
  b : UInt64
  c : UInt64
  d : UInt64
  e : UInt64
  f : UInt64
  g : UInt64
  h : UInt64

/-- The bits of a word moved right by `n`, those that fall off coming in on the left. -/
def rotateRight64 (x n : UInt64) : UInt64 := (x >>> n) ||| (x <<< (64 - n))

/-- Octets read as words of eight, most significant first. -/
def words64 (bs : Bytes) : List UInt64 :=
  (blocks 8 (bs.length / 8 + 1) bs).map fun b => b.foldl (fun w x => (w <<< 8) ||| x.toUInt64) 0

/-- The 80 words that feed the rounds, from the 16 words of a block. -/
def schedule512 (block : List UInt64) : Array UInt64 :=
  (List.range 64).foldl
    (fun w i =>
      let x := w.getD (i + 1) 0
      let y := w.getD (i + 14) 0
      let s₀ := rotateRight64 x 1 ^^^ rotateRight64 x 8 ^^^ (x >>> 7)
      let s₁ := rotateRight64 y 19 ^^^ rotateRight64 y 61 ^^^ (y >>> 6)
      w.push (w.getD i 0 + s₀ + w.getD (i + 9) 0 + s₁))
    block.toArray

/-- One round of the digest of 512 bits. -/
def round512 (w : Array UInt64) (s : Words8) (i : Nat) : Words8 :=
  let s₁ := rotateRight64 s.e 14 ^^^ rotateRight64 s.e 18 ^^^ rotateRight64 s.e 41
  let choice := (s.e &&& s.f) ^^^ (~~~s.e &&& s.g)
  let t₁ := s.h + s₁ + choice + constants512.getD i 0 + w.getD i 0
  let s₀ := rotateRight64 s.a 28 ^^^ rotateRight64 s.a 34 ^^^ rotateRight64 s.a 39
  let majority := (s.a &&& s.b) ^^^ (s.a &&& s.c) ^^^ (s.b &&& s.c)
  ⟨t₁ + s₀ + majority, s.a, s.b, s.c, s.d + t₁, s.e, s.f, s.g⟩

/-- The octets of the state after octets, from a state. -/
def mixed512 (start : Words8) (bs : Bytes) : Bytes :=
  let message := padded 128 16 false bs
  let mix (s : Words8) (block : Bytes) : Words8 :=
    let t := (List.range 80).foldl (round512 (schedule512 (words64 block))) s
    ⟨s.a + t.a, s.b + t.b, s.c + t.c, s.d + t.d, s.e + t.e, s.f + t.f, s.g + t.g, s.h + t.h⟩
  let s := (blocks 128 (message.length / 128 + 1) message).foldl mix start
  [s.a, s.b, s.c, s.d, s.e, s.f, s.g, s.h].flatMap fun w => Sha256.octets64 w.toNat

/-- The digest of 512 bits. -/
def sha512 (bs : Bytes) : String :=
  hexOf (mixed512 ⟨0x6a09e667f3bcc908, 0xbb67ae8584caa73b, 0x3c6ef372fe94f82b, 0xa54ff53a5f1d36f1,
    0x510e527fade682d1, 0x9b05688c2b3e6c1f, 0x1f83d9abfb41bd6b, 0x5be0cd19137e2179⟩ bs)

/-- The digest of 384 bits: that of 512 bits from another state, cut short. -/
def sha384 (bs : Bytes) : String :=
  hexOf ((mixed512 ⟨0xcbbb9d5dc1059ed8, 0x629a292a367cd507, 0x9159015a3070dd17, 0x152fecd8f70e5939,
    0x67332667ffc00b31, 0x8eb44a8768581511, 0xdb0c2e0d64f98fa7, 0x47b5481dbefa4fa4⟩ bs).take 48)

/-! ### Checksums -/

/-- The checksum after eight more bits. -/
def crcStep (crc : UInt32) (b : UInt8) : UInt32 :=
  (List.range 8).foldl
    (fun c _ => if c &&& 0x80000000 != 0 then (c <<< 1) ^^^ 0x04c11db7 else c <<< 1)
    (crc ^^^ (b.toUInt32 <<< 24))

/-- The octets of a number, least significant first, without zeros at the end. -/
def littleOctets : Nat → Nat → Bytes
  | 0, _ => []
  | fuel + 1, n => if n = 0 then [] else n.toUInt8 :: littleOctets fuel (n / 256)

/-- The checksum of 32 bits, of octets and their number. -/
def crc (bs : Bytes) : Nat := (~~~((bs ++ littleOctets 8 bs.length).foldl crcStep 0)).toNat

/-- The checksum of 32 bits that takes the bits of each octet from the least significant on. -/
def crcReversed (bs : Bytes) : Nat :=
  let step (crc : UInt32) (b : UInt8) : UInt32 :=
    (List.range 8).foldl
      (fun c _ => if c &&& 1 != 0 then (c >>> 1) ^^^ 0xedb88320 else c >>> 1)
      (crc ^^^ b.toUInt32)
  (~~~(bs.foldl step 0xffffffff)).toNat

/-- The sum of octets, turned to the right by one bit before each. -/
def turnedSum (bs : Bytes) : Nat :=
  bs.foldl (fun s b => (s / 2 + s % 2 * 0x8000 + b.toNat) % 0x10000) 0

/-- The sum of octets, folded to 16 bits. -/
def foldedSum (bs : Bytes) : Nat :=
  let s := bs.foldl (fun s b => s + b.toNat) 0 % 0x100000000
  let r := s % 0x10000 + s / 0x10000
  r % 0x10000 + r / 0x10000

end Digest

end Shell

end FunctionIndex

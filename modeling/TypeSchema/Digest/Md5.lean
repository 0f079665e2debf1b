/-!
# MD5

The MD5 digest of a sequence of bytes, as a number of 128 bits whose most significant byte
is the first byte of the digest. The message is padded to whole blocks of sixteen
little-endian words; each block drives sixty-four steps of a register of four words.
-/

namespace TypeSchema.Md5

/-- The register: four words, updated by every step. -/
structure Register where
  a : UInt32
  b : UInt32
  c : UInt32
  d : UInt32
  deriving Repr, DecidableEq

/-- The register before the first block. -/
def Register.initial : Register := ⟨0x67452301, 0xefcdab89, 0x98badcfe, 0x10325476⟩

/-- The additive constant of each step: the leading 32 bits of `|sin (i + 1)|`. -/
def constants : List UInt32 :=
  [0xd76aa478, 0xe8c7b756, 0x242070db, 0xc1bdceee, 0xf57c0faf, 0x4787c62a,
   0xa8304613, 0xfd469501, 0x698098d8, 0x8b44f7af, 0xffff5bb1, 0x895cd7be,
   0x6b901122, 0xfd987193, 0xa679438e, 0x49b40821, 0xf61e2562, 0xc040b340,
   0x265e5a51, 0xe9b6c7aa, 0xd62f105d, 0x02441453, 0xd8a1e681, 0xe7d3fbc8,
   0x21e1cde6, 0xc33707d6, 0xf4d50d87, 0x455a14ed, 0xa9e3e905, 0xfcefa3f8,
   0x676f02d9, 0x8d2a4c8a, 0xfffa3942, 0x8771f681, 0x6d9d6122, 0xfde5380c,
   0xa4beea44, 0x4bdecfa9, 0xf6bb4b60, 0xbebfbc70, 0x289b7ec6, 0xeaa127fa,
   0xd4ef3085, 0x04881d05, 0xd9d4d039, 0xe6db99e5, 0x1fa27cf8, 0xc4ac5665,
   0xf4292244, 0x432aff97, 0xab9423a7, 0xfc93a039, 0x655b59c3, 0x8f0ccc92,
   0xffeff47d, 0x85845dd1, 0x6fa87e4f, 0xfe2ce6e0, 0xa3014314, 0x4e0811a1,
   0xf7537e82, 0xbd3af235, 0x2ad7d2bb, 0xeb86d391]

/-- How far each step rotates: four amounts per group of sixteen steps, in turn. -/
def rotation (i : Nat) : UInt32 :=
  match i / 16, i % 4 with
  | 0, 0 => 7 | 0, 1 => 12 | 0, 2 => 17 | 0, _ => 22
  | 1, 0 => 5 | 1, 1 => 9 | 1, 2 => 14 | 1, _ => 20
  | 2, 0 => 4 | 2, 1 => 11 | 2, 2 => 16 | 2, _ => 23
  | _, 0 => 6 | _, 1 => 10 | _, 2 => 15 | _, _ => 21

/-- A word rotated to the left. -/
def rotateLeft (x r : UInt32) : UInt32 := (x <<< r) ||| (x >>> (32 - r))

/-- The mixing function of step `i` and the index of the word it reads. -/
def mix (r : Register) (i : Nat) : UInt32 × Nat :=
  match i / 16 with
  | 0 => ((r.b &&& r.c) ||| (~~~r.b &&& r.d), i)
  | 1 => ((r.d &&& r.b) ||| (~~~r.d &&& r.c), (5 * i + 1) % 16)
  | 2 => (r.b ^^^ r.c ^^^ r.d, (3 * i + 5) % 16)
  | _ => (r.c ^^^ (r.b ||| ~~~r.d), (7 * i) % 16)

/-- Step `i`, with its constant, on one block of words. -/
def step (block : List UInt32) (r : Register) (constant : UInt32 × Nat) : Register :=
  let (k, i) := constant
  let (f, g) := mix r i
  let sum := f + r.a + k + block.getD g 0
  ⟨r.d, r.b + rotateLeft sum (rotation i), r.b, r.c⟩

/-- The register after one more block. -/
def compress (r : Register) (block : List UInt32) : Register :=
  let s := constants.zipIdx.foldl (step block) r
  ⟨r.a + s.a, r.b + s.b, r.c + s.c, r.d + s.d⟩

/-- The bytes of a number, `count` of them, least significant first. -/
def littleEndian : (count n : Nat) → List UInt8
  | 0, _ => []
  | count + 1, n => UInt8.ofNat n :: littleEndian count (n / 256)

/-- The message followed by a one bit, zeros and its length, in whole blocks. -/
def pad (message : List UInt8) : List UInt8 :=
  -- The bit takes a byte and the length eight, which leaves 55 of the 64 bytes of a block.
  let zeros := (119 - message.length % 64) % 64
  message ++ 0x80 :: (List.replicate zeros 0 ++ littleEndian 8 (8 * message.length))

/-- Consecutive groups of four bytes as little-endian words. -/
def words : List UInt8 → List UInt32
  | a :: b :: c :: d :: rest =>
    (a.toUInt32 ||| (b.toUInt32 <<< 8) ||| (c.toUInt32 <<< 16) ||| (d.toUInt32 <<< 24)) ::
      words rest
  | _ => []

/-- The register after the first `blocks` blocks of sixteen words. -/
def compressBlocks : (blocks : Nat) → List UInt32 → Register → Register
  | 0, _, r => r
  | blocks + 1, ws, r => compressBlocks blocks (ws.drop 16) (compress r (ws.take 16))

/-- The sixteen bytes of a register. -/
def Register.bytes (r : Register) : List UInt8 :=
  [r.a, r.b, r.c, r.d].flatMap fun w => littleEndian 4 w.toNat

/-- The number whose bytes are given, most significant first. -/
def bigEndian (bytes : List UInt8) : Nat :=
  bytes.foldl (fun n b => n * 256 + b.toNat) 0

/-- The MD5 digest of a message. -/
def digest (message : List UInt8) : BitVec 128 :=
  let ws := words (pad message)
  BitVec.ofNat 128 (bigEndian (compressBlocks (ws.length / 16) ws .initial).bytes)

end TypeSchema.Md5

import Upkeep.Bytes.Basic

/-!
The MD5 digest: the message is padded to blocks of sixteen little-endian words, and each block
updates four words of state in sixty-four steps.
-/

set_option autoImplicit false

namespace Upkeep.MD5

structure State where
  a : UInt32
  b : UInt32
  c : UInt32
  d : UInt32
  deriving DecidableEq, Repr

def State.start : State := ⟨0x67452301, 0xefcdab89, 0x98badcfe, 0x10325476⟩

/-- The integer parts of `2 ^ 32 * |sin i|` for `i` from 1 to 64. -/
def sines : Array UInt32 :=
  #[0xd76aa478, 0xe8c7b756, 0x242070db, 0xc1bdceee, 0xf57c0faf, 0x4787c62a, 0xa8304613, 0xfd469501,
    0x698098d8, 0x8b44f7af, 0xffff5bb1, 0x895cd7be, 0x6b901122, 0xfd987193, 0xa679438e, 0x49b40821,
    0xf61e2562, 0xc040b340, 0x265e5a51, 0xe9b6c7aa, 0xd62f105d, 0x02441453, 0xd8a1e681, 0xe7d3fbc8,
    0x21e1cde6, 0xc33707d6, 0xf4d50d87, 0x455a14ed, 0xa9e3e905, 0xfcefa3f8, 0x676f02d9, 0x8d2a4c8a,
    0xfffa3942, 0x8771f681, 0x6d9d6122, 0xfde5380c, 0xa4beea44, 0x4bdecfa9, 0xf6bb4b60, 0xbebfbc70,
    0x289b7ec6, 0xeaa127fa, 0xd4ef3085, 0x04881d05, 0xd9d4d039, 0xe6db99e5, 0x1fa27cf8, 0xc4ac5665,
    0xf4292244, 0x432aff97, 0xab9423a7, 0xfc93a039, 0x655b59c3, 0x8f0ccc92, 0xffeff47d, 0x85845dd1,
    0x6fa87e4f, 0xfe2ce6e0, 0xa3014314, 0x4e0811a1, 0xf7537e82, 0xbd3af235, 0x2ad7d2bb, 0xeb86d391]

/-- Rotation amounts: four per round, used in turn. -/
def rotations : Array UInt32 := #[7, 12, 17, 22, 5, 9, 14, 20, 4, 11, 16, 23, 6, 10, 15, 21]

def rotateLeft (x n : UInt32) : UInt32 := (x <<< n) ||| (x >>> (32 - n))

/-- The mixing function of the round that step `i` belongs to, and the word it takes. -/
def mix (i : Nat) (b c d : UInt32) : UInt32 × Nat :=
  match i / 16 with
  | 0 => ((b &&& c) ||| (~~~b &&& d), i)
  | 1 => ((d &&& b) ||| (~~~d &&& c), (5 * i + 1) % 16)
  | 2 => (b ^^^ c ^^^ d, (3 * i + 5) % 16)
  | _ => (c ^^^ (b ||| ~~~d), 7 * i % 16)

def step (words : Array UInt32) (s : State) (i : Nat) : State :=
  let (f, g) := mix i s.b s.c s.d
  let sum := s.a + f + sines.getD i 0 + words.getD g 0
  ⟨s.d, s.b + rotateLeft sum (rotations.getD (i / 16 * 4 + i % 4) 0), s.b, s.c⟩

def littleEndian (bs : Bytes) : Nat := bs.foldr (fun b n => b.toNat + 256 * n) 0

/-- `count` bytes of a number, the lowest first. -/
def bytesOf (count n : Nat) : Bytes :=
  (List.range count).map fun i => UInt8.ofNat (n / Nat.pow 256 i)

def State.absorb (s : State) (block : Bytes) : State :=
  let words := ((Bytes.blocks 3 block).map fun w => UInt32.ofNat (littleEndian w)).toArray
  let t := (List.range 64).foldl (step words) s
  ⟨s.a + t.a, s.b + t.b, s.c + t.c, s.d + t.d⟩

/-- A one bit, then zeros up to eight bytes before a multiple of 64, then the length in bits. -/
def padded (message : Bytes) : Bytes :=
  let zeros := (119 - message.length % 64) % 64
  message ++ 0x80 :: (List.replicate zeros 0 ++ bytesOf 8 (8 * message.length))

def digest (message : Bytes) : Bytes :=
  let s := (Bytes.blocks 63 (padded message)).foldl State.absorb State.start
  [s.a, s.b, s.c, s.d].flatMap fun w => bytesOf 4 w.toNat

end Upkeep.MD5

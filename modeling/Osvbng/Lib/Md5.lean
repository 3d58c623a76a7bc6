import Osvbng.Lib.Slice

/-!
# MD5 and HMAC-MD5

Both as functions on byte strings. The 64 steps of a block run over the table
of constants, so that every definition is structurally recursive and digests
can be evaluated.
-/

namespace Osvbng.Lib.Md5
open Lib.Slice List

/-- `floor(2^32 * |sin(i + 1)|)` for the 64 steps. -/
def table : List UInt32 :=
  [0xd76aa478, 0xe8c7b756, 0x242070db, 0xc1bdceee, 0xf57c0faf, 0x4787c62a, 0xa8304613, 0xfd469501,
   0x698098d8, 0x8b44f7af, 0xffff5bb1, 0x895cd7be, 0x6b901122, 0xfd987193, 0xa679438e, 0x49b40821,
   0xf61e2562, 0xc040b340, 0x265e5a51, 0xe9b6c7aa, 0xd62f105d, 0x02441453, 0xd8a1e681, 0xe7d3fbc8,
   0x21e1cde6, 0xc33707d6, 0xf4d50d87, 0x455a14ed, 0xa9e3e905, 0xfcefa3f8, 0x676f02d9, 0x8d2a4c8a,
   0xfffa3942, 0x8771f681, 0x6d9d6122, 0xfde5380c, 0xa4beea44, 0x4bdecfa9, 0xf6bb4b60, 0xbebfbc70,
   0x289b7ec6, 0xeaa127fa, 0xd4ef3085, 0x04881d05, 0xd9d4d039, 0xe6db99e5, 0x1fa27cf8, 0xc4ac5665,
   0xf4292244, 0x432aff97, 0xab9423a7, 0xfc93a039, 0x655b59c3, 0x8f0ccc92, 0xffeff47d, 0x85845dd1,
   0x6fa87e4f, 0xfe2ce6e0, 0xa3014314, 0x4e0811a1, 0xf7537e82, 0xbd3af235, 0x2ad7d2bb, 0xeb86d391]

structure State where
  a : UInt32
  b : UInt32
  c : UInt32
  d : UInt32

def initial : State := ⟨0x67452301, 0xefcdab89, 0x98badcfe, 0x10325476⟩

def rotateLeft (x s : UInt32) : UInt32 := (x <<< s) ||| (x >>> (32 - s))

/-- The function of a step, the word of the block it reads and its rotation. -/
def mix (st : State) (i : Nat) : UInt32 × Nat × UInt32 :=
  if i < 16 then
    ((st.b &&& st.c) ||| (~~~st.b &&& st.d), i, [7, 12, 17, 22].getD (i % 4) 0)
  else if i < 32 then
    ((st.d &&& st.b) ||| (~~~st.d &&& st.c), (5 * i + 1) % 16, [5, 9, 14, 20].getD (i % 4) 0)
  else if i < 48 then
    (st.b ^^^ st.c ^^^ st.d, (3 * i + 5) % 16, [4, 11, 16, 23].getD (i % 4) 0)
  else
    (st.c ^^^ (st.b ||| ~~~st.d), (7 * i) % 16, [6, 10, 15, 21].getD (i % 4) 0)

def steps (block : List UInt32) : State → Nat → List UInt32 → State
  | st, _, [] => st
  | st, i, k :: ks =>
    let (f, g, s) := mix st i
    steps block ⟨st.d, st.b + rotateLeft (st.a + f + k + block.getD g 0) s, st.b, st.c⟩ (i + 1) ks

/-- The pieces of `n` bytes of a byte string, at most `fuel` of them. -/
def pieces (n : Nat) : (fuel : Nat) → Bytes → List Bytes
  | 0, _ => []
  | fuel + 1, b => if b = [] then [] else b.take n :: pieces n fuel (b.drop n)

def putLe (n v : Nat) : Bytes := (putBe n v).reverse

def compress (st : State) (block : Bytes) : State :=
  let words := (pieces 4 16 block).map fun w => UInt32.ofNat (beNat w.reverse)
  let st' := steps words st 0 table
  ⟨st.a + st'.a, st.b + st'.b, st.c + st'.c, st.d + st'.d⟩

def pad (msg : Bytes) : Bytes :=
  msg ++ [0x80] ++ replicate ((119 - msg.length % 64) % 64) 0 ++ putLe 8 (8 * msg.length)

def sum (msg : Bytes) : Bytes :=
  let st := (pieces 64 (pad msg).length (pad msg)).foldl compress initial
  putLe 4 st.a.toNat ++ putLe 4 st.b.toNat ++ putLe 4 st.c.toNat ++ putLe 4 st.d.toNat

/-- The digest of the empty message and of "abc". -/
example : sum [] = [0xd4, 0x1d, 0x8c, 0xd9, 0x8f, 0x00, 0xb2, 0x04,
    0xe9, 0x80, 0x09, 0x98, 0xec, 0xf8, 0x42, 0x7e] ∧
  sum [0x61, 0x62, 0x63] = [0x90, 0x01, 0x50, 0x98, 0x3c, 0xd2, 0x4f, 0xb0,
    0xd6, 0x96, 0x3f, 0x7d, 0x28, 0xe1, 0x7f, 0x72] := by
  decide +kernel

/-- The key of a MAC, filled up to a block. -/
def hmacKey (key : Bytes) : Bytes :=
  let key := if 64 < key.length then sum key else key
  key ++ replicate (64 - key.length) 0

def hmac (key msg : Bytes) : Bytes :=
  let inner := sum ((hmacKey key).map (· ^^^ 0x36) ++ msg)
  sum ((hmacKey key).map (· ^^^ 0x5c) ++ inner)

/-- The MAC of "Hi There" under sixteen bytes 0x0b. -/
example : hmac (replicate 16 0x0b) [0x48, 0x69, 0x20, 0x54, 0x68, 0x65, 0x72, 0x65] =
    [0x92, 0x94, 0x72, 0x7a, 0x36, 0x38, 0xbb, 0x1c,
      0x13, 0xf4, 0x8e, 0xf8, 0x15, 0x8b, 0xfc, 0x9d] := by
  decide +kernel

end Osvbng.Lib.Md5

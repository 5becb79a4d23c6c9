import BenchKernel.Host.Utility.Call

/-! # Checksums and digests

Numbers that are computed from all bytes of a file: a cyclic check, a sum, and the digests of 128 to 512 bits. Words
of a digest are numbers below a power of two. -/

namespace BenchKernel

namespace Digest

open Utility (chunks)

/-- Turns a word of some bits to the left. -/
def rotate (width count word : Nat) : Nat :=
  let size := Number.twoPow width
  let moved := word * Number.twoPow count
  moved % size + moved / size

def rotateRight (width count word : Nat) : Nat := rotate width (width - count) word

def inverted (width word : Nat) : Nat := Number.twoPow width - 1 - word

def lowBytes : (count : Nat) → Nat → List Nat
  | 0, _ => []
  | count + 1, n => n % 256 :: lowBytes count (n / 256)

def highBytes (count n : Nat) : List Nat := (lowBytes count n).reverse

def ofHighBytes (bytes : List Nat) : Nat := bytes.foldl (fun n b => n * 256 + b) 0

def padded (block lengthBytes : Nat) (writeLength : Nat → List Nat) (text : List Nat) : List Nat :=
  let used := text.length + 1 + lengthBytes
  let zeros := (block - used % block) % block
  text ++ [128] ++ List.replicate zeros 0 ++ writeLength (8 * text.length)

/-! ### 128 bits -/

def md5Sines : Array Nat :=
  #[
    0xd76aa478, 0xe8c7b756, 0x242070db, 0xc1bdceee, 0xf57c0faf, 0x4787c62a, 0xa8304613, 0xfd469501,
    0x698098d8, 0x8b44f7af, 0xffff5bb1, 0x895cd7be, 0x6b901122, 0xfd987193, 0xa679438e, 0x49b40821,
    0xf61e2562, 0xc040b340, 0x265e5a51, 0xe9b6c7aa, 0xd62f105d, 0x02441453, 0xd8a1e681, 0xe7d3fbc8,
    0x21e1cde6, 0xc33707d6, 0xf4d50d87, 0x455a14ed, 0xa9e3e905, 0xfcefa3f8, 0x676f02d9, 0x8d2a4c8a,
    0xfffa3942, 0x8771f681, 0x6d9d6122, 0xfde5380c, 0xa4beea44, 0x4bdecfa9, 0xf6bb4b60, 0xbebfbc70,
    0x289b7ec6, 0xeaa127fa, 0xd4ef3085, 0x04881d05, 0xd9d4d039, 0xe6db99e5, 0x1fa27cf8, 0xc4ac5665,
    0xf4292244, 0x432aff97, 0xab9423a7, 0xfc93a039, 0x655b59c3, 0x8f0ccc92, 0xffeff47d, 0x85845dd1,
    0x6fa87e4f, 0xfe2ce6e0, 0xa3014314, 0x4e0811a1, 0xf7537e82, 0xbd3af235, 0x2ad7d2bb, 0xeb86d391]

def md5Turns : Array Nat := #[7, 12, 17, 22, 5, 9, 14, 20, 4, 11, 16, 23, 6, 10, 15, 21]

variable (words : Array Nat)

def md5Round (state : Nat × Nat × Nat × Nat) (i : Nat) : Nat × Nat × Nat × Nat :=
  let (a, b, c, d) := state
  let mixed :=
    if i < 16 then (b &&& c) ||| (inverted 32 b &&& d)
    else if i < 32 then (d &&& b) ||| (inverted 32 d &&& c)
    else if i < 48 then b ^^^ c ^^^ d
    else c ^^^ (b ||| inverted 32 d)
  let index := if i < 16 then i else if i < 32 then 5 * i + 1 else if i < 48 then 3 * i + 5 else 7 * i
  let added := (mixed + a + (md5Sines[i]?).getD 0 + (words[index % 16]?).getD 0) % Number.twoPow 32
  let turn := (md5Turns[i / 16 * 4 + i % 4]?).getD 0
  (d, (b + rotate 32 turn added) % Number.twoPow 32, b, c)

variable (text : List Nat)

def md5 : String :=
  let bytes := padded 64 8 (lowBytes 8) text
  let step (state : Nat × Nat × Nat × Nat) (block : List Nat) : Nat × Nat × Nat × Nat :=
    let words := ((chunks 4 17 block).map fun word => ofHighBytes word.reverse).toArray
    let (a, b, c, d) := (List.range 64).foldl (md5Round words) state
    let add (x y : Nat) : Nat := (x + y) % Number.twoPow 32
    (add state.1 a, add state.2.1 b, add state.2.2.1 c, add state.2.2.2 d)
  let (a, b, c, d) := (chunks 64 (bytes.length + 1) bytes).foldl step (0x67452301, 0xefcdab89, 0x98badcfe, 0x10325476)
  String.join ([a, b, c, d].flatMap fun word => (lowBytes 4 word).map (Number.padded 16 2))

/-! ### 160 bits -/

def schedule (next : Array Nat → Nat → Nat) (count : Nat) (first : List Nat) : Array Nat :=
  (List.range (count - 16)).foldl (fun words i => words.push (next words (i + 16))) first.toArray

def wordAt (i : Nat) : Nat := (words[i]?).getD 0

def sha1Round (state : List Nat) (i : Nat) : List Nat :=
  match state with
  | [a, b, c, d, e] =>
    let (mixed, constant) :=
      if i < 20 then ((b &&& c) ||| (inverted 32 b &&& d), 0x5a827999)
      else if i < 40 then (b ^^^ c ^^^ d, 0x6ed9eba1)
      else if i < 60 then ((b &&& c) ||| (b &&& d) ||| (c &&& d), 0x8f1bbcdc)
      else (b ^^^ c ^^^ d, 0xca62c1d6)
    [(rotate 32 5 a + mixed + e + constant + wordAt words i) % Number.twoPow 32, a, rotate 32 30 b, c, d]
  | other => other

def addWords (width : Nat) (a b : List Nat) : List Nat := List.zipWith (fun x y => (x + y) % Number.twoPow width) a b

def sha1 : String :=
  let bytes := padded 64 8 (highBytes 8) text
  let next (words : Array Nat) (i : Nat) : Nat :=
    rotate 32 1 (wordAt words (i - 3) ^^^ wordAt words (i - 8) ^^^ wordAt words (i - 14) ^^^ wordAt words (i - 16))
  let step (state : List Nat) (block : List Nat) : List Nat :=
    let words := schedule next 80 ((chunks 4 17 block).map ofHighBytes)
    addWords 32 state ((List.range 80).foldl (sha1Round words) state)
  let start := [0x67452301, 0xefcdab89, 0x98badcfe, 0x10325476, 0xc3d2e1f0]
  String.join (((chunks 64 (bytes.length + 1) bytes).foldl step start).map (Number.padded 16 8))

/-! ### 224 to 512 bits -/

def sha2Constants : Array Nat :=
  #[
    0x428a2f98d728ae22, 0x7137449123ef65cd, 0xb5c0fbcfec4d3b2f, 0xe9b5dba58189dbbc,
    0x3956c25bf348b538, 0x59f111f1b605d019, 0x923f82a4af194f9b, 0xab1c5ed5da6d8118,
    0xd807aa98a3030242, 0x12835b0145706fbe, 0x243185be4ee4b28c, 0x550c7dc3d5ffb4e2,
    0x72be5d74f27b896f, 0x80deb1fe3b1696b1, 0x9bdc06a725c71235, 0xc19bf174cf692694,
    0xe49b69c19ef14ad2, 0xefbe4786384f25e3, 0x0fc19dc68b8cd5b5, 0x240ca1cc77ac9c65,
    0x2de92c6f592b0275, 0x4a7484aa6ea6e483, 0x5cb0a9dcbd41fbd4, 0x76f988da831153b5,
    0x983e5152ee66dfab, 0xa831c66d2db43210, 0xb00327c898fb213f, 0xbf597fc7beef0ee4,
    0xc6e00bf33da88fc2, 0xd5a79147930aa725, 0x06ca6351e003826f, 0x142929670a0e6e70,
    0x27b70a8546d22ffc, 0x2e1b21385c26c926, 0x4d2c6dfc5ac42aed, 0x53380d139d95b3df,
    0x650a73548baf63de, 0x766a0abb3c77b2a8, 0x81c2c92e47edaee6, 0x92722c851482353b,
    0xa2bfe8a14cf10364, 0xa81a664bbc423001, 0xc24b8b70d0f89791, 0xc76c51a30654be30,
    0xd192e819d6ef5218, 0xd69906245565a910, 0xf40e35855771202a, 0x106aa07032bbd1b8,
    0x19a4c116b8d2d0c8, 0x1e376c085141ab53, 0x2748774cdf8eeb99, 0x34b0bcb5e19b48a8,
    0x391c0cb3c5c95a63, 0x4ed8aa4ae3418acb, 0x5b9cca4f7763e373, 0x682e6ff3d6b2b8a3,
    0x748f82ee5defb2fc, 0x78a5636f43172f60, 0x84c87814a1f0ab72, 0x8cc702081a6439ec,
    0x90befffa23631e28, 0xa4506cebde82bde9, 0xbef9a3f7b2c67915, 0xc67178f2e372532b,
    0xca273eceea26619c, 0xd186b8c721c0c207, 0xeada7dd6cde0eb1e, 0xf57d4f7fee6ed178,
    0x06f067aa72176fba, 0x0a637dc5a2c898a6, 0x113f9804bef90dae, 0x1b710b35131c471b,
    0x28db77f523047d84, 0x32caab7b40c72493, 0x3c9ebe0a15c9bebc, 0x431d67c49c100d4c,
    0x4cc5d4becb3e42b6, 0x597f299cfc657e2a, 0x5fcb6fab3ad6faec, 0x6c44198c4a475817]

/-- A digest of the family with eight words: the width of the words, by how many bits they are moved, its constants,
    the first state and how many words of the last one count. -/
structure Family where
  width : Nat
  large0 : List Nat
  large1 : List Nat
  small0 : List Nat
  small1 : List Nat
  constants : Array Nat
  start : List Nat
  count : Nat

def turned (width : Nat) (counts : List Nat) (word : Nat) : Nat :=
  counts.foldl (fun mixed count => mixed ^^^ rotateRight width count word) 0

def shifted (width : Nat) (counts : List Nat) (word : Nat) : Nat :=
  turned width counts.dropLast word ^^^ (word / Number.twoPow (counts.getLast?.getD 0))

def Family.round (f : Family) (words : Array Nat) (state : List Nat) (i : Nat) : List Nat :=
  match state with
  | [a, b, c, d, e, g, h, k] =>
    let size := Number.twoPow f.width
    let chosen := (e &&& g) ^^^ (inverted f.width e &&& h)
    let first := (k + turned f.width f.large1 e + chosen + wordAt f.constants i + wordAt words i) % size
    let major := (a &&& b) ^^^ (a &&& c) ^^^ (b &&& c)
    let second := (turned f.width f.large0 a + major) % size
    [(first + second) % size, a, b, c, (d + first) % size, e, g, h]
  | other => other

def Family.digest (f : Family) (text : List Nat) : String :=
  let block := 2 * f.width
  let bytes := padded block (f.width / 4) (highBytes (f.width / 4)) text
  let rounds := f.constants.size
  let next (words : Array Nat) (i : Nat) : Nat :=
    (shifted f.width f.small1 (wordAt words (i - 2)) + wordAt words (i - 7) +
      shifted f.width f.small0 (wordAt words (i - 15)) + wordAt words (i - 16)) % Number.twoPow f.width
  let step (state : List Nat) (part : List Nat) : List Nat :=
    let words := schedule next rounds ((chunks (f.width / 8) 17 part).map ofHighBytes)
    addWords f.width state ((List.range rounds).foldl (f.round words) state)
  let last := (chunks block (bytes.length + 1) bytes).foldl step f.start
  String.join ((last.take f.count).map (Number.padded 16 (f.width / 4)))

def sha512 : Family :=
  { width := 64, large0 := [28, 34, 39], large1 := [14, 18, 41], small0 := [1, 8, 7], small1 := [19, 61, 6]
    constants := sha2Constants
    start := [
      0x6a09e667f3bcc908, 0xbb67ae8584caa73b, 0x3c6ef372fe94f82b, 0xa54ff53a5f1d36f1,
      0x510e527fade682d1, 0x9b05688c2b3e6c1f, 0x1f83d9abfb41bd6b, 0x5be0cd19137e2179]
    count := 8 }

def sha384 : Family :=
  { sha512 with
    start := [
      0xcbbb9d5dc1059ed8, 0x629a292a367cd507, 0x9159015a3070dd17, 0x152fecd8f70e5939,
      0x67332667ffc00b31, 0x8eb44a8768581511, 0xdb0c2e0d64f98fa7, 0x47b5481dbefa4fa4]
    count := 6 }

def upperHalf (word : Nat) : Nat := word / Number.twoPow 32

/-- The digest with words of 32 bits. Its constants are upper halves of those with 64 bits. -/
def sha256 : Family :=
  { width := 32, large0 := [2, 13, 22], large1 := [6, 11, 25], small0 := [7, 18, 3], small1 := [17, 19, 10]
    constants := (sha2Constants.take 64).map upperHalf, start := sha512.start.map upperHalf, count := 8 }

def sha224 : Family := { sha256 with start := sha384.start.map (· % Number.twoPow 32), count := 7 }

/-! ### Checks -/

def crcBit (crc : Nat) (_ : Nat) : Nat :=
  if crc / Number.twoPow 31 = 1 then (crc * 2 % Number.twoPow 32) ^^^ 0x04c11db7 else crc * 2

def crcByte (crc byte : Nat) : Nat := (List.range 8).foldl crcBit (crc ^^^ (byte * Number.twoPow 24))

/-- The check of all bytes and of their number. -/
def cyclicCheck : Nat :=
  let lengthBytes := (lowBytes 8 text.length).reverse.dropWhile (· == 0) |>.reverse
  inverted 32 ((text ++ lengthBytes).foldl crcByte 0)

/-- A sum of 16 bits that turns before each byte. -/
def turningSum : Nat := text.foldl (fun sum byte => (sum / 2 + sum % 2 * 32768 + byte) % 65536) 0

/-- A sum of all bytes, folded to 16 bits. -/
def foldedSum : Nat :=
  let sum := text.foldl (· + ·) 0 % Number.twoPow 32
  let once := sum % 65536 + sum / 65536
  once % 65536 + once / 65536

end Digest

end BenchKernel

/-
Digests.

The digest of a text is sixteen bytes that look like chance and depend on all of it. The text is
padded to blocks of sixty-four bytes, and each block is worked into four words in sixty-four steps.
-/

import PipelineShell.Machine.Tool

namespace PipelineShell.Tool.Digest

/-- The four words that blocks are worked into. -/
structure Words where
  first : UInt32
  second : UInt32
  third : UInt32
  fourth : UInt32
  deriving DecidableEq, Repr

/-- The words before the first block. -/
def start : Words := ⟨0x67452301, 0xefcdab89, 0x98badcfe, 0x10325476⟩

/-- The words that are added in the steps: the sines of the numbers from one on, as far as the
first thirty-two binary digits behind the point go. -/
def addends : List UInt32 :=
  [0xd76aa478, 0xe8c7b756, 0x242070db, 0xc1bdceee,
    0xf57c0faf, 0x4787c62a, 0xa8304613, 0xfd469501,
    0x698098d8, 0x8b44f7af, 0xffff5bb1, 0x895cd7be,
    0x6b901122, 0xfd987193, 0xa679438e, 0x49b40821,
    0xf61e2562, 0xc040b340, 0x265e5a51, 0xe9b6c7aa,
    0xd62f105d, 0x02441453, 0xd8a1e681, 0xe7d3fbc8,
    0x21e1cde6, 0xc33707d6, 0xf4d50d87, 0x455a14ed,
    0xa9e3e905, 0xfcefa3f8, 0x676f02d9, 0x8d2a4c8a,
    0xfffa3942, 0x8771f681, 0x6d9d6122, 0xfde5380c,
    0xa4beea44, 0x4bdecfa9, 0xf6bb4b60, 0xbebfbc70,
    0x289b7ec6, 0xeaa127fa, 0xd4ef3085, 0x04881d05,
    0xd9d4d039, 0xe6db99e5, 0x1fa27cf8, 0xc4ac5665,
    0xf4292244, 0x432aff97, 0xab9423a7, 0xfc93a039,
    0x655b59c3, 0x8f0ccc92, 0xffeff47d, 0x85845dd1,
    0x6fa87e4f, 0xfe2ce6e0, 0xa3014314, 0x4e0811a1,
    0xf7537e82, 0xbd3af235, 0x2ad7d2bb, 0xeb86d391]

/-- By how many digits a word is turned in each of the four steps that take turns. -/
def turns : List (List UInt32) :=
  [[7, 12, 17, 22], [5, 9, 14, 20], [4, 11, 16, 23], [6, 10, 15, 21]]

/-- Turns a word by some digits. -/
def turn (word count : UInt32) : UInt32 := (word <<< count) ||| (word >>> (32 - count))

/-- What the other three words give in a round, and which word of the block is used in a step. -/
def mixed (round step : Nat) (words : Words) : UInt32 × Nat :=
  let ⟨_, second, third, fourth⟩ := words
  match round with
  | 0 => ((second &&& third) ||| (~~~second &&& fourth), step)
  | 1 => ((fourth &&& second) ||| (~~~fourth &&& third), (5 * step + 1) % 16)
  | 2 => (second ^^^ third ^^^ fourth, (3 * step + 5) % 16)
  | _ => (third ^^^ (second ||| ~~~fourth), 7 * step % 16)

/-- One step with a block. -/
def work (block : Array UInt32) (words : Words) (step : Nat × UInt32) : Words :=
  let (number, addend) := step
  let (mix, place) := mixed (number / 16) number words
  let total := words.first + mix + addend + block.getD place 0
  let count := ((turns.getD (number / 16) []).getD (number % 4) 0)
  ⟨words.fourth, words.second + turn total count, words.second, words.third⟩

/-- The word that four bytes make, the lowest first. -/
def wordOf (bytes : Bytes) : UInt32 :=
  bytes.foldr (fun byte word => word * 256 + UInt32.ofNat byte.toNat) 0

/-- The bytes of a number, the lowest first. -/
def bytesOf (count number : Nat) : Bytes :=
  (List.range count).map fun place => UInt8.ofNat (number >>> (8 * place))

/-- Works a block into the words. -/
def absorb (words : Words) (block : Bytes) : Words :=
  let parts := (List.range 16).map fun place => wordOf ((block.drop (4 * place)).take 4)
  let after := ((List.range 64).zip addends).foldl (work parts.toArray) words
  ⟨words.first + after.first, words.second + after.second, words.third + after.third,
    words.fourth + after.fourth⟩

/-- A text with a mark, zeros and its length in digits behind it, so that it fills blocks. -/
def padded (text : Bytes) : Bytes :=
  let zeros := (119 - text.length % 64) % 64
  text ++ 128 :: List.replicate zeros 0 ++ bytesOf 8 (8 * text.length)

/-- The digest of a text. -/
def ofBytes (text : Bytes) : Bytes :=
  let whole := padded text
  let blocks := (List.range (whole.length / 64)).map fun place => (whole.drop (64 * place)).take 64
  let words := blocks.foldl absorb start
  [words.first, words.second, words.third, words.fourth].flatMap fun word => bytesOf 4 word.toNat

end PipelineShell.Tool.Digest

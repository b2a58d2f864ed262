import LogSieve.Unicode.Charset

/-!
# Encoded characters

The UTF-8 encodings of the characters of a set, as rows of byte ranges: a row stands for every way
to choose one byte of each of its ranges. The rows of a set are in increasing order and no encoding
is in two of them.
-/

namespace LogSieve.Regex

open LogSieve.Unicode

/-- The bytes of the UTF-8 encoding of a code point. -/
def encode (code : Nat) : List Nat :=
  if code < 0x80 then [code]
  else if code < 0x800 then [0xC0 + code / 0x40, 0x80 + code % 0x40]
  else if code < 0x10000 then
    [0xE0 + code / 0x1000, 0x80 + code / 0x40 % 0x40, 0x80 + code % 0x40]
  else
    [0xF0 + code / 0x40000, 0x80 + code / 0x1000 % 0x40, 0x80 + code / 0x40 % 0x40,
      0x80 + code % 0x40]

/-- The code points with encodings of one length; those of UTF-16 surrogates have none. -/
def encodedLengths : List Range :=
  [⟨0, 0x7F⟩, ⟨0x80, 0x7FF⟩, ⟨0x800, 0xD7FF⟩, ⟨0xE000, 0xFFFF⟩, ⟨0x10000, 0x10FFFF⟩]

/-- What two ranges have in common. -/
def overlap (left right : Range) : List Range :=
  let first := max left.first right.first
  let last := min left.last right.last
  if first ≤ last then [⟨first, last⟩] else []

/-- Cuts a range at multiples of growing powers of 64 into ranges that are a row each. What lies
before the first and after the last multiple of `block` is within one block, and what lies between
is cut at multiples of larger blocks. -/
def cutAtBlocks : (levels : Nat) → (block : Nat) → Range → List Range
  | 0, _, range => [range]
  | levels + 1, block, ⟨first, last⟩ =>
      if first / block = last / block then [⟨first, last⟩]
      else
        let start := (first + block - 1) / block * block
        let stop := (last + 1) / block * block
        (if first < start then [⟨first, start - 1⟩] else []) ++
          (if start < stop then cutAtBlocks levels (block * 64) ⟨start, stop - 1⟩ else []) ++
          (if stop ≤ last then [⟨stop, last⟩] else [])

/-- The rows of a range of code points whose encodings have one length. -/
def rowsOfRange (range : Range) : List (List Range) :=
  let pieces := if range.last < 0x80 then [range] else cutAtBlocks 3 64 range
  pieces.map fun piece => (encode piece.first).zipWith Range.mk (encode piece.last)

/-- The rows of a set. -/
def encodedRows (set : Charset) : List (List Range) :=
  set.ranges.flatMap fun range =>
    (encodedLengths.flatMap (overlap range)).flatMap rowsOfRange

end LogSieve.Regex

/-!
# The 64-bit xxHash

A fast hash of byte strings. Four lanes take eight bytes each in turn; what is left over is mixed in
by words, half words and bytes, and the result is scrambled.
-/

namespace LogSieve.Hash.XxHash64

/-- The multipliers of the hash. -/
def prime1 : UInt64 := 0x9E3779B185EBCA87
/-- See `prime1`. -/
def prime2 : UInt64 := 0xC2B2AE3D27D4EB4F
/-- See `prime1`. -/
def prime3 : UInt64 := 0x165667B19E3779F9
/-- See `prime1`. -/
def prime4 : UInt64 := 0x85EBCA77C2B2AE63
/-- See `prime1`. -/
def prime5 : UInt64 := 0x27D4EB2F165667C5

/-- Turns the bits of a word to the left; the amount is between 1 and 63. -/
def rotateLeft (word amount : UInt64) : UInt64 := (word <<< amount) ||| (word >>> (64 - amount))

/-- The word whose bytes are given, lowest first. -/
def word (bytes : List UInt8) : UInt64 :=
  bytes.foldr (fun byte value => (value <<< 8) ||| byte.toUInt64) 0

/-- Takes a word into a lane. -/
def round (lane input : UInt64) : UInt64 := rotateLeft (lane + input * prime2) 31 * prime1

/-- Takes a lane into the hash. -/
def mergeLane (hash lane : UInt64) : UInt64 := (hash ^^^ round 0 lane) * prime1 + prime4

/-- The four lanes. -/
structure Lanes where
  first : UInt64
  second : UInt64
  third : UInt64
  fourth : UInt64

/-- The lanes before any byte. -/
def Lanes.start (seed : UInt64) : Lanes :=
  ⟨seed + prime1 + prime2, seed + prime2, seed, seed - prime1⟩

/-- Takes all whole blocks of 32 bytes; gives the lanes and the bytes left over. The fuel bounds the
number of blocks. -/
def takeBlocks : (fuel : Nat) → Lanes → List UInt8 → Lanes × List UInt8
  | 0, lanes, bytes => (lanes, bytes)
  | fuel + 1, lanes, bytes =>
      let block := bytes.take 32
      if block.length < 32 then (lanes, bytes)
      else
        let part index := word ((block.drop (8 * index)).take 8)
        takeBlocks fuel
          ⟨round lanes.first (part 0), round lanes.second (part 1),
            round lanes.third (part 2), round lanes.fourth (part 3)⟩
          (bytes.drop 32)

/-- The hash of the lanes. -/
def Lanes.merge (lanes : Lanes) : UInt64 :=
  let sum := rotateLeft lanes.first 1 + rotateLeft lanes.second 7 + rotateLeft lanes.third 12 +
    rotateLeft lanes.fourth 18
  [lanes.first, lanes.second, lanes.third, lanes.fourth].foldl mergeLane sum

/-- Takes fewer than 32 bytes into the hash: words, then a half word, then bytes. -/
def takeTail (hash : UInt64) : List UInt8 → UInt64
  | a :: b :: c :: d :: e :: f :: g :: h :: rest =>
      let mixed := hash ^^^ round 0 (word [a, b, c, d, e, f, g, h])
      takeTail (rotateLeft mixed 27 * prime1 + prime4) rest
  | a :: b :: c :: d :: rest =>
      takeTail (rotateLeft (hash ^^^ (word [a, b, c, d] * prime1)) 23 * prime2 + prime3) rest
  | a :: rest => takeTail (rotateLeft (hash ^^^ (a.toUInt64 * prime5)) 11 * prime1) rest
  | [] => hash

/-- Scrambles the bits of the hash. -/
def avalanche (hash : UInt64) : UInt64 :=
  let hash := (hash ^^^ (hash >>> 33)) * prime2
  let hash := (hash ^^^ (hash >>> 29)) * prime3
  hash ^^^ (hash >>> 32)

/-- The hash of a byte string. -/
def hash (seed : UInt64) (bytes : List UInt8) : UInt64 :=
  let (start, tail) :=
    if bytes.length < 32 then (seed + prime5, bytes)
    else
      let (lanes, tail) := takeBlocks (bytes.length / 32) (Lanes.start seed) bytes
      (lanes.merge, tail)
  avalanche (takeTail (start + UInt64.ofNat bytes.length) tail)

end LogSieve.Hash.XxHash64

import LogSieve.Json.Decode

/-!
# JSON in bytes

JSON is read from bytes in UTF-8. Bytes that are no text spoil the string they stand in, and a
spoilt string may be passed over; anywhere else they are no JSON.
-/

namespace LogSieve.Json

/-- The first character of some bytes and the number of bytes it takes. -/
def firstChar? (bytes : List UInt8) : Option (Char × Nat) :=
  [1, 2, 3, 4].findSome? fun size =>
    match (String.fromUTF8? ⟨(bytes.take size).toArray⟩).map String.toList with
    | some [char] => some (char, size)
    | _ => none

/-- A replacement character, which no escape sequence holds, then half of a surrogate pair before a
blank, as escape sequences: they spoil every string. -/
def spoiler : List Char := "\uFFFD\\ud800\\u0020".toList

/-- The characters of some bytes; a byte that is no text is replaced by a spoiler. The fuel bounds
the number of bytes. -/
def lenientChars : (fuel : Nat) → List UInt8 → List Char
  | 0, _ => []
  | _, [] => []
  | fuel + 1, byte :: rest =>
      match firstChar? (byte :: rest) with
      | some (char, size) => char :: lenientChars fuel ((byte :: rest).drop size)
      | none => spoiler ++ lenientChars fuel rest

/-- The characters of some bytes. -/
def charsOf (bytes : ByteArray) : List Char :=
  match String.fromUTF8? bytes with
  | some text => text.toList
  | none => lenientChars bytes.size bytes.toList

/-- Reads a tree from bytes. -/
def Tree.parseBytes? (bytes : ByteArray) : Option Tree := Tree.parse? (charsOf bytes)

end LogSieve.Json

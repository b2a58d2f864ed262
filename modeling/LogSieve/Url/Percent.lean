/-!
# Percent signs

Bytes that may not stand in a part of an address are written as a percent sign and two hexadecimal
digits. Which ones depends on the part.
-/

namespace LogSieve.Url

/-- The upper-case hexadecimal digit of a number below sixteen. -/
def hexDigit (digit : Nat) : Char :=
  if digit < 10 then Char.ofNat ('0'.toNat + digit) else Char.ofNat ('A'.toNat + digit - 10)

/-- A byte with its percent sign. -/
def escapeByte (byte : UInt8) : List Char :=
  ['%', hexDigit (byte.toNat / 16), hexDigit (byte.toNat % 16)]

/-- The bytes of a character, each with a percent sign. -/
def escapeChar (char : Char) : List Char :=
  char.toString.toUTF8.toList.flatMap escapeByte

/-- Escapes the characters that satisfy a test. -/
def escape (test : Char → Bool) (chars : List Char) : List Char :=
  chars.flatMap fun char => if test char then escapeChar char else [char]

/-- Control characters and everything outside of ASCII. -/
def isControl (char : Char) : Bool := char.toNat < 0x20 || 0x7F ≤ char.toNat

/-- What is escaped in a fragment. -/
def inFragment (char : Char) : Bool := isControl char || [' ', '"', '<', '>', '`'].contains char

/-- What is escaped in a path. -/
def inPath (char : Char) : Bool := inFragment char || ['#', '?', '{', '}'].contains char

/-- What is escaped in login data. -/
def inLogin (char : Char) : Bool :=
  inPath char || ['/', ':', ';', '=', '@', '[', '\\', ']', '^', '|'].contains char

/-- What is escaped in a query. -/
def inQuery (special : Bool) (char : Char) : Bool :=
  isControl char || [' ', '"', '#', '<', '>'].contains char || (special && char == '\'')

/-- Whether a character stands for itself in a form. -/
def isFormChar (char : Char) : Bool :=
  char.isAlphanum || ['*', '-', '.', '_'].contains char

/-- A text as part of a form: blanks become plus signs. -/
def formText (text : String) : List Char :=
  text.toList.flatMap fun char =>
    if char = ' ' then ['+'] else if isFormChar char then [char] else escapeChar char

/-- Parameters as a form. -/
def form (parameters : List (String × String)) : List Char :=
  List.intercalate ['&'] (parameters.map fun (key, value) =>
    formText key ++ '=' :: formText value)

/-- The value of a hexadecimal digit. -/
def hexValue? (char : Char) : Option Nat :=
  if '0' ≤ char ∧ char ≤ '9' then some (char.toNat - '0'.toNat)
  else if 'a' ≤ char ∧ char ≤ 'f' then some (char.toNat - 'a'.toNat + 10)
  else if 'A' ≤ char ∧ char ≤ 'F' then some (char.toNat - 'A'.toNat + 10)
  else none

/-- The bytes of a text with percent signs; those without two digits stay. -/
def unescape : List Char → List UInt8
  | [] => []
  | '%' :: first :: second :: rest =>
      match hexValue? first, hexValue? second with
      | some high, some low => UInt8.ofNat (16 * high + low) :: unescape rest
      | _, _ => '%'.toString.toUTF8.toList ++ unescape (first :: second :: rest)
  | char :: rest => char.toString.toUTF8.toList ++ unescape rest

/-- The text that a text with percent signs stands for, unless its bytes are none. -/
def unescapedText? (chars : List Char) : Option String :=
  String.fromUTF8? ⟨(unescape chars).toArray⟩

end LogSieve.Url

import LogSieve.Text.Decimal
import LogSieve.Unicode.Unseen

/-!
# Quoted text

Text in quotes for people to read: whatever would not show is written as an escape sequence.
-/

namespace LogSieve.Text

open LogSieve.Unicode

/-- The characters that do not show on their own. -/
def unseenChars : Charset := unseen.charset

/-- The lower-case hexadecimal digits of a number. -/
def hexDigits (value : Nat) : List Char := Nat.toDigits 16 value

/-- How a character is written between quotes. -/
def quotedChar (char : Char) : List Char :=
  if char = '"' then ['\\', '"']
  else if char = '\\' then ['\\', '\\']
  else if char = '\n' then ['\\', 'n']
  else if char = '\r' then ['\\', 'r']
  else if char = '\t' then ['\\', 't']
  else if char = '\x00' then ['\\', '0']
  else if 0x20 ≤ char.toNat ∧ char.toNat < 0x7F then [char]
  else if unseenChars.contains char then
    ['\\', 'u', '{'] ++ hexDigits char.toNat ++ ['}']
  else [char]

/-- A text in quotes. -/
def quoted (text : String) : String :=
  String.ofList ('"' :: text.toList.flatMap quotedChar ++ ['"'])

end LogSieve.Text

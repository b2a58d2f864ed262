/-!
# White space

The white space of Unicode, and texts without it at their ends.
-/

namespace LogSieve.Text

/-- Whether a character is white space. -/
def isBlank (char : Char) : Bool :=
  let code := char.toNat
  (0x9 ≤ code && code ≤ 0xD) || code == 0x20 || code == 0x85 || code == 0xA0 || code == 0x1680 ||
    (0x2000 ≤ code && code ≤ 0x200A) || code == 0x2028 || code == 0x2029 || code == 0x202F ||
    code == 0x205F || code == 0x3000

/-- Drops the characters at the end that satisfy a test. -/
def dropEnd (test : Char → Bool) (chars : List Char) : List Char :=
  (chars.reverse.dropWhile test).reverse

/-- Drops white space at both ends. -/
def trim (chars : List Char) : List Char := dropEnd isBlank (chars.dropWhile isBlank)

/-- Drops slashes at the end of a text. -/
def trimSlashes (text : String) : String := String.ofList (dropEnd (· == '/') text.toList)

/-- The parts of a text between the occurrences of a character; there is always one more part than
there are occurrences. -/
def splitAt (divider : Char) : List Char → List (List Char)
  | [] => [[]]
  | char :: rest =>
      match splitAt divider rest with
      | [] => [[char]]
      | part :: parts => if char = divider then [] :: part :: parts else (char :: part) :: parts

/-- Parts put together with a character between them. -/
def joinWith (divider : Char) : List (List Char) → List Char
  | [] => []
  | [part] => part
  | part :: parts => part ++ divider :: joinWith divider parts

/-- Whether one list of characters stands somewhere in another. -/
def hasInfix (needle : List Char) : List Char → Bool
  | [] => needle.isEmpty
  | char :: rest => needle.isPrefixOf (char :: rest) || hasInfix needle rest

/-- Whether a text contains another, letter by letter. -/
def contains (text needle : String) : Bool := hasInfix needle.toList text.toList

end LogSieve.Text

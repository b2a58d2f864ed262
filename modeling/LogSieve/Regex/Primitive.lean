import LogSieve.Regex.Flags
import LogSieve.Regex.Pattern

/-!
# Primitives

The smallest parts of a pattern: single characters, escape sequences and the named classes. They
occur on their own and, most of them, inside bracketed classes.
-/

namespace LogSieve.Regex

open LogSieve.Unicode

/-- The short classes `\d`, `\s` and `\w`. -/
inductive ShortClass where
  | digit
  | space
  | word
deriving DecidableEq

/-- A smallest part of a pattern. A literal remembers whether it was written as a byte, by two
hexadecimal digits. -/
inductive Primitive where
  | literal (char : Char) (isByte : Bool)
  | dot
  | condition (look : Look)
  | short (kind : ShortClass) (negated : Bool)
  | named (set : Charset)

/-- Applies case folding, then negation. Without Unicode a set may not leave ASCII, which every
negation would. -/
def Flags.finish? (flags : Flags) (negated : Bool) (set : Charset) : Option Charset :=
  if flags.unicode then
    let folded := if flags.ignoreCase then set.foldCase else set
    some (if negated then folded.complement else folded)
  else if negated then none
  else some (if flags.ignoreCase then set.foldAsciiCase else set)

/-- The ASCII members of a short class. -/
def ShortClass.ascii : ShortClass → Charset
  | digit => .ofRange 0x30 0x39
  | space => ⟨[⟨0x9, 0xD⟩, ⟨0x20, 0x20⟩]⟩
  | word => ⟨[⟨0x30, 0x39⟩, ⟨0x41, 0x5A⟩, ⟨0x5F, 0x5F⟩, ⟨0x61, 0x7A⟩]⟩

/-- All members of a short class. -/
def ShortClass.unicode : ShortClass → Charset
  | digit => digits
  | space => whiteSpace
  | word => wordChars

/-- The set of a short class under the switches. It is not case folded: every short class is closed
under folding. -/
def ShortClass.set? (kind : ShortClass) (negated : Bool) (flags : Flags) : Option Charset :=
  if flags.unicode then some (if negated then kind.unicode.complement else kind.unicode)
  else if negated then none
  else some kind.ascii

/-- The value of a hexadecimal digit in either case. -/
def hexValue? (char : Char) : Option Nat :=
  if '0' ≤ char ∧ char ≤ '9' then some (char.toNat - '0'.toNat)
  else if 'a' ≤ char ∧ char ≤ 'f' then some (char.toNat - 'a'.toNat + 10)
  else if 'A' ≤ char ∧ char ≤ 'F' then some (char.toNat - 'A'.toNat + 10)
  else none

/-- The character with a given code point, if it is one. -/
def charOfCode? (code : Nat) : Option Char :=
  if code.isValidChar then some (Char.ofNat code) else none

/-- Reads a fixed number of hexadecimal digits, blanks between them passed over. -/
def readHexDigits (flags : Flags) : (count : Nat) → (value : Nat) → List Char →
    Option (Nat × List Char)
  | 0, value, input => some (value, input)
  | count + 1, value, input =>
      match input with
      | [] => none
      | char :: rest =>
          match hexValue? char with
          | some digit => readHexDigits flags count (16 * value + digit) (flags.skip rest)
          | none => none

/-- Reads hexadecimal digits up to a closing brace. The fuel bounds the characters read. -/
def readHexBraced (flags : Flags) : (fuel : Nat) → (count value : Nat) → List Char →
    Option (Nat × List Char)
  | 0, _, _, _ => none
  | fuel + 1, count, value, input =>
      match input with
      | [] => none
      | char :: rest =>
          if char = '}' then if count = 0 then none else some (value, flags.skip rest)
          else
            match hexValue? char with
            | some digit =>
                readHexBraced flags fuel (count + 1) (16 * value + digit) (flags.skip rest)
            | none => none

/-- Reads the digits of a hexadecimal escape after its letter. Braces take any number of digits,
bounded by the fuel. -/
def readHexEscape (flags : Flags) (fuel count : Nat) (rest : List Char) :
    Option (Primitive × List Char) :=
  match flags.skip rest with
  | [] => none
  | '{' :: inner => do
      let (code, after) ← readHexBraced flags fuel 0 0 (flags.skip inner)
      let char ← charOfCode? code
      some (.literal char false, after)
  | input => do
      let (code, after) ← readHexDigits flags count 0 input
      let char ← charOfCode? code
      some (.literal char (count = 2), after)

/-- Reads text up to a closing brace, blanks left out. The fuel bounds the characters read. -/
def readBraced (flags : Flags) : (fuel : Nat) → List Char → Option (List Char × List Char)
  | 0, _ => none
  | fuel + 1, input =>
      match input with
      | [] => none
      | char :: rest =>
          if char = '}' then some ([], rest)
          else (readBraced flags fuel (flags.skip rest)).map fun (name, after) =>
            (char :: name, after)

/-- Splits a text at the first occurrence of a character. -/
def splitAtChar (divider : Char) (text : List Char) : Option (List Char × List Char) :=
  match text.dropWhile (· != divider) with
  | [] => none
  | _ :: after => some (text.takeWhile (· != divider), after)

/-- Splits a text at the first exclamation mark that an equals sign follows. -/
def splitAtUnequal : List Char → Option (List Char × List Char)
  | '!' :: '=' :: after => some ([], after)
  | char :: rest => (splitAtUnequal rest).map fun (before, after) => (char :: before, after)
  | [] => none

/-- The set that a property and one of its values stand for. -/
def valueSet? (property value : List Char) : Option Charset :=
  propertyValued? (String.ofList property) (String.ofList value)

/-- The set that the text between the braces of a property escape names, and whether its members
are those left out. A colon means the same as an equals sign. -/
def propertySet? (text : List Char) : Option (Charset × Bool) :=
  match splitAtUnequal text with
  | some (property, value) => (valueSet? property value).map (·, true)
  | none =>
      let set := match (splitAtChar ':' text).orElse fun _ => splitAtChar '=' text with
        | some (property, value) => valueSet? property value
        | none => propertyNamed? (String.ofList text)
      set.map (·, false)

/-- Reads a property escape after its letter. The fuel bounds the characters read. -/
def readProperty (flags : Flags) (fuel : Nat) (negated : Bool) (rest : List Char) :
    Option (Primitive × List Char) :=
  match flags.skip rest with
  | [] => none
  | '\\' :: _ => none
  | '{' :: inner => do
      let (name, after) ← readBraced flags fuel (flags.skip inner)
      if flags.unicode then
        let (set, isUnequal) ← propertySet? name
        some (.named (← flags.finish? (negated != isUnequal) set), after)
      else none
  | char :: after =>
      if flags.unicode then do
        let set ← flags.finish? negated (← propertyNamed? (String.singleton char))
        some (.named set, flags.skip after)
      else none

/-- Reads letters and hyphens, blanks between them passed over. The fuel bounds the characters
read. -/
def readBoundaryName (flags : Flags) : (fuel : Nat) → List Char → List Char × List Char
  | 0, input => ([], input)
  | fuel + 1, input =>
      match input with
      | [] => ([], [])
      | char :: rest =>
          if char.isAlpha || char == '-' then
            let (name, after) := readBoundaryName flags fuel (flags.skip rest)
            (char :: name, after)
          else ([], input)

/-- Reads what follows `\b`: braces with a name ask for a particular edge. Braces that do not start
with a name are left alone. The fuel bounds the characters read. -/
def readBoundary (flags : Flags) (fuel : Nat) (rest : List Char) :
    Option (Primitive × List Char) :=
  let plain := some (.condition (.word .boundary flags.unicode), rest)
  match rest with
  | '{' :: inner =>
      let input := flags.skip inner
      match input with
      | [] => none
      | char :: _ =>
          if char.isAlpha || char == '-' then
            match readBoundaryName flags fuel input with
            | (name, '}' :: after) =>
                let edge test := some (Primitive.condition (.word test flags.unicode), after)
                match String.ofList name with
                | "start" => edge .start
                | "end" => edge .finish
                | "start-half" => edge .startHalf
                | "end-half" => edge .finishHalf
                | _ => none
            | _ => none
          else plain
  | _ => plain

/-- Whether an escaped ASCII character stands for itself. -/
def isEscapable (char : Char) : Bool :=
  char.toNat < 0x80 && !char.isAlphanum && char != '<' && char != '>'

/-- Reads an escape sequence after its backslash. The fuel bounds the characters read. -/
def readEscape (flags : Flags) (fuel : Nat) : List Char → Option (Primitive × List Char)
  | [] => none
  | char :: rest =>
      let literal char := some (Primitive.literal char false, rest)
      let word test := some (Primitive.condition (.word test flags.unicode), rest)
      if isEscapable char then literal char
      else
        match char with
        | 'x' => readHexEscape flags fuel 2 rest
        | 'u' => readHexEscape flags fuel 4 rest
        | 'U' => readHexEscape flags fuel 8 rest
        | 'p' => readProperty flags fuel false rest
        | 'P' => readProperty flags fuel true rest
        | 'd' => some (.short .digit false, rest)
        | 'D' => some (.short .digit true, rest)
        | 's' => some (.short .space false, rest)
        | 'S' => some (.short .space true, rest)
        | 'w' => some (.short .word false, rest)
        | 'W' => some (.short .word true, rest)
        | 'a' => literal '\x07'
        | 'f' => literal '\x0c'
        | 't' => literal '\t'
        | 'n' => literal '\n'
        | 'r' => literal '\r'
        | 'v' => literal '\x0b'
        | 'A' => some (.condition .textStart, rest)
        | 'z' => some (.condition .textEnd, rest)
        | 'b' => readBoundary flags fuel rest
        | 'B' => word .noBoundary
        | '<' => word .start
        | '>' => word .finish
        | _ => none

/-- A character that differs from the given one at most by case. -/
def Flags.literalSet (flags : Flags) (char : Char) : Charset :=
  if !flags.ignoreCase then .singleton char
  else if flags.unicode then (Charset.singleton char).foldCase
  else (Charset.singleton char).foldAsciiCase

/-- The pattern that a primitive stands for on its own. Without Unicode there is no dot, and a
literal written as a byte is an ASCII character. -/
def Primitive.pattern? (flags : Flags) : Primitive → Option Pattern
  | .literal char isByte =>
      if !flags.unicode && isByte && 0x80 ≤ char.toNat then none
      else some (.ofSet (flags.literalSet char))
  | .dot =>
      if !flags.unicode then none
      else if flags.dotAll then some (.ofSet .all)
      else if flags.crlf then
        some (.ofSet (Charset.complement ⟨[⟨0xA, 0xA⟩, ⟨0xD, 0xD⟩]⟩))
      else some (.ofSet (Charset.singleton '\n').complement)
  | .condition look => some (.look look)
  | .short kind negated => (kind.set? negated flags).map .ofSet
  | .named set => some (.ofSet set)

end LogSieve.Regex

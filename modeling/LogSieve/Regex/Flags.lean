import LogSieve.Unicode.Property

/-!
# Flags

The switches that change how a pattern is read, and the blanks and comments that one of them lets
a pattern contain.
-/

namespace LogSieve.Regex

open LogSieve.Unicode

/-- The switches in force at some place of a pattern. -/
structure Flags where
  ignoreCase : Bool := false
  multiLine : Bool := false
  dotAll : Bool := false
  swapGreed : Bool := false
  unicode : Bool := true
  crlf : Bool := false
  ignoreSpace : Bool := false
deriving DecidableEq

/-- Sets the switch that a letter names, unless no switch has that letter. -/
def Flags.set? (flags : Flags) (value : Bool) : Char → Option Flags
  | 'i' => some { flags with ignoreCase := value }
  | 'm' => some { flags with multiLine := value }
  | 's' => some { flags with dotAll := value }
  | 'U' => some { flags with swapGreed := value }
  | 'u' => some { flags with unicode := value }
  | 'R' => some { flags with crlf := value }
  | 'x' => some { flags with ignoreSpace := value }
  | _ => none

/-- What a list of switches turned out to be: the switches, and whether a colon ended it. -/
structure FlagList where
  flags : Flags
  isEmpty : Bool
  opensGroup : Bool
  rest : List Char

/-- Reads switches up to a colon or a closing parenthesis. Each may be given once, and those after
the one hyphen allowed are turned off; `seen` holds the characters read. -/
def readFlags (flags : Flags) (seen : List Char) : List Char → Option FlagList
  | [] => none
  | char :: rest =>
      if char = ':' ∨ char = ')' then
        if seen.head? = some '-' then none
        else some ⟨flags, seen.isEmpty, char = ':', rest⟩
      else if seen.contains char then none
      else if char = '-' then readFlags flags (char :: seen) rest
      else
        match flags.set? (!seen.contains '-') char with
        | some flags => readFlags flags (char :: seen) rest
        | none => none

/-- Whether a character is white space. -/
def isSpace (char : Char) : Bool := whiteSpace.contains char

/-- Drops white space and comments; a comment runs from a number sign to the end of its line. -/
def skipBlanks (inComment : Bool) : List Char → List Char
  | [] => []
  | char :: rest =>
      if inComment then skipBlanks (char != '\n') rest
      else if isSpace char then skipBlanks false rest
      else if char = '#' then skipBlanks true rest
      else char :: rest

/-- Drops white space and comments where the switches say that they do not count. -/
def Flags.skip (flags : Flags) (input : List Char) : List Char :=
  if flags.ignoreSpace then skipBlanks false input else input

/-- The next character but one that counts. A comment counts from its second character on. -/
def peekPast (inComment : Bool) : List Char → Option Char
  | [] => none
  | char :: rest =>
      if isSpace char then peekPast inComment rest
      else if !inComment && char = '#' then peekPast true rest
      else some char

/-- The character after the first one of the input, with blanks passed over where they do not
count. -/
def Flags.peek (flags : Flags) (input : List Char) : Option Char :=
  if flags.ignoreSpace then peekPast false input.tail else input.tail.head?

end LogSieve.Regex

import LogSieve.Regex.CharClass
import LogSieve.Regex.Size

/-!
# Reading patterns

Reads the text of a regular expression. The groups that are open at some place form a stack, and
every character of the text acts on the innermost one: it adds a piece, repeats the last piece,
starts another branch, or opens or closes a group. Switches set inside a group end with it.
-/

namespace LogSieve.Regex

open LogSieve.Unicode

/-- A piece of a sequence, with the nesting depth of its notation. A setting of switches is a piece
too, but one that cannot be repeated. -/
structure Piece where
  pattern : Pattern
  depth : Nat
  repeatable : Bool := true

/-- What has been read of a group: the pieces of its last branch, latest first, and the branches
before that one, latest first. -/
structure GroupBody where
  pieces : List Piece := []
  branches : List (Pattern × Nat) := []

/-- The last branch as a pattern, with its depth. A piece alone does not nest any deeper. -/
def GroupBody.branch (body : GroupBody) : Pattern × Nat :=
  match body.pieces with
  | [] => (.empty, 0)
  | [piece] => (piece.pattern, piece.depth)
  | pieces =>
      (.concat (pieces.reverse.map (·.pattern)), (pieces.map (·.depth)).foldl max 0 + 1)

/-- All branches as a pattern, with its depth. -/
def GroupBody.close (body : GroupBody) : Pattern × Nat :=
  match (body.branch :: body.branches).reverse with
  | [] => (.empty, 0)
  | [only] => only
  | first :: others =>
      (.choice (first.1 :: others.map (·.1)), (others.map (·.2)).foldl max first.2 + 1)

/-- A group around the innermost one, with the switches to return to and the number of the
innermost one, if it has any. -/
structure OpenGroup where
  body : GroupBody
  flags : Flags
  number : Option Nat

/-- How far a pattern has been read. -/
structure Reading where
  body : GroupBody := {}
  flags : Flags := {}
  groups : List OpenGroup := []
  numbered : Nat := 0
  names : List String := []

/-- Adds a piece to the innermost group. -/
def Reading.push (reading : Reading) (piece : Piece) : Reading :=
  { reading with body := { reading.body with pieces := piece :: reading.body.pieces } }

/-- Repeats the last piece. A question mark that follows swaps which numbers of rounds are
preferred. -/
def Reading.repeatLast? (reading : Reading) (least : Nat) (most : Option Nat)
    (rest : List Char) : Option (Reading × List Char) :=
  match reading.body.pieces with
  | piece :: pieces =>
      if piece.repeatable then
        let (isSwapped, rest) := match rest with
          | '?' :: rest => (true, rest)
          | _ => (false, rest)
        let again := piece.pattern.again least most (isSwapped == reading.flags.swapGreed)
        let piece := { pattern := again, depth := piece.depth + 1 }
        some ({ reading with body := { reading.body with pieces := piece :: pieces } }, rest)
      else none
  | [] => none

/-- Ends the last branch of the innermost group. -/
def Reading.nextBranch (reading : Reading) : Reading :=
  { reading with
    body := { pieces := [], branches := reading.body.branch :: reading.body.branches } }

/-- Opens a group without a number, with the given switches. -/
def Reading.openPlain (reading : Reading) (flags : Flags) : Reading :=
  { reading with
    body := {}
    flags := flags
    groups := ⟨reading.body, reading.flags, none⟩ :: reading.groups }

/-- Opens a group with the next number. -/
def Reading.openNumbered (reading : Reading) : Reading :=
  let number := reading.numbered + 1
  { reading with
    body := {}
    groups := ⟨reading.body, reading.flags, some number⟩ :: reading.groups
    numbered := number }

/-- Closes the innermost group, if one is open. -/
def Reading.closeGroup? (reading : Reading) : Option Reading :=
  match reading.groups with
  | [] => none
  | outer :: groups =>
      let (inside, depth) := reading.body.close
      let pattern := match outer.number with
        | some number => .group number inside
        | none => inside
      some ({ reading with body := outer.body, flags := outer.flags, groups := groups }.push
        { pattern := pattern, depth := depth + 1 })

/-- Whether a character may stand in the name of a group. -/
def isNameChar (isFirst : Bool) (char : Char) : Bool :=
  if char.toNat < 0x80 then
    char.isAlpha || char == '_' ||
      (!isFirst && (char.isDigit || char == '.' || char == '[' || char == ']'))
  else
    alphabetic.contains char || (!isFirst && numbers.contains char)

/-- Reads the name of a group up to its closing angle bracket. -/
def readGroupName (isFirst : Bool) : List Char → Option (List Char × List Char)
  | [] => none
  | char :: rest =>
      if char = '>' then if isFirst then none else some ([], rest)
      else if isNameChar isFirst char then
        (readGroupName false rest).map fun (name, after) => (char :: name, after)
      else none

/-- Opens a group whose name follows. No two groups have one name. -/
def Reading.openNamed? (reading : Reading) (input : List Char) :
    Option (Reading × List Char) := do
  let (name, after) ← readGroupName true input
  let name := String.ofList name
  if reading.names.contains name then none
  else some ({ reading with names := name :: reading.names }.openNumbered, after)

/-- Reads what follows an opening parenthesis: a name, switches or nothing special. There is no way
to look ahead or behind. -/
def Reading.readGroup? (reading : Reading) (rest : List Char) : Option (Reading × List Char) :=
  match reading.flags.skip rest with
  | '?' :: '=' :: _ => none
  | '?' :: '!' :: _ => none
  | '?' :: '<' :: '=' :: _ => none
  | '?' :: '<' :: '!' :: _ => none
  | '?' :: 'P' :: '<' :: named => reading.openNamed? named
  | '?' :: '<' :: named => reading.openNamed? named
  | '?' :: switches => do
      let list ← readFlags reading.flags [] switches
      if list.opensGroup then some (reading.openPlain list.flags, list.rest)
      else if list.isEmpty then none
      else
        let piece : Piece := { pattern := .empty, depth := 0, repeatable := false }
        some ({ reading with flags := list.flags }.push piece, list.rest)
  | input => some (reading.openNumbered, input)

/-- Reads decimal digits, blanks after each passed over. The fuel bounds the characters read. -/
def readDigits (flags : Flags) : (fuel : Nat) → List Char → List Char × List Char
  | 0, input => ([], input)
  | fuel + 1, input =>
      match input with
      | [] => ([], [])
      | char :: rest =>
          if char.isDigit then
            let (digits, after) := readDigits flags fuel (flags.skip rest)
            (char :: digits, after)
          else ([], input)

/-- Drops white space, and comments after it where they do not count. The fuel bounds the
characters read. -/
def dropSpace (flags : Flags) : (fuel : Nat) → List Char → List Char
  | 0, input => input
  | fuel + 1, input =>
      match input with
      | [] => []
      | char :: rest => if isSpace char then dropSpace flags fuel (flags.skip rest) else input

/-- The value of a list of decimal digits. -/
def decimalValue (digits : List Char) : Nat :=
  digits.foldl (fun value digit => 10 * value + (digit.toNat - '0'.toNat)) 0

/-- Reads the bound of a repetition: at least one digit, at most 32 bits, blanks around it. The
fuel bounds the characters read. -/
def readBound (flags : Flags) (fuel : Nat) (input : List Char) : Option (Nat × List Char) :=
  let start := input.dropWhile isSpace
  let (digits, after) := readDigits flags fuel start
  let value := decimalValue digits
  if digits.isEmpty || UInt32.size ≤ value then none
  else some (value, dropSpace flags fuel after)

/-- Reads the bounds of a repetition after the opening brace, up to the closing one. The fuel
bounds the characters read. -/
def readBounds (flags : Flags) (fuel : Nat) (rest : List Char) :
    Option (Nat × Option Nat × List Char) := do
  let (least, after) ← readBound flags fuel (flags.skip rest)
  match after with
  | '}' :: rest => some (least, some least, rest)
  | ',' :: rest =>
      match flags.skip rest with
      | '}' :: rest => some (least, none, rest)
      | input =>
          let (most, after) ← readBound flags fuel input
          match after with
          | '}' :: rest => if least ≤ most then some (least, some most, rest) else none
          | _ => none
  | _ => none

/-- Adds a primitive to the innermost group. -/
def Reading.pushPrimitive? (reading : Reading) (primitive : Primitive) (rest : List Char) :
    Option (Reading × List Char) := do
  let pattern ← primitive.pattern? reading.flags
  some (reading.push { pattern := pattern, depth := 0 }, rest)

/-- Lets the next character of a pattern act. The fuel bounds the characters read with it. -/
def Reading.step? (fuel : Nat) (reading : Reading) (char : Char) (rest : List Char) :
    Option (Reading × List Char) :=
  let flags := reading.flags
  match char with
  | '(' => reading.readGroup? rest
  | ')' => reading.closeGroup?.map fun reading => (reading, rest)
  | '|' => some (reading.nextBranch, rest)
  | '[' => do
      let (nested, after) ← readClass flags fuel rest
      some (reading.push { pattern := .ofSet nested.set, depth := nested.depth }, after)
  | '?' => reading.repeatLast? 0 (some 1) rest
  | '*' => reading.repeatLast? 0 none rest
  | '+' => reading.repeatLast? 1 none rest
  | '{' => do
      let (least, most, after) ← readBounds flags fuel rest
      reading.repeatLast? least most (flags.skip after)
  | '\\' => do
      let (primitive, after) ← readEscape flags fuel rest
      reading.pushPrimitive? primitive after
  | '.' => reading.pushPrimitive? .dot rest
  | '^' =>
      let look := if !flags.multiLine then .textStart
        else if flags.crlf then .lineStartCrlf else .lineStart
      reading.pushPrimitive? (.condition look) rest
  | '$' =>
      let look := if !flags.multiLine then .textEnd
        else if flags.crlf then .lineEndCrlf else .lineEnd
      reading.pushPrimitive? (.condition look) rest
  | char => reading.pushPrimitive? (.literal char false) rest

/-- Reads a pattern to its end. The fuel bounds the number of steps and the characters read in
one. -/
def Reading.run? : (fuel : Nat) → Reading → List Char → Option Reading
  | 0, _, _ => none
  | fuel + 1, reading, input =>
      match reading.flags.skip input with
      | [] => some reading
      | char :: rest => do
          let (reading, rest) ← reading.step? fuel char rest
          reading.run? fuel rest

/-- How deep the notation of a pattern may nest. -/
def nestingLimit : Nat := 250

/-- How large an automaton of a pattern may be, in bytes. -/
def sizeLimit : Nat := 10 * 1024 * 1024

/-- Reads a pattern. It is refused if its text is malformed, nests too deeply or stands for too
large an automaton. -/
def parse? (source : List Char) : Option Pattern := do
  let reading ← Reading.run? (source.length + 1) {} source
  if reading.groups.isEmpty then
    let (pattern, depth) := reading.body.close
    if depth ≤ nestingLimit ∧ pattern.searchSize .forward ≤ sizeLimit ∧
        pattern.searchSize .backward ≤ sizeLimit then
      some pattern
    else none
  else none

end LogSieve.Regex

import LogSieve.Text.Blank
import LogSieve.Unicode.Composition
import LogSieve.Unicode.Direction
import LogSieve.Unicode.HostMapping
import LogSieve.Unicode.Joining
import LogSieve.Unicode.Property
import LogSieve.Url.Punycode

/-!
# Names of hosts

The name of a host in ASCII. Every character of a name is first kept, left out or replaced, and the
name is composed. A label may not begin with a mark, may join characters only where a script does,
and goes in one direction if any label of the name goes from the right to the left. Labels outside
of ASCII are then written in Punycode behind a prefix, and a label that has this prefix already has
to stand for such a label.
-/

namespace LogSieve.Url

open LogSieve.Text
open LogSieve.Unicode

/-- The characters that stay in names. -/
def keptChars : Charset := hostKept.charset

/-- The characters that are left out of names. -/
def droppedChars : Charset := hostDropped.charset

/-- What replaces a character by a run of shifted characters. -/
def shifted? (code : Nat) : Option (List Nat) :=
  (readGroups hostShifts).findSome? fun
    | [first, count, distance, target] =>
        if first ≤ code ∧ (code - first) % distance = 0 ∧ (code - first) / distance < count then
          some [target + (code - first)]
        else none
    | _ => none

/-- What replaces a character that is listed with its neighbours in a block. -/
def listedIn? (code : Nat) (block : String) : Option (List Nat) :=
  match block.splitOn ":" with
  | [first, targets] =>
      match readNumbers first with
      | [first] =>
          if code < first then none
          else ((readGroups targets)[code - first]?).filter (!·.isEmpty)
      | _ => none
  | _ => none

/-- What replaces a character in a name. -/
def replaced? (code : Nat) : Option (List Nat) :=
  (shifted? code).orElse fun _ => (hostReplacements.splitOn "|").findSome? (listedIn? code)

/-- What becomes of a character in a name. -/
def nameChars? (char : Char) : Option (List Char) :=
  if keptChars.contains char then some [char]
  else if droppedChars.contains char then some []
  else (replaced? char.toNat).map (·.map Char.ofNat)

/-- What a label in Punycode begins with. -/
def punycodeMark : List Char := "xn--".toList

/-- Whether some text is ASCII. -/
def isAsciiText (chars : List Char) : Bool := chars.all (·.toNat < 0x80)

/-- The label that a label in ASCII stands for. One in Punycode stands for one outside of ASCII that
is as a name has to be. -/
def plainLabel? (label : List Char) : Option (List Char) :=
  if punycodeMark.isPrefixOf label then do
    let plain ← Punycode.decode? (label.drop punycodeMark.length)
    if !isAsciiText label || isAsciiText plain then none
    else if !plain.all keptChars.contains || compose plain != plain then none
    else some plain
  else some label

/-- A label in ASCII. -/
def asciiLabel (label : List Char) : List Char :=
  if isAsciiText label then label else punycodeMark ++ Punycode.encode label

/-- Marks of any kind. -/
def marks : Charset := categoriesSet ["mc", "me", "mn"]

/-- The class of marks that suppress a vowel. -/
def vowelKiller : Nat := 9

/-- Whether letters join across a place: `before` are the characters before it, the last one
first. -/
def joinsAcross (before after : List Char) : Bool :=
  let passed := joinedThrough.charset
  ((before.dropWhile passed.contains).head?.any joinsNext.charset.contains) &&
    ((after.dropWhile passed.contains).head?.any joinsPrevious.charset.contains)

/-- Whether the characters that join or part others stand where scripts have them: behind a mark
that suppresses a vowel, and one that parts also between letters that would join. `before` are the
characters before, the last one first. -/
def joinersFit (before : List Char) : List Char → Bool
  | [] => true
  | char :: rest =>
      let afterKiller := before.head?.any (combiningClass ·.toNat == vowelKiller)
      let fits := match char.toNat with
        | 0x200C => afterKiller || joinsAcross before rest
        | 0x200D => afterKiller
        | _ => true
      fits && joinersFit (char :: before) rest

/-- How a character lies in lines of text. -/
inductive Lie where
  | rightward
  | leftward
  | arabicNumber
  | europeanNumber
  | mark
  | neutral
deriving DecidableEq

/-- How a character lies. -/
def lieOf (char : Char) : Lie :=
  if rightToLeft.charset.contains char then .leftward
  else if arabicNumbers.charset.contains char then .arabicNumber
  else if europeanNumbers.charset.contains char then .europeanNumber
  else if nonspacing.charset.contains char then .mark
  else if neutral.charset.contains char then .neutral
  else .rightward

/-- Whether a label goes in one direction: from the left to the right, or from the right to the left
with numbers of one kind. It begins with a letter and ends, marks aside, with a letter or a
number. -/
def isDirected (label : List Lie) : Bool :=
  match label, label.reverse.dropWhile (· == .mark) with
  | .rightward :: _, last :: _ =>
      (last == .rightward || last == .europeanNumber) &&
        label.all fun lie => lie != .leftward && lie != .arabicNumber
  | .leftward :: _, last :: _ =>
      (last != .neutral) && label.all (· != .rightward) &&
        !(label.contains .arabicNumber && label.contains .europeanNumber)
  | _, _ => label.isEmpty

/-- Whether labels lie right: if anything goes from the right to the left, each goes in one
direction. -/
def lieRight (labels : List (List Lie)) : Bool :=
  !labels.any (fun label => label.contains .leftward || label.contains .arabicNumber) ||
    labels.all isDirected

/-- The labels of a name in ASCII. -/
def asciiLabels? (labels : List (List Char)) : Option (List (List Char)) := do
  let plain ← labels.mapM plainLabel?
  if plain.any (fun label => label.head?.any marks.contains) then none
  else if !plain.all (joinersFit []) then none
  else if !lieRight (plain.map (·.map lieOf)) then none
  else some (labels.map asciiLabel)

/-- The name of a host in ASCII; names that are simply ASCII are only put in lower case. -/
def asciiName? (chars : List Char) : Option (List Char) :=
  let lower := chars.map Char.toLower
  let labels := splitAt '.' lower
  if isAsciiText lower && !labels.any punycodeMark.isPrefixOf then some lower
  else do
    let mapped ← chars.mapM nameChars?
    let labels ← asciiLabels? (splitAt '.' (compose mapped.flatten))
    some (joinWith '.' labels)

end LogSieve.Url

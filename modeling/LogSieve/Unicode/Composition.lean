import LogSieve.Unicode.Combining

/-!
# Composition

The composed form of a text: marks are put in order, and every pair of characters that combine is
one character. A text has to be stable character by character; what is composed is then taken
apart, ordered and composed again as a whole.
-/

namespace LogSieve.Unicode

/-- The classes of combining characters with their members. -/
def classSets : List (Nat × Charset) :=
  combiningClasses.map fun (number, runs) => (number, readRuns runs)

/-- The class of a character; zero if it does not combine with the ones before it. -/
def combiningClass (code : Nat) : Nat :=
  ((classSets.find? fun (_, set) => set.hasCode code).map (·.1)).getD 0

/-- The pairs that combine, with what they combine to. -/
def pairs : List (List Nat) := readGroups composites

/-- The first of the syllables of Hangul, which are composed by rule: of 19 consonants, 21 vowels
and 27 last consonants, or none. -/
def firstSyllable : Nat := 0xAC00

/-- The number of syllables of Hangul. -/
def syllableCount : Nat := 19 * 21 * 28

/-- What a syllable of Hangul is composed of. -/
def syllableParts (index : Nat) : List Nat :=
  [0x1100 + index / (21 * 28), 0x1161 + index / 28 % 21] ++
    if index % 28 = 0 then [] else [0x11A7 + index % 28]

/-- What a character is composed of, down to the smallest parts. The fuel bounds the number of
steps. -/
def partsOf : (fuel : Nat) → Nat → List Nat
  | 0, code => [code]
  | fuel + 1, code =>
      if firstSyllable ≤ code ∧ code < firstSyllable + syllableCount then
        syllableParts (code - firstSyllable)
      else
        match pairs.find? (·.getLast? == some code) with
        | some [first, second, _] => partsOf fuel first ++ [second]
        | _ => [code]

/-- The syllable of Hangul that two characters combine to. -/
def syllableOf? (first second : Nat) : Option Nat :=
  if 0x1100 ≤ first ∧ first < 0x1100 + 19 ∧ 0x1161 ≤ second ∧ second < 0x1161 + 21 then
    some (firstSyllable + ((first - 0x1100) * 21 + (second - 0x1161)) * 28)
  else if firstSyllable ≤ first ∧ first < firstSyllable + syllableCount ∧
      (first - firstSyllable) % 28 = 0 ∧ 0x11A7 < second ∧ second < 0x11A7 + 28 then
    some (first + (second - 0x11A7))
  else none

/-- The character that two characters combine to. -/
def composite? (first second : Nat) : Option Nat :=
  (syllableOf? first second).orElse fun _ =>
    (pairs.find? fun pair => pair.take 2 == [first, second]).bind List.getLast?

/-- Puts a mark behind all others of its class or a lower one; `marks` are those since the last
character that is none, the last one first. -/
def insertMark (code : Nat) : List Nat → List Nat
  | [] => [code]
  | last :: marks =>
      if combiningClass code < combiningClass last then last :: insertMark code marks
      else code :: last :: marks

/-- Puts marks in order; `marks` are those since the last character that is none, the last one
first. -/
def orderMarks (marks : List Nat) : List Nat → List Nat
  | [] => marks.reverse
  | code :: rest =>
      if combiningClass code = 0 then marks.reverse ++ code :: orderMarks [] rest
      else orderMarks (insertMark code marks) rest

/-- Composes a text in order: `base` is the last character that is no mark, `marks` those after it
that did not combine, the last one first. A mark combines with the base unless another one that
interacts with it stands between them. -/
def composeFrom (base : Nat) (marks : List Nat) : List Nat → List Nat
  | [] => base :: marks.reverse
  | code :: rest =>
      let isFree := marks.head?.all fun last => combiningClass last < combiningClass code
      match if isFree then composite? base code else none with
      | some composed => composeFrom composed marks rest
      | none =>
          if combiningClass code = 0 then base :: marks.reverse ++ composeFrom code [] rest
          else composeFrom base (code :: marks) rest

/-- The composed form of a text of code points. -/
def composeCodes (codes : List Nat) : List Nat :=
  match orderMarks [] (codes.flatMap (partsOf 4)) with
  | [] => []
  | base :: rest => composeFrom base [] rest

/-- The composed form of a text. -/
def compose (text : List Char) : List Char :=
  (composeCodes (text.map Char.toNat)).map Char.ofNat

end LogSieve.Unicode

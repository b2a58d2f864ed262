import LogSieve.Regex.Pattern

/-!
# Matching

A text of `n` characters has the positions `0` to `n`. A set of positions is a number whose bit
`i` tells whether position `i` is in it, and a pattern takes the set of positions where a match may
start to the set of positions where it may end. A sequence composes these maps, an alternative
joins their results, and a repetition is the limit of its finite unfoldings. Every part of a pattern
remembers where it has been tried already and is tried there only once, so the running time does
not depend on how a text can be split among the parts of a pattern.
-/

namespace LogSieve.Regex

open LogSieve.Unicode

/-- Whether a character belongs to words. -/
def isWordChar (unicode : Bool) (char : Char) : Bool :=
  char.isAlphanum || char == '_' || (unicode && 0x80 ≤ char.toNat && wordChars.contains char)

namespace WordTest

/-- Decides a word test from whether a word character stands before and after the position. -/
def holds : WordTest → (before after : Bool) → Bool
  | boundary, before, after => before != after
  | noBoundary, before, after => before == after
  | start, before, after => !before && after
  | finish, before, after => before && !after
  | startHalf, before, _ => !before
  | finishHalf, _, after => !after

end WordTest

/-- Decides a condition from the characters before and after the position. -/
def Look.holds (before after : Option Char) : Look → Bool
  | .textStart => before.isNone
  | .textEnd => after.isNone
  | .lineStart => before.isNone || before == some '\n'
  | .lineEnd => after.isNone || after == some '\n'
  | .lineStartCrlf =>
      before.isNone || before == some '\n' || (before == some '\r' && after != some '\n')
  | .lineEndCrlf =>
      after.isNone || after == some '\r' || (after == some '\n' && before != some '\r')
  | .word test unicode =>
      test.holds (before.any (isWordChar unicode)) (after.any (isWordChar unicode))

/-- Whether a condition holds between the first two of the given places, which are characters or,
outside of the text, nothing. -/
def Look.holdsAt (condition : Look) : List (Option Char) → Bool
  | before :: after :: _ => condition.holds before after
  | _ => false

/-- The first `room` positions of a list where what follows passes a test, set above the `width`
bits of `block`. Bits are gathered in blocks, because a large number is costly to change. -/
def placesFrom {α : Type} (test : List α → Bool) (block width : Nat) : (room : Nat) → List α → Nat
  | 0, _ => block
  | room + 1, items =>
      let bit := (test items).toNat
      if width < 32 then placesFrom test (block + bit <<< width) (width + 1) room items.tail
      else block + placesFrom test bit 1 room items.tail <<< 32

/-- The first `room` positions of a list where what follows passes a test. -/
def places {α : Type} (test : List α → Bool) (room : Nat) (items : List α) : Nat :=
  placesFrom test 0 0 room items

/-- The positions of a text before a character of the set. -/
def beforeChars (set : Charset) (text : List Char) : Nat :=
  places (fun rest => rest.head?.any set.contains) text.length text

/-- The positions of a text where a word stands. -/
def beforeWord (word text : List Char) : Nat :=
  places word.isPrefixOf (text.length + 1 - word.length) text

/-- The positions of a text where a condition holds. -/
def wherever (condition : Look) (text : List Char) : Nat :=
  places condition.holdsAt (text.length + 1) (none :: text.map some ++ [none])

/-- A pattern laid out on one text: a word or a set of characters is the positions where it stands
and the length of what it uses up, and a condition is the positions where it holds. `plus` is one
or more rounds of its body, and `rounds` bounds those that reach anything new. -/
inductive Layout where
  | stay
  | jump (origins : Nat) (length : Nat)
  | keep (positions : Nat)
  | seq (first second : Layout)
  | either (first second : Layout)
  | times (body : Layout) (count : Nat)
  | upTo (body : Layout) (count : Nat)
  | plus (body : Layout) (rounds : Nat)

/-- Lays a pattern out on a text; the positions of some sets are known. More rounds than the text
has positions reach no other position than that many rounds do: one of them uses up nothing, and
may be left out or done again. -/
def Pattern.layout (text : List Char) (known : List (Charset × Nat)) : Pattern → Layout
  | .empty => .stay
  | .literal word => .jump (beforeWord word text) word.length
  | .chars set =>
      .jump (match known.lookup set with
        | some origins => origins
        | none => beforeChars set text) 1
  | .look condition => .keep (wherever condition text)
  | .group _ body => body.layout text known
  | .seq first second => .seq (first.layout text known) (second.layout text known)
  | .either first second => .either (first.layout text known) (second.layout text known)
  | .repeated body least most _ =>
      let positions := text.length + 1
      let body := body.layout text known
      match least, most with
      | 0, none => .either .stay (.plus body positions)
      | least + 1, none => .seq (.times body (min least positions)) (.plus body positions)
      | least, some most =>
          .seq (.times body (min least positions)) (.upTo body (min (most - least) positions))

/-- Where the parts of a layout have been tried: at the positions `seen` as a whole. -/
inductive Memory where
  | blank
  | node (seen : Nat) (first second : Memory)

namespace Memory

/-- The positions where a layout as a whole has been tried. -/
def seen : Memory → Nat
  | blank => 0
  | node seen _ _ => seen

/-- The memory of the first part. -/
def first : Memory → Memory
  | blank => blank
  | node _ first _ => first

/-- The memory of the second part. -/
def second : Memory → Memory
  | blank => blank
  | node _ _ second => second

end Memory

/-- The positions of the first set that are not in the second. -/
def without (positions others : Nat) : Nat := positions ^^^ (positions &&& others)

/-- A way to try something at positions: what to remember, and the positions where it ends, those
left out that it was known to reach from positions tried before. -/
abbrev Attempt := Memory → Nat → Memory × Nat

namespace Attempt

/-- Tries a number of rounds. -/
def times (attempt : Attempt) : Nat → Attempt
  | 0 => fun memory starts => (memory, starts)
  | count + 1 => fun memory starts =>
      let fresh := without starts memory.seen
      if fresh = 0 then (memory, 0)
      else
        let (once, middle) := attempt memory.first fresh
        let (later, ends) := times attempt count memory.second middle
        (.node (memory.seen ||| fresh) once later, ends)

/-- Tries any number of rounds up to a given one. -/
def upTo (attempt : Attempt) : Nat → Attempt
  | 0 => fun memory starts => (memory, starts)
  | count + 1 => fun memory starts =>
      let fresh := without starts memory.seen
      if fresh = 0 then (memory, 0)
      else
        let (once, middle) := attempt memory.first fresh
        let (later, ends) := upTo attempt count memory.second middle
        (.node (memory.seen ||| fresh) once later, fresh ||| ends)

/-- Tries one round after the other, each where the one before came to new positions. Gives the
memory of a round, the positions tried and those reached. -/
def grow (attempt : Attempt) : (rounds : Nat) → Memory → (seen reached fresh : Nat) →
    Memory × Nat × Nat
  | 0, memory, seen, reached, _ => (memory, seen, reached)
  | rounds + 1, memory, seen, reached, fresh =>
      if fresh = 0 then (memory, seen, reached)
      else
        let (memory, ends) := attempt memory fresh
        grow attempt rounds memory (seen ||| fresh) (reached ||| ends)
          (without ends (seen ||| fresh))

end Attempt

/-- The positions where a match ends that starts in one of the given positions. -/
def Layout.advance : Layout → Attempt
  | .stay => fun memory starts => (memory, starts)
  | .jump origins length => fun memory starts => (memory, (starts &&& origins) <<< length)
  | .keep positions => fun memory starts => (memory, starts &&& positions)
  | .seq first second => fun memory starts =>
      let fresh := without starts memory.seen
      if fresh = 0 then (memory, 0)
      else
        let (left, middle) := first.advance memory.first fresh
        let (right, ends) := second.advance memory.second middle
        (.node (memory.seen ||| fresh) left right, ends)
  | .either first second => fun memory starts =>
      let fresh := without starts memory.seen
      if fresh = 0 then (memory, 0)
      else
        let (left, ends) := first.advance memory.first fresh
        let (right, others) := second.advance memory.second fresh
        (.node (memory.seen ||| fresh) left right, ends ||| others)
  | .times body count => Attempt.times body.advance count
  | .upTo body count => Attempt.upTo body.advance count
  | .plus body rounds => fun memory starts =>
      let (once, seen, reached) :=
        Attempt.grow body.advance rounds memory.first memory.seen 0 (without starts memory.seen)
      (.node seen once .blank, reached)

/-- The positions where a match of a pattern ends that starts in one of the given positions. -/
def Pattern.ends (pattern : Pattern) (text : List Char) (starts : Nat) : Nat :=
  let known := pattern.sets.map fun set => (set, beforeChars set text)
  ((pattern.layout text known).advance .blank starts).2

/-- Whether some part of the text matches. -/
def Pattern.occursIn (pattern : Pattern) (text : List Char) : Bool :=
  pattern.ends text (Nat.pow 2 (text.length + 1) - 1) != 0

/-- Whether the text as a whole matches. -/
def Pattern.matchesWhole (pattern : Pattern) (text : List Char) : Bool :=
  (pattern.ends text 1).testBit text.length

end LogSieve.Regex

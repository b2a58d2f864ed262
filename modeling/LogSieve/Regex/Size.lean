import LogSieve.Regex.Encoding
import LogSieve.Regex.Pattern

/-!
# Sizes of automata

How large the automaton of a pattern is. An automaton reads bytes. It is built twice, once to read
a text forwards, with marks where groups start and end, and once to read it backwards. Every state
has the same base size; one that tells bytes apart takes more for each range of bytes, and one that
forks more for each branch. A counted repetition is written out, which makes it large.
-/

namespace LogSieve.Regex

open LogSieve.Unicode

/-- Which way an automaton reads a text. -/
inductive Direction where
  | forward
  | backward
deriving DecidableEq

/-- The bytes of any state. -/
def stateSize : Nat := 32

/-- The bytes of a state that tells ranges of bytes apart. -/
def sparseSize (ranges : Nat) : Nat := stateSize + 8 * ranges

/-- The bytes of a state that forks. -/
def forkSize (branches : Nat) : Nat := stateSize + 4 * branches

/-- Rows grouped by their first range, what follows it kept. Rows with one first range are
neighbours. -/
def groupRows : List (List Range) → List (Range × List (List Range))
  | [] => []
  | [] :: rows => groupRows rows
  | (range :: row) :: rows =>
      match groupRows rows with
      | (next, tails) :: groups =>
          if range = next then (range, row :: tails) :: groups
          else (range, [row]) :: (next, tails) :: groups
      | [] => [(range, [row])]

/-- States by what they do: ranges of bytes, each with the number of the state it leads to. The
state at the end of all rows has the number zero. -/
abbrev States := List (List (Range × Nat))

/-- Finds a state or adds it, and gives its number. -/
def States.intern (states : States) (state : List (Range × Nat)) : States × Nat :=
  match states.idxOf? state with
  | some index => (states, states.length - index)
  | none => (state :: states, states.length + 1)

/-- The states that read rows forwards, those that do the same being one state, and the number of
the one to start in. The fuel bounds the length of the rows. -/
def readRows : (fuel : Nat) → States → List (List Range) → States × Nat
  | 0, states, _ => (states, 0)
  | fuel + 1, states, rows =>
      match groupRows rows with
      | [] => (states, 0)
      | groups =>
          let (states, state) := groups.foldl
            (fun (states, state) (range, tails) =>
              let (states, next) := readRows fuel states tails
              (states, (range, next) :: state))
            (states, [])
          states.intern state

/-- The number of different beginnings that rows have. The fuel bounds their length. -/
def countBeginnings : (fuel : Nat) → List (List Range) → Nat
  | 0, _ => 0
  | fuel + 1, rows =>
      (groupRows rows).foldl (fun count (_, tails) => count + 1 + countBeginnings fuel tails) 0

/-- The size of the automaton for one character of a set. An ASCII set takes one state; otherwise
states are shared by the ends of encodings when reading forwards and by their beginnings when
reading backwards. -/
def setSize (direction : Direction) (set : Charset) : Nat :=
  if set.isAscii then stateSize + sparseSize set.ranges.length
  else
    let rows := encodedRows set
    match direction with
    | .forward =>
        (readRows 4 [] rows).1.foldl (fun size state => size + sparseSize state.length) stateSize
    | .backward =>
        stateSize + forkSize rows.length + stateSize * countBeginnings 4 rows

/-- Cuts a list of texts at the empty ones. -/
def cutAtEmpty : List (List Nat) → List (List (List Nat))
  | [] => [[]]
  | [] :: texts => [] :: cutAtEmpty texts
  | text :: texts =>
      match cutAtEmpty texts with
      | chunk :: chunks => (text :: chunk) :: chunks
      | [] => [[text]]

/-- Texts in the order in which they are preferred, cut where one of them is at its end; several
that are at their end before any other goes on count as one. -/
def chunksOf : List (List Nat) → List (List (List Nat))
  | [] :: texts => cutAtEmpty ([] :: texts.dropWhile List.isEmpty)
  | texts => cutAtEmpty texts

/-- What follows a byte in the texts that begin with it. -/
def tailsAfter (byte : Nat) (texts : List (List Nat)) : List (List Nat) :=
  texts.filterMap fun
    | first :: tail => if first = byte then some tail else none
    | [] => none

/-- The size of a tree of texts that share their beginnings. The fuel bounds their length. -/
def treeSize : (fuel : Nat) → List (List Nat) → Nat
  | 0, _ => 0
  | fuel + 1, texts =>
      let chunks := chunksOf texts
      let filled := chunks.filter (!·.isEmpty)
      filled.foldl
        (fun size chunk =>
          let bytes := (chunk.filterMap List.head?).eraseDups
          let fan := if bytes.length = 1 then stateSize else sparseSize bytes.length
          bytes.foldl
            (fun size byte =>
              let tails := tailsAfter byte chunk
              if tails.all List.isEmpty then size else size + treeSize fuel tails)
            (size + fan))
        (forkSize (filled.length + chunks.length - 1))

/-- The size of the automaton for any of several texts. -/
def textsSize (direction : Direction) (texts : List (List Char)) : Nat :=
  let encoded := texts.map fun text => text.flatMap fun char => encode char.toNat
  let ordered := match direction with
    | .forward => encoded
    | .backward => encoded.map List.reverse
  stateSize + treeSize ((encoded.map List.length).foldl max 0) ordered

namespace Pattern

/-- The least number of characters of a match, for a pattern without an empty set. -/
def minLength? : Pattern → Option Nat
  | empty => some 0
  | literal text => some text.length
  | chars set => if set.isEmpty then none else some 1
  | look _ => some 0
  | group _ body => body.minLength?
  | seq first second => return (← first.minLength?) + (← second.minLength?)
  | either first second => return min (← first.minLength?) (← second.minLength?)
  | repeated body least _ _ => return (← body.minLength?) * least

/-- The text that a pattern is. -/
def text? : Pattern → Option (List Char)
  | literal text => some text
  | _ => none

/-- What a branch adds to the state that forks. -/
def linkSize (isBranch : Bool) : Nat := if isBranch then 4 else 0

/-- The size of the automaton of a pattern, on its own or as one of several branches; the sizes of
some sets are known. Branches that are all texts form a tree. -/
def size (direction : Direction) (known : List (Charset × Nat)) (isBranch : Bool) : Pattern → Nat
  | empty => linkSize isBranch + stateSize
  | literal text =>
      linkSize isBranch + stateSize * (text.flatMap fun char => encode char.toNat).length
  | chars set =>
      linkSize isBranch +
        match known.lookup set with
        | some size => size
        | none => setSize direction set
  | look _ => linkSize isBranch + stateSize
  | group _ body =>
      linkSize isBranch + body.size direction known false +
        match direction with
        | .forward => 2 * stateSize
        | .backward => 0
  | seq first second =>
      linkSize isBranch + first.size direction known false + second.size direction known false
  | either first second =>
      let sides := first.size direction known true + second.size direction known true
      if isBranch then sides
      else
        match (either first second).branches.mapM text? with
        | some texts => textsSize direction texts
        | none => 2 * stateSize + sides
  | repeated body least most _ =>
      let once := body.size direction known false
      linkSize isBranch +
        match least, most with
        | 0, none =>
            if body.minLength?.any (0 < ·) then forkSize 2 + once
            else 2 * forkSize 2 + stateSize + once
        | least, none => least * once + forkSize 2
        | 0, some 1 => forkSize 2 + once + stateSize
        | least, some most =>
            if least = most then least * once
            else
              (if least = 0 then stateSize else least * once) + stateSize +
                (most - least) * (forkSize 2 + once)

/-- Whether every match starts where the text starts or, backwards, ends where it ends. -/
def isAnchored (direction : Direction) : Pattern → Bool
  | look condition =>
      match direction with
      | .forward => condition == .textStart
      | .backward => condition == .textEnd
  | group _ body => body.isAnchored direction
  | seq first second =>
      match direction with
      | .forward =>
          first.isAnchored direction || (first.isZeroWidth && second.isAnchored direction)
      | .backward =>
          second.isAnchored direction || (second.isZeroWidth && first.isAnchored direction)
  | either first second => first.isAnchored direction && second.isAnchored direction
  | repeated body least _ _ => 0 < least && body.isAnchored direction
  | _ => false

/-- The size of the automaton that looks for a pattern: one that is not anchored first passes over
any bytes. -/
def searchSize (direction : Direction) (pattern : Pattern) : Nat :=
  let known := pattern.sets.map fun set => (set, setSize direction set)
  (if pattern.isAnchored direction then stateSize else forkSize 2 + stateSize + sparseSize 1) +
    (group 0 pattern).size direction known false + stateSize

end Pattern

end LogSieve.Regex

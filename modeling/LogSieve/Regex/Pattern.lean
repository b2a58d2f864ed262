import LogSieve.Unicode.Property

/-!
# Patterns

The abstract syntax of regular expressions: what is left once flags are applied and character
classes turned into sets. Patterns are built in a normal form. A sequence has no sequence, no empty
pattern and no two neighbouring texts among its parts; an alternative has no alternative among its
branches, is a set of characters if its branches are, and does not repeat a beginning that its
branches share.
-/

namespace LogSieve.Regex

open LogSieve.Unicode

/-- How a position lies with respect to a word: on either edge, on none, on a given edge, or with
no word on one side. -/
inductive WordTest where
  | boundary
  | noBoundary
  | start
  | finish
  | startHalf
  | finishHalf
deriving DecidableEq

/-- Conditions on a position that use up no text. -/
inductive Look where
  | textStart
  | textEnd
  | lineStart
  | lineEnd
  | lineStartCrlf
  | lineEndCrlf
  | word (test : WordTest) (unicode : Bool)
deriving DecidableEq

/-- A regular expression. `repeated` tries its body at least `least` times and at most `most`
times, without an upper bound if that is absent; which numbers of rounds are preferred does not
change what is accepted, and neither does the number of a group. -/
inductive Pattern where
  | empty
  | literal (text : List Char)
  | chars (set : Charset)
  | look (condition : Look)
  | group (number : Nat) (body : Pattern)
  | seq (first second : Pattern)
  | either (first second : Pattern)
  | repeated (body : Pattern) (least : Nat) (most : Option Nat) (prefersMore : Bool)
deriving DecidableEq

namespace Pattern

/-- Any character of a set. -/
def ofSet (set : Charset) : Pattern :=
  match set.ranges with
  | [⟨first, last⟩] => if first = last then literal [Char.ofNat first] else chars set
  | _ => chars set

/-- The parts of a pattern, one after the other. -/
def parts : Pattern → List Pattern
  | empty => []
  | seq first second => first.parts ++ second.parts
  | pattern => [pattern]

/-- Joins neighbouring texts. -/
def joinLiterals : List Pattern → List Pattern
  | [] => []
  | literal text :: rest =>
      match joinLiterals rest with
      | literal next :: rest => literal (text ++ next) :: rest
      | rest => literal text :: rest
  | pattern :: rest => pattern :: joinLiterals rest

/-- Patterns in a row, as they are. -/
def row : List Pattern → Pattern
  | [] => empty
  | [pattern] => pattern
  | pattern :: rest => seq pattern (row rest)

/-- One pattern after the other. -/
def concat (patterns : List Pattern) : Pattern :=
  row (joinLiterals (patterns.flatMap parts))

/-- The branches of a pattern. -/
def branches : Pattern → List Pattern
  | either first second => first.branches ++ second.branches
  | pattern => [pattern]

/-- The set that a pattern for one character is, which is written as a text of that character. -/
def oneChar? : Pattern → Option Charset
  | literal [char] => some (.singleton char)
  | _ => none

/-- The set that a pattern for one of several characters is. -/
def oneOfChars? : Pattern → Option Charset
  | chars set => some set
  | _ => none

/-- The union of sets. -/
def unionAll (sets : List Charset) : Charset := .ofRanges (sets.flatMap (·.ranges))

/-- Branches side by side, as they are. -/
def fork (pattern : Pattern) : List Pattern → Pattern
  | [] => pattern
  | next :: rest => either pattern (fork next rest)

/-- Any of the branches as a set of characters: all of them are single characters, or all of them
are sets of several. -/
def charsOf? (branches : List Pattern) : Option Pattern :=
  ((branches.mapM oneChar?).orElse fun _ => branches.mapM oneOfChars?).map fun sets =>
    ofSet (unionAll sets)

/-- Any of the patterns; none of them accepts nothing. -/
def anyOf (patterns : List Pattern) : Pattern :=
  match patterns.flatMap branches with
  | [] => chars .empty
  | [pattern] => pattern
  | pattern :: rest => (charsOf? (pattern :: rest)).getD (fork pattern rest)

/-- The longest list that both lists begin with. -/
def commonStart : List Pattern → List Pattern → List Pattern
  | first :: firsts, second :: seconds =>
      if first = second then first :: commonStart firsts seconds else []
  | _, _ => []

/-- The parts that all branches begin with. Only branches of two or more parts share any. -/
def sharedStart (branches : List Pattern) : List Pattern :=
  match branches.map parts with
  | [] => []
  | first :: rest =>
      if (first :: rest).all (2 ≤ ·.length) then rest.foldl commonStart first else []

/-- Any of the patterns, with what all begin with moved to the front. -/
def choice (patterns : List Pattern) : Pattern :=
  match anyOf patterns with
  | either first second =>
      let branches := (either first second).branches
      match sharedStart branches with
      | [] => either first second
      | shared =>
          concat (shared ++ [anyOf (branches.map fun branch =>
            concat (branch.parts.drop shared.length))])
  | pattern => pattern

/-- Whether the pattern can only match the empty text. -/
def isZeroWidth : Pattern → Bool
  | empty => true
  | literal text => text.isEmpty
  | chars _ => false
  | look _ => true
  | group _ body => body.isZeroWidth
  | seq first second => first.isZeroWidth && second.isZeroWidth
  | either first second => first.isZeroWidth && second.isZeroWidth
  | repeated body _ most _ => body.isZeroWidth || most == some 0

/-- The sets of characters that a pattern asks for, in their order, as often as it does. -/
def allSets : Pattern → List Charset
  | chars set => [set]
  | group _ body => body.allSets
  | seq first second => first.allSets ++ second.allSets
  | either first second => first.allSets ++ second.allSets
  | repeated body _ _ _ => body.allSets
  | _ => []

/-- The sets of characters that a pattern asks for, each once. -/
def sets (pattern : Pattern) : List Charset := pattern.allSets.eraseDups

/-- A pattern again and again. More than one round of a pattern that only matches the empty text
adds nothing. -/
def again (body : Pattern) (least : Nat) (most : Option Nat) (prefersMore : Bool) : Pattern :=
  let (least, most) :=
    if body.isZeroWidth then (min least 1, some (min (most.getD 1) 1)) else (least, most)
  match least, most with
  | 0, some 0 => empty
  | 1, some 1 => body
  | _, _ => repeated body least most prefersMore

end Pattern

end LogSieve.Regex

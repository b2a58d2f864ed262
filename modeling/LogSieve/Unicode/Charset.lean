/-!
# Character sets

Sets of characters as increasing lists of disjoint, non-adjacent closed ranges of code points.
Every operation returns such a list when its arguments are such lists.
-/

namespace LogSieve.Unicode

/-- The largest code point. -/
def maxCodePoint : Nat := 0x10FFFF

/-- The code points from `first` to `last`, both included. -/
structure Range where
  first : Nat
  last : Nat
deriving DecidableEq, Inhabited

/-- A set of code points. -/
structure Charset where
  ranges : List Range
deriving DecidableEq, Inhabited

namespace Charset

/-- The set without members. -/
def empty : Charset := ⟨[]⟩

/-- The set of all code points. -/
def all : Charset := ⟨[⟨0, maxCodePoint⟩]⟩

/-- The code points of one range. -/
def ofRange (first last : Nat) : Charset := ⟨[⟨first, last⟩]⟩

/-- The set of one character. -/
def singleton (char : Char) : Charset := ofRange char.toNat char.toNat

/-- Whether a code point lies in the set. -/
def hasCode (set : Charset) (code : Nat) : Bool :=
  set.ranges.any fun range => range.first ≤ code && code ≤ range.last

/-- Whether a character lies in the set. -/
def contains (set : Charset) (char : Char) : Bool := set.hasCode char.toNat

/-- Whether the set has no members. -/
def isEmpty (set : Charset) : Bool := set.ranges.isEmpty

/-- Joins the ranges of an increasing list that overlap or touch, starting with `current`. -/
def joinFrom (current : Range) : List Range → List Range
  | [] => [current]
  | next :: rest =>
      if next.first ≤ current.last + 1 then
        joinFrom ⟨current.first, max current.last next.last⟩ rest
      else
        current :: joinFrom next rest

/-- Joins the ranges of a list whose first members increase. -/
def join : List Range → List Range
  | [] => []
  | range :: rest => joinFrom range rest

/-- The union of any ranges, in any order. -/
def ofRanges (ranges : List Range) : Charset :=
  ⟨join (ranges.mergeSort fun left right => left.first ≤ right.first)⟩

/-- The members of either set. -/
def union (left right : Charset) : Charset :=
  ⟨join (left.ranges.merge right.ranges fun left right => left.first ≤ right.first)⟩

/-- What lies between the ranges of an increasing list, from `start` on. -/
def gaps (start : Nat) : List Range → List Range
  | [] => if start ≤ maxCodePoint then [⟨start, maxCodePoint⟩] else []
  | range :: rest =>
      if start < range.first then
        ⟨start, range.first - 1⟩ :: gaps (range.last + 1) rest
      else
        gaps (range.last + 1) rest

/-- The code points outside the set. -/
def complement (set : Charset) : Charset := ⟨gaps 0 set.ranges⟩

/-- The members of both sets. -/
def inter (left right : Charset) : Charset :=
  (left.complement.union right.complement).complement

/-- The members of the first set that are not in the second. -/
def diff (left right : Charset) : Charset := left.inter right.complement

/-- The members of exactly one of the sets. -/
def symmDiff (left right : Charset) : Charset :=
  (left.union right).diff (left.inter right)

/-- Whether all members are ASCII. -/
def isAscii (set : Charset) : Bool := set.ranges.all fun range => range.last < 0x80

@[simp] theorem hasCode_empty (code : Nat) : empty.hasCode code = false := rfl

@[simp] theorem hasCode_ofRange (first last code : Nat) :
    (ofRange first last).hasCode code = (decide (first ≤ code) && decide (code ≤ last)) := by
  simp [ofRange, hasCode]

theorem contains_singleton (char : Char) : (singleton char).contains char = true := by
  simp [singleton, contains]

end Charset

end LogSieve.Unicode

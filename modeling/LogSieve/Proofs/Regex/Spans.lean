import LogSieve.Proofs.Regex.Advance

/-!
# What patterns match

A pattern stands for a relation between positions of a text: the part between them matches it. The
matcher decides this relation.
-/

namespace LogSieve.Regex

open LogSieve.Unicode

/-! ## Places of a text -/

section Places

variable {α : Type} (test : List α → Bool)

/-- A bit that is set above others. -/
theorem testBit_add_shiftLeft {low width : Nat} (small : low < 2 ^ width) (high position : Nat) :
    (low + high <<< width).testBit position =
      if position < width then low.testBit position else high.testBit (position - width) := by
  rw [Nat.shiftLeft_eq, Nat.mul_comm, Nat.add_comm, Nat.testBit_two_pow_mul_add high small]

theorem add_shiftLeft_lt {low width bit : Nat} (small : low < 2 ^ width) (single : bit < 2) :
    low + bit <<< width < 2 ^ (width + 1) := by
  have bounded : bit * 2 ^ width ≤ 1 * 2 ^ width := Nat.mul_le_mul_right _ (by omega)
  rw [Nat.shiftLeft_eq, Nat.pow_succ]
  omega

theorem testBit_placesFrom {block width : Nat} (narrow : width ≤ 32) (small : block < 2 ^ width)
    (room : Nat) (items : List α) (position : Nat) :
    (placesFrom test block width room items).testBit position =
      if position < width then block.testBit position
      else decide (position - width < room) && test (items.drop (position - width)) := by
  induction room generalizing block width items position with
  | zero =>
      split_ifs with low
      · rfl
      · simp only [placesFrom, Nat.not_lt_zero, decide_false, Bool.false_and]
        apply Nat.testBit_lt_two_pow
        exact small.trans_le (Nat.pow_le_pow_right Nat.two_pos (Nat.le_of_not_lt low))
  | succ room later =>
      have bounded : (test items).toNat < 2 := Bool.toNat_lt (test items)
      have lowest : (test items).toNat.testBit 0 = test items := by
        cases test items <;> rfl
      rw [placesFrom]
      by_cases wide : width < 32
      · rw [if_pos wide, later (by omega) (add_shiftLeft_lt small bounded),
          testBit_add_shiftLeft small]
        by_cases low : position < width
        · rw [if_pos (by omega), if_pos low, if_pos low]
        · rw [if_neg low, if_neg low]
          rcases Nat.exists_eq_add_of_le (Nat.le_of_not_lt low) with ⟨_ | above, rfl⟩
          · simp [lowest]
          · rw [if_neg (by omega), Nat.add_sub_cancel_left, ← Nat.add_assoc, Nat.add_right_comm,
              Nat.add_sub_cancel_left, List.drop_tail]
            simp
      · have full : width = 32 := by omega
        subst full
        rw [if_neg wide, testBit_add_shiftLeft small, later (by omega) bounded]
        congr 1
        cases position - 32 with
        | zero => simp [lowest]
        | succ above => simp [List.drop_tail]

theorem testBit_places (room : Nat) (items : List α) (position : Nat) :
    (places test room items).testBit position =
      (decide (position < room) && test (items.drop position)) := by
  rw [places, testBit_placesFrom test (Nat.zero_le _) (Nat.pow_pos Nat.two_pos)]
  simp

end Places

variable {text : List Char} {start stop : Nat}

theorem mem_beforeChars_iff {set : Charset} :
    start ∈ bits (beforeChars set text) ↔
      ∃ before char after, text = before ++ char :: after ∧ set.contains char = true ∧
        start = before.length := by
  rw [mem_bits, beforeChars, testBit_places]
  simp only [List.head?_drop, Bool.and_eq_true, decide_eq_true_eq, Option.any_eq_true]
  constructor
  · rintro ⟨bounded, char, found, contained⟩
    rcases List.getElem?_eq_some_iff.mp found with ⟨_, rfl⟩
    refine ⟨text.take start, _, text.drop (start + 1), ?_, contained, ?_⟩
    · rw [← List.drop_eq_getElem_cons, List.take_append_drop]
    · rw [List.length_take, Nat.min_eq_left bounded.le]
  · rintro ⟨before, char, after, rfl, contained, rfl⟩
    refine ⟨by simp, char, by simp, contained⟩

theorem mem_beforeWord_iff {word : List Char} :
    start ∈ bits (beforeWord word text) ↔
      ∃ before after, text = before ++ word ++ after ∧ start = before.length := by
  rw [mem_bits, beforeWord, testBit_places]
  simp only [Bool.and_eq_true, decide_eq_true_eq, List.isPrefixOf_iff_prefix]
  constructor
  · rintro ⟨bounded, after, spelled⟩
    refine ⟨text.take start, after, ?_, ?_⟩
    · rw [List.append_assoc, spelled, List.take_append_drop]
    · rw [List.length_take]
      omega
  · rintro ⟨before, after, rfl, rfl⟩
    refine ⟨by simp; omega, after, by simp⟩

theorem holdsAt_drop (condition : Look) (before after : List Char) :
    condition.holdsAt ((none :: (before ++ after).map some ++ [none]).drop before.length) =
      condition.holds before.getLast? after.head? := by
  rcases before.eq_nil_or_concat with rfl | ⟨before, char, rfl⟩
  · cases after <;> rfl
  · have ahead : (none :: (before ++ [char] ++ after).map some ++ [none]).drop
        (before ++ [char]).length = some char :: (after.map some ++ [none]) := by
      simp
    rw [List.concat_eq_append, ahead, List.getLast?_concat]
    cases after <;> rfl

theorem mem_wherever_iff {condition : Look} :
    start ∈ bits (wherever condition text) ↔
      ∃ before after, text = before ++ after ∧
        condition.holds before.getLast? after.head? = true ∧ start = before.length := by
  rw [mem_bits, wherever, testBit_places, Bool.and_eq_true, decide_eq_true_eq]
  constructor
  · rintro ⟨bounded, holds⟩
    have length : start = (text.take start).length := by
      rw [List.length_take]
      omega
    refine ⟨text.take start, text.drop start, (List.take_append_drop _ _).symm, ?_, length⟩
    rw [← holdsAt_drop, List.take_append_drop, ← length]
    exact holds
  · rintro ⟨before, after, rfl, holds, rfl⟩
    rw [holdsAt_drop]
    refine ⟨?_, holds⟩
    rw [List.length_append]
    omega

/-- A table of values of a function holds nothing else. -/
theorem eq_of_lookup_map {value : Charset → Nat} {sets : List Charset} {set : Charset} {found : Nat}
    (lookup : (sets.map fun set => (set, value set)).lookup set = some found) :
    found = value set := by
  induction sets with
  | nil => cases lookup
  | cons first rest later =>
      rw [List.map_cons, List.lookup_cons] at lookup
      split at lookup
      · next same =>
          rw [← LawfulBEq.eq_of_beq same] at lookup
          exact (Option.some.inj lookup).symm
      · exact later lookup

/-! ## The relation of a pattern -/

namespace Pattern

/-- The part of a text between two positions matches a pattern. A repetition makes the least number
of rounds and then, up to the greatest number, any more. -/
def Spans (text : List Char) : Pattern → Nat → Nat → Prop
  | empty => Eq
  | literal word => fun start stop =>
      ∃ before after, text = before ++ word ++ after ∧ start = before.length ∧
        stop = start + word.length
  | chars set => fun start stop =>
      ∃ before char after, text = before ++ char :: after ∧ set.contains char = true ∧
        start = before.length ∧ stop = start + 1
  | look condition => fun start stop =>
      ∃ before after, text = before ++ after ∧
        condition.holds before.getLast? after.head? = true ∧ start = before.length ∧ start = stop
  | group _ body => body.Spans text
  | seq first second => Relation.Comp (first.Spans text) (second.Spans text)
  | either first second => fun start stop =>
      first.Spans text start stop ∨ second.Spans text start stop
  | repeated body least most _ => fun start stop =>
      ∃ more, (∀ greatest ∈ most, more ≤ greatest - least) ∧
        Rounds (body.Spans text) (least + more) start stop

/-- Positions that are known are those of their sets. -/
def Known (text : List Char) (known : List (Charset × Nat)) : Prop :=
  ∀ set origins, known.lookup set = some origins → origins = beforeChars set text

variable {known : List (Charset × Nat)}

theorem layout_chars (right : Known text known) (set : Charset) :
    (chars set).layout text known = .jump (beforeChars set text) 1 := by
  rw [layout]
  cases found : known.lookup set with
  | none => rfl
  | some origins => rw [right set origins found]

theorem layout_repeated_some (body : Pattern) (least most : Nat) (prefersMore : Bool) :
    (repeated body least (some most) prefersMore).layout text known =
      .seq (.times (body.layout text known) (min least (text.length + 1)))
        (.upTo (body.layout text known) (min (most - least) (text.length + 1))) := by
  cases least <;> rfl

theorem layout_fits (right : Known text known) (pattern : Pattern) :
    (pattern.layout text known).Fits text.length := by
  induction pattern with
  | empty | look condition => trivial
  | literal word =>
      intro start mem
      rcases mem_beforeWord_iff.mp mem with ⟨before, after, rfl, rfl⟩
      simp only [List.length_append]
      omega
  | chars set =>
      rw [layout_chars right]
      intro start mem
      rcases mem_beforeChars_iff.mp mem with ⟨before, char, after, rfl, -, rfl⟩
      simp only [List.length_append, List.length_cons]
      omega
  | group number body fits => exact fits
  | seq first second left right => exact ⟨left, right⟩
  | either first second left right => exact ⟨left, right⟩
  | repeated body least most prefersMore fits =>
      cases most with
      | none =>
          cases least with
          | zero => exact ⟨trivial, fits, rfl⟩
          | succ least => exact ⟨fits, fits, rfl⟩
      | some most =>
          rw [layout_repeated_some]
          exact ⟨fits, fits⟩

/-- A layout stands for the relation of its pattern. -/
theorem links_layout (right : Known text known) (pattern : Pattern) :
    (pattern.layout text known).Links = pattern.Spans text := by
  induction pattern with
  | empty => rfl
  | literal word =>
      funext start stop
      simp only [layout, Layout.Links, Spans, mem_beforeWord_iff]
      grind
  | chars set =>
      funext start stop
      simp only [layout_chars right, Layout.Links, Spans, mem_beforeChars_iff]
      grind
  | look condition =>
      funext start stop
      simp only [layout, Layout.Links, Spans, mem_wherever_iff]
      grind
  | group number body same => exact same
  | seq first second left right => rw [layout, Layout.Links, Spans, left, right]
  | either first second left right => rw [layout, Layout.Links, Spans, left, right]
  | repeated body least most prefersMore same =>
      have forward := (body.layout text known).links_forward (layout_fits right body)
      rw [same] at forward
      funext start stop
      apply propext
      cases most with
      | none =>
          cases least with
          | zero =>
              simp [layout, Layout.Links, Spans, same, eq_or_transGen_iff_rounds]
          | succ least =>
              simp [layout, Layout.Links, Spans, same, forward.rounds_min,
                comp_rounds_transGen_iff]
      | some most =>
          rw [layout_repeated_some]
          simp only [Layout.Links, Spans, same, forward.rounds_min, forward.roundsUpTo_min]
          simp only [Option.mem_some_iff, forall_eq', rounds_add]
          constructor
          · rintro ⟨middle, first, more, bounded, follow⟩
            exact ⟨more, bounded, middle, first, follow⟩
          · rintro ⟨more, bounded, middle, first, follow⟩
            exact ⟨middle, first, more, bounded, follow⟩

/-- Ends of matches are the positions that the pattern spans a part of the text up to. -/
theorem bits_ends (pattern : Pattern) {starts : Nat} (inside : bits starts ⊆ Set.Iic text.length) :
    bits (pattern.ends text starts) = reached (pattern.Spans text) (bits starts) := by
  have right : Known text (pattern.sets.map fun set => (set, beforeChars set text)) :=
    fun _ _ => eq_of_lookup_map
  rw [← links_layout right]
  exact (Layout.advance_follows _ (layout_fits right pattern)).bits_ends inside

/-- A pattern occurs in a text that it spans some part of. -/
theorem occursIn_iff (pattern : Pattern) (text : List Char) :
    pattern.occursIn text = true ↔
      ∃ start stop, start ≤ text.length ∧ pattern.Spans text start stop := by
  have all : bits (Nat.pow 2 (text.length + 1) - 1) = Set.Iic text.length := by
    ext position
    simp [Nat.testBit_two_pow_sub_one]
  rw [occursIn, bne_iff_ne, ne_eq, ← bits_eq_empty_iff, ← ne_eq, ← Set.nonempty_iff_ne_empty,
    bits_ends pattern all.le, all]
  constructor
  · rintro ⟨stop, start, inside, spans⟩
    exact ⟨start, stop, inside, spans⟩
  · rintro ⟨start, stop, inside, spans⟩
    exact ⟨stop, start, inside, spans⟩

/-- A pattern matches a text that it spans from its start to its end. -/
theorem matchesWhole_iff (pattern : Pattern) (text : List Char) :
    pattern.matchesWhole text = true ↔ pattern.Spans text 0 text.length := by
  have origin : bits 1 = {0} := by
    ext position
    simp [Nat.testBit_one_eq_true_iff_self_eq_zero]
  have inside : bits 1 ⊆ Set.Iic text.length := by
    rw [origin]
    simp
  rw [matchesWhole, ← mem_bits, bits_ends pattern inside, origin]
  simp [reached]

end Pattern

end LogSieve.Regex

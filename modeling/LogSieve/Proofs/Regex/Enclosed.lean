import LogSieve.Proofs.Regex.Spans
import LogSieve.Regex.Parser

/-!
# Patterns for a whole text

A pattern between the start and the end of a text. It occurs in the texts that the pattern itself
matches as a whole, and is hardly larger than it.
-/

namespace LogSieve.Regex.Pattern

open LogSieve.Unicode

/-! ## Patterns in a row -/

section Rows

variable {text : List Char}

/-- The parts of a text between two positions match patterns, one after the other. -/
def SpansAll (text : List Char) : List Pattern → Nat → Nat → Prop
  | [] => Eq
  | pattern :: rest => Relation.Comp (pattern.Spans text) (SpansAll text rest)

theorem spansAll_append (first second : List Pattern) :
    SpansAll text (first ++ second) =
      Relation.Comp (SpansAll text first) (SpansAll text second) := by
  induction first with
  | nil => rw [List.nil_append, SpansAll, Relation.eq_comp]
  | cons pattern rest later => rw [List.cons_append, SpansAll, SpansAll, later, Relation.comp_assoc]

theorem spansAll_singleton (pattern : Pattern) : SpansAll text [pattern] = pattern.Spans text := by
  rw [SpansAll, SpansAll, Relation.comp_eq]

theorem spans_row (patterns : List Pattern) :
    (row patterns).Spans text = SpansAll text patterns := by
  induction patterns with
  | nil => rfl
  | cons pattern rest later =>
      cases rest with
      | nil => exact (spansAll_singleton pattern).symm
      | cons next rest =>
          change Relation.Comp (pattern.Spans text) ((row (next :: rest)).Spans text) = _
          rw [later]
          rfl

/-- A text that is written in two pieces stands where the pieces stand. -/
theorem spans_literal_append (word next : List Char) :
    (literal (word ++ next)).Spans text =
      Relation.Comp ((literal word).Spans text) ((literal next).Spans text) := by
  funext start stop
  apply propext
  constructor
  · rintro ⟨before, after, rfl, rfl, rfl⟩
    refine ⟨before.length + word.length, ⟨before, next ++ after, by simp, rfl, rfl⟩, ?_⟩
    exact ⟨before ++ word, after, by simp, by simp, by simp [Nat.add_assoc]⟩
  · rintro ⟨middle, ⟨before, after, spelled, rfl, rfl⟩, longer, rest, same, reaches, rfl⟩
    have split : longer = before ++ word ∧ next ++ rest = after := by
      apply List.append_inj
      · rw [← List.append_assoc, ← same, spelled]
      · rw [← reaches, List.length_append]
    refine ⟨before, rest, ?_, rfl, by simp [Nat.add_assoc]⟩
    rw [spelled, ← split.2]
    simp

theorem spansAll_joinLiterals (patterns : List Pattern) :
    SpansAll text (joinLiterals patterns) = SpansAll text patterns := by
  fun_induction joinLiterals patterns with
  | case1 => rfl
  | case2 word rest next others joined later =>
      rw [SpansAll, SpansAll, ← later, joined, SpansAll, spans_literal_append, Relation.comp_assoc]
  | case3 word rest apart later => rw [SpansAll, SpansAll, later]
  | case4 pattern rest other later => rw [SpansAll, SpansAll, later]

theorem spansAll_parts (pattern : Pattern) : SpansAll text pattern.parts = pattern.Spans text := by
  induction pattern with
  | empty => rfl
  | seq first second left right => rw [parts, spansAll_append, left, right, Spans]
  | _ => exact spansAll_singleton _

theorem spans_concat (patterns : List Pattern) :
    (concat patterns).Spans text = SpansAll text patterns := by
  rw [concat, spans_row, spansAll_joinLiterals]
  induction patterns with
  | nil => rfl
  | cons pattern rest later =>
      rw [List.flatMap_cons, spansAll_append, spansAll_parts, later, SpansAll]

end Rows

/-! ## The whole text -/

/-- A pattern from the start to the end of a text. -/
def enclosed (pattern : Pattern) : Pattern :=
  concat [look .textStart, pattern, look .textEnd]

theorem joinLiterals_append_look (patterns : List Pattern) (condition : Look) :
    joinLiterals (patterns ++ [look condition]) = joinLiterals patterns ++ [look condition] := by
  fun_induction joinLiterals patterns with
  | case1 => rfl
  | case2 word rest next others joined later =>
      rw [List.cons_append, joinLiterals, later, joined]
      rfl
  | case3 word rest apart later =>
      rw [List.cons_append, joinLiterals, later]
      cases joined : joinLiterals rest with
      | nil => rfl
      | cons first others =>
          cases first with
          | literal next => exact (apart next others joined).elim
          | _ => rfl
  | case4 pattern rest other later =>
      rw [List.cons_append, joinLiterals, later, List.cons_append]
      exact other

theorem enclosed_eq (pattern : Pattern) :
    pattern.enclosed =
      row (look .textStart :: (joinLiterals pattern.parts ++ [look .textEnd])) := by
  rw [← joinLiterals_append_look]
  simp [enclosed, concat, parts, joinLiterals]

theorem spans_enclosed_iff {text : List Char} {pattern : Pattern} {start stop : Nat} :
    pattern.enclosed.Spans text start stop ↔
      start = 0 ∧ stop = text.length ∧ pattern.Spans text 0 text.length := by
  rw [enclosed, spans_concat]
  simp only [SpansAll, Relation.comp_eq]
  constructor
  · rintro ⟨_, ⟨before, after, spelled, atStart, rfl, rfl⟩, _, spans,
      all, none, rfl, atEnd, rfl, rfl⟩
    simp only [Look.holds, Option.isNone_iff_eq_none, List.getLast?_eq_none_iff,
      List.head?_eq_none_iff] at atStart atEnd
    subst atStart atEnd
    rw [List.append_nil] at *
    exact ⟨rfl, rfl, spans⟩
  · rintro ⟨rfl, rfl, spans⟩
    refine ⟨0, ⟨[], text, rfl, rfl, rfl, rfl⟩, text.length, spans, ?_⟩
    exact ⟨text, [], (List.append_nil text).symm, rfl, rfl, rfl⟩

/-- A pattern for the whole text occurs where the pattern itself matches the whole. -/
theorem occursIn_enclosed_iff (pattern : Pattern) (text : List Char) :
    pattern.enclosed.occursIn text = true ↔ pattern.Spans text 0 text.length := by
  rw [occursIn_iff]
  constructor
  · rintro ⟨start, stop, -, spans⟩
    exact (spans_enclosed_iff.mp spans).2.2
  · intro spans
    exact ⟨0, text.length, Nat.zero_le _, spans_enclosed_iff.mpr ⟨rfl, rfl, spans⟩⟩

/-! ## Sizes -/

section Sizes

variable (direction : Direction)

@[simp] theorem linkSize_false : linkSize false = 0 := rfl

/-- A size does not depend on which sizes of sets are known beforehand. -/
theorem size_eq_size_nil {known : List (Charset × Nat)}
    (right : ∀ set found, known.lookup set = some found → found = setSize direction set)
    (isBranch : Bool) (pattern : Pattern) :
    pattern.size direction known isBranch = pattern.size direction [] isBranch := by
  induction pattern generalizing isBranch with
  | chars set =>
      rw [size, size]
      cases found : known.lookup set with
      | none => rfl
      | some size => rw [right set size found]; rfl
  | empty | literal word | look condition => rfl
  | group number body same => simp only [size, same]
  | seq first second same also => rw [size, size, same, also]
  | either first second same also => rw [size, size, same, also]
  | repeated body least most prefersMore same => simp only [size, same]

/-- The size of patterns, each on its own. -/
def sizeAll (direction : Direction) (patterns : List Pattern) : Nat :=
  (patterns.map (size direction [] false)).sum

theorem sizeAll_append (first second : List Pattern) :
    sizeAll direction (first ++ second) = sizeAll direction first + sizeAll direction second := by
  simp [sizeAll]

theorem sizeAll_cons (pattern : Pattern) (rest : List Pattern) :
    sizeAll direction (pattern :: rest) =
      pattern.size direction [] false + sizeAll direction rest := by
  simp [sizeAll]

theorem size_row_cons (pattern : Pattern) (rest : List Pattern) :
    (row (pattern :: rest)).size direction [] false = sizeAll direction (pattern :: rest) := by
  induction rest generalizing pattern with
  | nil => simp [row, sizeAll]
  | cons next rest later =>
      change linkSize false + pattern.size direction [] false +
        (row (next :: rest)).size direction [] false = _
      rw [later, linkSize_false, Nat.zero_add, sizeAll_cons direction pattern]

theorem sizeAll_joinLiterals (patterns : List Pattern) :
    sizeAll direction (joinLiterals patterns) = sizeAll direction patterns := by
  fun_induction joinLiterals patterns with
  | case1 => rfl
  | case2 word rest next others joined later =>
      rw [sizeAll_cons, sizeAll_cons, ← later, joined, sizeAll_cons]
      simp only [size, linkSize_false, List.flatMap_append, List.length_append, Nat.mul_add]
      omega
  | case3 word rest apart later => rw [sizeAll_cons, sizeAll_cons, later]
  | case4 pattern rest other later => rw [sizeAll_cons, sizeAll_cons, later]

theorem sizeAll_parts_le (pattern : Pattern) :
    sizeAll direction pattern.parts ≤ pattern.size direction [] false := by
  induction pattern with
  | empty => exact Nat.zero_le _
  | seq first second left right =>
      rw [parts, sizeAll_append, size]
      omega
  | _ => simp [parts, sizeAll]

theorem size_enclosed_le (pattern : Pattern) :
    pattern.enclosed.size direction [] false ≤
      pattern.size direction [] false + 2 * stateSize := by
  have smaller := sizeAll_parts_le direction pattern
  have edge (condition : Look) : (look condition).size direction [] false = stateSize := by
    simp [size]
  have last : sizeAll direction [look .textEnd] = stateSize := by
    rw [sizeAll_cons, edge]
    rfl
  rw [enclosed_eq, size_row_cons, sizeAll_cons, sizeAll_append, sizeAll_joinLiterals, edge, last]
  omega

theorem isAnchored_row_cons {first : Pattern} (anchored : first.isAnchored .forward = true)
    (rest : List Pattern) : (row (first :: rest)).isAnchored .forward = true := by
  cases rest with
  | nil => exact anchored
  | cons next rest =>
      change (first.isAnchored .forward || _) = true
      rw [anchored, Bool.true_or]

theorem isAnchored_row_append {last : Pattern} (anchored : last.isAnchored .backward = true)
    (patterns : List Pattern) : (row (patterns ++ [last])).isAnchored .backward = true := by
  induction patterns with
  | nil => exact anchored
  | cons pattern rest later =>
      cases rest with
      | nil =>
          change (last.isAnchored .backward || _) = true
          rw [anchored, Bool.true_or]
      | cons next rest =>
          change ((row (next :: rest ++ [last])).isAnchored .backward || _) = true
          rw [later, Bool.true_or]

theorem isAnchored_enclosed (pattern : Pattern) :
    pattern.enclosed.isAnchored direction = true := by
  rw [enclosed_eq]
  cases direction with
  | forward => exact isAnchored_row_cons rfl _
  | backward =>
      rw [← List.cons_append]
      exact isAnchored_row_append rfl _

theorem searchSize_eq (pattern : Pattern) :
    pattern.searchSize direction =
      (if pattern.isAnchored direction then stateSize
        else forkSize 2 + stateSize + sparseSize 1) +
      (group 0 pattern).size direction [] false + stateSize := by
  rw [searchSize, size_eq_size_nil]
  exact fun _ _ => eq_of_lookup_map

/-- To ask for the whole text takes one state at either end. -/
theorem searchSize_enclosed_le (pattern : Pattern) :
    pattern.enclosed.searchSize direction ≤ pattern.searchSize direction + 2 * stateSize := by
  have smaller := size_enclosed_le direction pattern
  rw [searchSize_eq, searchSize_eq, isAnchored_enclosed, if_pos rfl]
  simp only [size, linkSize_false]
  have passing : stateSize ≤ if pattern.isAnchored direction then stateSize
      else forkSize 2 + stateSize + sparseSize 1 := by
    split_ifs <;> decide
  omega

end Sizes

end LogSieve.Regex.Pattern

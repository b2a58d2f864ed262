import Mathlib
import LogSieve.Text.Blank
import LogSieve.Unicode.Property

/-!
# Parts of texts

A text that is divided at a character is put together again from its parts, and parts without the
character come back when they are put together and divided.  What is left of a text without the
white space around it has none at its ends.
-/

namespace LogSieve.Text

open LogSieve.Unicode

/-! ## Dividing -/

variable {divider : Char} {chars part : List Char}

theorem splitAt_eq_splitOn (divider : Char) (chars : List Char) :
    splitAt divider chars = chars.splitOn divider := by
  induction chars with
  | nil => rfl
  | cons char rest ih =>
      rw [splitAt, ih, List.splitOn_cons_eq_if_modifyHead]
      obtain ⟨part, parts, split⟩ := List.exists_cons_of_ne_nil (List.splitOn_ne_nil divider rest)
      simp [split]

theorem splitAt_of_not_mem (undivided : divider ∉ chars) : splitAt divider chars = [chars] := by
  rw [splitAt_eq_splitOn]
  exact List.splitOn_eq_singleton undivided

theorem splitAt_append_cons (divider : Char) (chars rest : List Char) :
    splitAt divider (chars ++ divider :: rest) =
      splitAt divider chars ++ splitAt divider rest := by
  simp only [splitAt_eq_splitOn, List.splitOn_append_cons_self]

/-- The divider is in no part. -/
theorem not_mem_of_mem_splitAt (member : part ∈ splitAt divider chars) : divider ∉ part := by
  rw [splitAt_eq_splitOn] at member
  induction chars generalizing part with
  | nil =>
      cases List.mem_singleton.mp member
      exact List.not_mem_nil
  | cons char rest ih =>
      obtain ⟨first, parts, split⟩ := List.exists_cons_of_ne_nil (List.splitOn_ne_nil divider rest)
      rw [split] at ih
      rw [List.splitOn_cons_eq_if_modifyHead, split, List.modifyHead_cons] at member
      split at member
      · cases List.mem_cons.mp member with
        | inl empty =>
            rw [empty]
            exact List.not_mem_nil
        | inr later => exact ih later
      · next differs =>
          cases List.mem_cons.mp member with
          | inl longer =>
              rw [longer, List.mem_cons, not_or]
              exact ⟨fun same => differs (beq_iff_eq.mpr same.symm), ih List.mem_cons_self⟩
          | inr later => exact ih (List.mem_cons_of_mem _ later)

/-! ## White space at the ends -/

theorem isBlank_eq_contains (char : Char) : isBlank char = whiteSpace.contains char := by
  rw [Bool.eq_iff_iff]
  simp only [isBlank, whiteSpace, Charset.contains, Charset.hasCode, List.any_cons, List.any_nil,
    Bool.or_eq_true, Bool.and_eq_true, decide_eq_true_eq, beq_iff_eq, Bool.false_eq_true, or_false]
  omega

theorem trim_eq_rdropWhile (chars : List Char) :
    trim chars = (chars.dropWhile whiteSpace.contains).rdropWhile whiteSpace.contains := by
  rw [← funext isBlank_eq_contains]
  rfl

/-- Whether a text has no white space at its ends. -/
def IsTrimmed (chars : List Char) : Prop :=
  (∀ char ∈ chars.head?, whiteSpace.contains char = false) ∧
    ∀ char ∈ chars.getLast?, whiteSpace.contains char = false

theorem isTrimmed_trim (chars : List Char) : IsTrimmed (trim chars) := by
  rw [trim_eq_rdropWhile]
  constructor
  · intro char starts
    -- Dropping at the end keeps the first character, unless it drops all.
    rcases List.rdropWhile_prefix whiteSpace.contains (chars.dropWhile whiteSpace.contains) with
      ⟨after, whole⟩
    rcases List.head?_eq_some_iff.mp starts with ⟨rest, begins⟩
    have first := List.head?_dropWhile_not whiteSpace.contains chars
    rw [← whole, begins] at first
    exact first
  · intro char ends
    have nonempty := List.ne_nil_of_mem (List.mem_of_getLast? ends)
    have last := List.rdropWhile_last_not whiteSpace.contains _ nonempty
    rw [List.getLast?_eq_some_getLast nonempty, Option.mem_some_iff] at ends
    rwa [ends, Bool.not_eq_true] at last

theorem IsTrimmed.trim_eq (trimmed : IsTrimmed chars) : trim chars = chars := by
  have starts : chars.dropWhile whiteSpace.contains = chars := by
    cases chars with
    | nil => rfl
    | cons char rest => exact List.dropWhile_cons_of_neg (by simp [trimmed.1 char rfl])
  have ends : chars.rdropWhile whiteSpace.contains = chars := by
    rw [List.rdropWhile_eq_self_iff]
    intro nonempty
    rw [Bool.not_eq_true]
    exact trimmed.2 _ (List.getLast?_eq_some_getLast nonempty)
  rw [trim_eq_rdropWhile, starts, ends]

/-- What a text has around the trimmed one is white space. -/
theorem exists_eq_append_trim (chars : List Char) :
    ∃ before after, chars = before ++ trim chars ++ after ∧
      ∀ char ∈ before ++ after, whiteSpace.contains char = true := by
  refine ⟨chars.takeWhile whiteSpace.contains,
    (chars.dropWhile whiteSpace.contains).rtakeWhile whiteSpace.contains, ?_, ?_⟩
  · rw [trim_eq_rdropWhile, List.append_assoc, List.rdropWhile_append_rtakeWhile,
      List.takeWhile_append_dropWhile]
  · intro char member
    cases List.mem_append.mp member with
    | inl early => exact List.mem_takeWhile_imp early
    | inr late => exact List.mem_rtakeWhile_imp late

theorem trim_eq_nil_iff : trim chars = [] ↔ ∀ char ∈ chars, whiteSpace.contains char = true := by
  rw [trim_eq_rdropWhile, List.rdropWhile_eq_nil_iff]
  constructor
  · intro blank char member
    rw [← List.takeWhile_append_dropWhile (p := whiteSpace.contains) (l := chars),
      List.mem_append] at member
    cases member with
    | inl early => exact List.mem_takeWhile_imp early
    | inr late => exact blank char late
  · intro blank char member
    exact blank char ((List.dropWhile_sublist _).subset member)

end LogSieve.Text

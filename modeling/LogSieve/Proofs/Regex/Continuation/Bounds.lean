import LogSieve.Proofs.Regex.Continuation.Basic

/-!
# Bounds of repetitions with more behind them
-/

namespace LogSieve.Regex

variable {tail : List Char} [Ending tail] (flags : Flags) {fuel further : Nat}
  {input longer : List Char}

theorem Remains.dropWhile (remains : Remains tail input longer) {test : Char → Bool}
    (stops : test ')' = false) : Remains tail (input.dropWhile test) (longer.dropWhile test) := by
  have solid : tail.dropWhile test = tail := by
    rcases (Ending.either : tail = closing ∨ tail = []) with rfl | rfl
    · simp [closing, stops]
    · rfl
  cases remains with
  | visible =>
      rw [List.dropWhile_append]
      split_ifs with blank
      · rw [List.isEmpty_iff.mp blank, solid]
        exact .visible []
      · exact .visible _
  | hidden => exact .hidden

theorem readBound_agrees (remains : Remains tail input longer)
    (fuels : Suffices tail fuel further input) :
    Agrees tail Never input (readBound flags fuel input) (readBound flags further longer) := by
  have start : Remains tail (input.dropWhile isSpace) (longer.dropWhile isSpace) :=
    remains.dropWhile (by decide)
  have shorter : (input.dropWhile isSpace).length ≤ input.length :=
    (List.dropWhile_suffix _).length_le
  have digits : Keeps tail input (readDigits flags fuel (input.dropWhile isSpace))
      (readDigits flags further (longer.dropWhile isSpace)) :=
    (readDigits_keeps flags start (fuels.of_le shorter)).mono shorter
  simp only [readBound, ← digits.same]
  split_ifs
  · exact .neither
  · have dropped := readWhile_keeps flags (by decide : isSpace ')' = false) digits.remains
      (fuels.of_le digits.shorter)
    rw [dropSpace_eq, dropSpace_eq]
    exact .stop _ dropped.remains (dropped.shorter.trans digits.shorter)

/-- Reads what follows the comma between the bounds of a repetition. -/
def readMost (fuel least : Nat) (rest : List Char) : Option ((Nat × Option Nat) × List Char) :=
  match flags.skip rest with
  | '}' :: rest => some ((least, none), rest)
  | input => do
      let (most, after) ← readBound flags fuel input
      endedBy '}' (if least ≤ most then some (least, some most) else none) after

/-- Reads what follows the first bound of a repetition. -/
def readAfterLeast (fuel least : Nat) : List Char → Option ((Nat × Option Nat) × List Char)
  | '}' :: rest => some ((least, some least), rest)
  | ',' :: rest => readMost flags fuel least rest
  | _ => none

theorem readBounds_eq (fuel : Nat) (input : List Char) :
    ((readBounds flags fuel input).map fun (least, most, rest) => ((least, most), rest)) =
      (readBound flags fuel (flags.skip input)).bind fun (least, rest) =>
        readAfterLeast flags fuel least rest := by
  simp only [readBounds, Option.bind_eq_bind, Option.map_bind]
  congr 1
  funext ⟨least, rest⟩
  simp only [Function.comp]
  rcases rest with _ | ⟨char, rest⟩
  · rfl
  by_cases closes : char = '}'
  · subst closes
    rfl
  by_cases divides : char = ','
  · subst divides
    simp only [readAfterLeast, readMost]
    have bounded (start : List Char) :
        ((readBound flags fuel start).bind fun read => match read.2 with
          | '}' :: rest => if least ≤ read.1 then some (least, some read.1, rest) else none
          | _ => none).map (fun read => ((read.1, read.2.1), read.2.2)) =
        (readBound flags fuel start).bind fun read =>
          endedBy '}' (if least ≤ read.1 then some (least, some read.1) else none) read.2 := by
      rw [Option.map_bind]
      congr 1
      funext ⟨most, after⟩
      rcases after with _ | ⟨brace, after⟩
      · rfl
      by_cases closes : brace = '}'
      · subst closes
        simp only [Function.comp, endedBy, if_true]
        split_ifs <;> rfl
      · simp [endedBy, closes]
    rcases flags.skip rest with _ | ⟨next, rest⟩
    · exact bounded []
    by_cases closes : next = '}'
    · subst closes
      rfl
    · simp only [List.cons.injEq, closes, false_and, imp_self, implies_true]
      exact bounded _
  · simp [readAfterLeast, closes, divides]

theorem readMost_agrees (least : Nat) (remains : Remains tail input longer)
    (fuels : Suffices tail fuel further input) :
    Agrees tail Never input (readMost flags fuel least input)
      (readMost flags further least longer) := by
  have ahead := remains.skip flags
  have shorter := flags.length_skip_le input
  have enough := fuels.skip flags
  simp only [readMost]
  generalize flags.skip input = start at ahead shorter enough
  generalize flags.skip longer = other at ahead
  have bounded : Agrees tail Never input
      ((readBound flags fuel start).bind fun read =>
        endedBy '}' (if least ≤ read.1 then some (least, some read.1) else none) read.2)
      ((readBound flags further other).bind fun read =>
        endedBy '}' (if least ≤ read.1 then some (least, some read.1) else none) read.2) := by
    apply Agrees.bind_of_never
    · exact (readBound_agrees flags ahead enough).mono shorter
    · intro most rest after leaves bounded
      exact endedBy_agrees (by decide) _ leaves bounded
  cases start with
  | nil =>
      rcases ahead.of_nil with rfl | rfl
      · exact bounded
      · exact bounded
  | cons char rest =>
      rcases ahead.of_cons with rfl
      by_cases closes : char = '}'
      · subst closes
        exact .stop _ (.visible rest) ((Nat.le_succ _).trans shorter)
      · simp only [List.cons.injEq, closes, false_and, imp_self, implies_true]
        exact bounded

theorem readAfterLeast_agrees (least : Nat) (remains : Remains tail input longer)
    (fuels : Suffices tail fuel further input) :
    Agrees tail Never input (readAfterLeast flags fuel least input)
      (readAfterLeast flags further least longer) := by
  cases input with
  | nil =>
      rcases remains.of_nil with rfl | rfl
      · exact .neither
      · exact .neither
  | cons char rest =>
      rcases remains.of_cons with rfl
      by_cases closes : char = '}'
      · subst closes
        exact .stop _ (.visible rest) (Nat.le_succ _)
      · by_cases divides : char = ','
        · subst divides
          exact (readMost_agrees flags least (.visible rest) (fuels.of_le (Nat.le_succ _))).mono
            (Nat.le_succ _)
        · simp only [readAfterLeast, List.cons.injEq, closes, divides, false_and, imp_self,
            implies_true]
          exact .neither

/-- Both readings of the bounds of a repetition give the same bounds, or none does. -/
theorem readBounds_agrees (remains : Remains tail input longer)
    (fuels : Suffices tail fuel further input) :
    Agrees tail Never input
      ((readBounds flags fuel input).map fun (least, most, rest) => ((least, most), rest))
      ((readBounds flags further longer).map fun (least, most, rest) => ((least, most), rest)) := by
  rw [readBounds_eq, readBounds_eq]
  apply Agrees.bind_of_never
  · exact (readBound_agrees flags (remains.skip flags) (fuels.skip flags)).mono
      (flags.length_skip_le input)
  · intro least rest after leaves bounded
    exact (readAfterLeast_agrees flags least leaves (fuels.of_le bounded)).mono bounded

end LogSieve.Regex

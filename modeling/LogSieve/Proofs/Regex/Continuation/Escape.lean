import LogSieve.Proofs.Regex.Continuation.Basic

/-!
# Escapes with more behind them

An escape is read the same with the closing of a pattern behind it, apart from two that are cut off:
a backslash at the end takes the parenthesis of the closing, and a brace after `\b` at the end is
left alone.
-/

namespace LogSieve.Regex

open LogSieve.Unicode

variable {tail : List Char} [Ending tail] (flags : Flags) {fuel further : Nat}
  {input longer : List Char}

theorem hexValue?_parenthesis : hexValue? ')' = none := by decide

theorem readHexDigits_agrees (count value : Nat) (remains : Remains tail input longer) :
    Agrees tail Never input (readHexDigits flags count value input)
      (readHexDigits flags count value longer) := by
  induction count generalizing value input longer with
  | zero => exact .stop value remains (Nat.le_refl _)
  | succ count later =>
      cases input with
      | nil =>
          rcases remains.of_nil with rfl | rfl
          · simp only [readHexDigits, closing, hexValue?_parenthesis]
            exact .neither
          · exact .neither
      | cons char rest =>
          rcases remains.of_cons with rfl
          simp only [readHexDigits]
          cases hexValue? char with
          | none => exact .neither
          | some digit =>
              apply (later _ (flags.skip_remains rest)).mono
              exact (flags.length_skip_le rest).trans (Nat.le_succ _)

theorem readHexBraced_agrees (count value : Nat) (remains : Remains tail input longer)
    (fuels : Suffices tail fuel further input) :
    Agrees tail Never input (readHexBraced flags fuel count value input)
      (readHexBraced flags further count value longer) := by
  refine reading_induction (motive := fun fuel further input longer => ∀ count value,
    Agrees tail Never input (readHexBraced flags fuel count value input)
      (readHexBraced flags further count value longer)) ?_ ?_ remains fuels count value
  · intro fuel further longer either _ count value
    have ended (fuel count value : Nat) : readHexBraced flags fuel count value [] = none := by
      cases fuel <;> rfl
    have closed (fuel count value : Nat) : readHexBraced flags fuel count value closing = none := by
      cases fuel with
      | zero => rfl
      | succ fuel => simp [readHexBraced, closing, hexValue?_parenthesis]
    rcases either with rfl | rfl
    · rw [ended, closed]
      exact .neither
    · rw [ended, ended]
      exact .neither
  · intro fuel further char rest _ later count value
    have shorter := flags.length_skip_le rest
    simp only [readHexBraced]
    split_ifs
    · exact .neither
    · exact .stop value (flags.skip_remains rest) (shorter.trans (Nat.le_succ _))
    · cases hexValue? char with
      | none => exact .neither
      | some digit =>
          have agrees := later _ _ (flags.skip_remains rest) shorter
          exact (agrees _ _).mono (shorter.trans (Nat.le_succ _))

theorem readBraced_closing (fuel : Nat) : readBraced flags fuel closing = none := by
  rcases fuel with _ | _ | _ | fuel <;> simp [readBraced, closing]

theorem readBraced_agrees (remains : Remains tail input longer)
    (fuels : Suffices tail fuel further input) :
    Agrees tail Never input (readBraced flags fuel input) (readBraced flags further longer) := by
  refine reading_induction (motive := fun fuel further input longer =>
    Agrees tail Never input (readBraced flags fuel input) (readBraced flags further longer)) ?_ ?_
      remains fuels
  · intro fuel further longer either _
    have ended (fuel : Nat) : readBraced flags fuel [] = none := by
      cases fuel <;> rfl
    rcases either with rfl | rfl
    · rw [ended, readBraced_closing flags]
      exact .neither
    · rw [ended, ended]
      exact .neither
  · intro fuel further char rest _ later
    have shorter := flags.length_skip_le rest
    simp only [readBraced]
    split_ifs
    · exact .stop [] (.visible rest) (Nat.le_succ _)
    · exact ((later _ _ (flags.skip_remains rest) shorter).map (char :: ·)).mono
        (shorter.trans (Nat.le_succ _))

theorem readHexEscape_agrees {count : Nat} (positive : 0 < count)
    (remains : Remains tail input longer)
    (fuels : Suffices tail fuel further input) :
    Agrees tail Never input (readHexEscape flags fuel count input)
      (readHexEscape flags further count longer) := by
  have ahead := remains.skip flags
  have shorter := flags.length_skip_le input
  have enough := fuels.skip flags
  simp only [readHexEscape]
  generalize flags.skip input = start at ahead shorter enough
  generalize flags.skip longer = other at ahead
  cases start with
  | nil =>
      rcases Nat.exists_eq_succ_of_ne_zero positive.ne' with ⟨count, rfl⟩
      rcases ahead.of_nil with rfl | rfl
      · exact .neither
      · exact .neither
  | cons char inner =>
      rcases ahead.of_cons with rfl
      by_cases braced : char = '{'
      · subst braced
        have inside : (flags.skip inner).length ≤ ('{' :: inner).length :=
          (flags.length_skip_le inner).trans (Nat.le_succ _)
        apply Agrees.bind_of_never
        · exact (readHexBraced_agrees flags 0 0 (flags.skip_remains inner) (enough.of_le inside)).mono
            (inside.trans shorter)
        · intro code rest after leaves bounded
          cases charOfCode? code with
          | none => exact .neither
          | some char => exact .stop _ leaves bounded
      · simp only [List.cons.injEq, braced, false_and, imp_self, implies_true]
        apply Agrees.bind_of_never
        · exact (readHexDigits_agrees flags count 0 ahead).mono shorter
        · intro code rest after leaves bounded
          cases charOfCode? code with
          | none => exact .neither
          | some char => exact .stop _ leaves bounded

theorem propertyNamed?_parenthesis : propertyNamed? ")" = none := by
  have absent : (propertyNamed? ")").isNone = true := by decide +kernel
  exact Option.isNone_iff_eq_none.mp absent

theorem readProperty_of_skip_eq_closing {negated : Bool} (ends : flags.skip input = closing) :
    readProperty flags fuel negated input = none := by
  simp [readProperty, ends, closing, propertyNamed?_parenthesis]

theorem readProperty_agrees (negated : Bool) (remains : Remains tail input longer)
    (fuels : Suffices tail fuel further input) :
    Agrees tail Never input (readProperty flags fuel negated input)
      (readProperty flags further negated longer) := by
  have ahead := remains.skip flags
  have shorter := flags.length_skip_le input
  have enough := fuels.skip flags
  cases start : flags.skip input with
  | nil =>
      rw [start] at ahead
      have ended : readProperty flags fuel negated input = none := by
        simp only [readProperty, start]
      rcases ahead.of_nil with closed | hidden
      · rw [ended, readProperty_of_skip_eq_closing flags closed]
        exact .neither
      · simp only [readProperty, start, hidden]
        exact .neither
  | cons char inner =>
      rw [start] at ahead shorter enough
      simp only [readProperty, start, ahead.of_cons]
      have inside : (flags.skip inner).length ≤ (char :: inner).length :=
        (flags.length_skip_le inner).trans (Nat.le_succ _)
      by_cases escaped : char = '\\'
      · subst escaped
        exact .neither
      · by_cases braced : char = '{'
        · subst braced
          apply Agrees.bind_of_never
          · exact (readBraced_agrees flags (flags.skip_remains inner) (enough.of_le inside)).mono
              (inside.trans shorter)
          · intro name rest after leaves bounded
            simp only
            split_ifs
            · cases propertySet? name with
              | none => exact .neither
              | some read =>
                  simp only [Option.bind_eq_bind, Option.bind_some]
                  cases flags.finish? (negated != read.2) read.1 with
                  | none => exact .neither
                  | some set => exact .stop _ leaves bounded
            · exact .neither
        · simp only
          split_ifs
          · cases propertyNamed? (String.singleton char) with
            | none => exact .neither
            | some set =>
                simp only [Option.bind_eq_bind, Option.bind_some]
                cases flags.finish? negated set with
                | none => exact .neither
                | some set =>
                    exact .stop _ (flags.skip_remains inner) (inside.trans shorter)
          · exact .neither

/-- The test of the edge of a word that a name asks for. -/
def edgeNamed? (name : List Char) : Option WordTest :=
  match String.ofList name with
  | "start" => some .start
  | "end" => some .finish
  | "start-half" => some .startHalf
  | "end-half" => some .finishHalf
  | _ => none

theorem readBoundary_brace {first : Char} {inner name : List Char}
    (start : flags.skip inner = first :: name) :
    readBoundary flags fuel ('{' :: inner) =
      if first.isAlpha || first == '-' then
        let (read, rest) := readBoundaryName flags fuel (first :: name)
        endedBy '}' ((edgeNamed? read).map fun test => .condition (.word test flags.unicode)) rest
      else some (.condition (.word .boundary flags.unicode), '{' :: inner) := by
  simp only [readBoundary, start]
  congr 1
  rcases readBoundaryName flags fuel (first :: name) with ⟨read, _ | ⟨brace, after⟩⟩
  · rfl
  · by_cases closes : brace = '}'
    · subst closes
      simp only [endedBy, edgeNamed?, if_true]
      generalize String.ofList read = text
      split
      · rfl
      · rfl
      · rfl
      · rfl
      · simp [*]
    · simp [endedBy, closes]

/-- An opening brace after `\b` that nothing follows is wrong, but with the closing behind it, it is
left alone. -/
structure BraceLeft (flags : Flags) (plain longer : Option (Primitive × List Char)) : Prop where
  fails : plain = none
  leaves : ∃ inner, longer = some (.condition (.word .boundary flags.unicode), '{' :: inner) ∧
    flags.skip inner = closing

theorem readBoundary_agrees (remains : Remains tail input longer)
    (fuels : Suffices tail fuel further input) :
    Agrees tail Never input (readBoundary flags fuel input) (readBoundary flags further longer) ∨
    BraceLeft flags (readBoundary flags fuel input) (readBoundary flags further longer) := by
  cases input with
  | nil =>
      left
      rcases remains.of_nil with rfl | rfl
      · exact .stop _ remains (Nat.le_refl _)
      · exact .stop _ .hidden (Nat.le_refl _)
  | cons char inner =>
      rcases remains.of_cons with rfl
      by_cases braced : char = '{'
      · subst braced
        have ahead : Remains tail (flags.skip inner) (flags.skip (inner ++ tail)) :=
          flags.skip_remains inner
        have shorter : (flags.skip inner).length ≤ ('{' :: inner).length :=
          (flags.length_skip_le inner).trans (Nat.le_succ _)
        have enough := fuels.of_le shorter
        cases start : flags.skip inner with
        | nil =>
            rw [start] at ahead
            rcases ahead.of_nil with closed | hidden
            · right
              refine ⟨?_, inner ++ tail, ?_, closed⟩
              · simp only [readBoundary, start]
              · rw [readBoundary_brace flags closed]
                rfl
            · left
              simp only [readBoundary, start, hidden]
              exact .neither
        | cons first name =>
            left
            rw [start] at ahead shorter enough
            rw [readBoundary_brace flags start, readBoundary_brace flags ahead.of_cons]
            rw [ahead.of_cons] at ahead
            split_ifs
            · have name := readBoundaryName_keeps flags ahead enough
              simp only [← name.same]
              exact endedBy_agrees (by decide) _ name.remains (name.shorter.trans shorter)
            · exact .stop _ (.visible _) (Nat.le_refl _)
      · left
        simp only [readBoundary, List.cons.injEq, braced, false_and, imp_self, implies_true]
        exact .stop _ (.visible (char :: inner)) (Nat.le_refl _)
theorem readEscape_agrees (remains : Remains tail input longer)
    (fuels : Suffices tail fuel further input) :
    Agrees tail Dangling input (readEscape flags fuel input) (readEscape flags further longer) ∨
    BraceLeft flags (readEscape flags fuel input) (readEscape flags further longer) := by
  cases input with
  | nil =>
      left
      rcases remains.of_nil with rfl | rfl
      · apply Agrees.fails
        intro value rest read
        cases read
        exact List.suffix_refl _
      · exact .neither
  | cons char rest =>
      rcases remains.of_cons with rfl
      have enough : Suffices tail fuel further rest := fuels.of_le (Nat.le_succ _)
      have exactly {plain longer : Option (Primitive × List Char)}
          (agrees : Agrees tail Never rest plain longer) :
          Agrees tail Dangling (char :: rest) plain longer :=
        (agrees.mono (Nat.le_succ _)).weaken nofun
      simp only [readEscape]
      split_ifs with simple
      · exact .inl (.stop _ (.visible rest) (Nat.le_succ _))
      · split
        case h_1 | h_2 | h_3 =>
          exact .inl (exactly (readHexEscape_agrees flags (by decide) (.visible rest) enough))
        case h_4 | h_5 => exact .inl (exactly (readProperty_agrees flags _ (.visible rest) enough))
        case h_20 =>
          rcases readBoundary_agrees flags (.visible rest) enough with agrees | brace
          · exact .inl (exactly agrees)
          · exact .inr brace
        case h_24 => exact .inl .neither
        all_goals exact .inl (.stop _ (.visible rest) (Nat.le_succ _))

end LogSieve.Regex

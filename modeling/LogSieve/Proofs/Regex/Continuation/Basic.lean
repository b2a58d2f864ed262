import LogSieve.Regex.Parser
import Mathlib.Data.List.Infix

/-!
# Reading on

How the readers of a pattern fare on a text and on the same text with a closing parenthesis and a
dollar sign after it. Where a reader succeeds on the text, it gives the same with more behind it,
and what it leaves is followed by the same two characters, unless a comment hides them. Where it
fails, it fails with more behind it too, or runs into what is behind and leaves at most the dollar
sign of it.
-/

namespace LogSieve.Regex

open LogSieve.Unicode

/-- What is written behind a pattern that is to match up to the end of a text. -/
def closing : List Char := [')', '$']

/-- What may be written behind a pattern. -/
class Ending (tail : List Char) : Prop where
  either : tail = closing ∨ tail = []

instance : Ending closing := ⟨.inl rfl⟩

instance : Ending [] := ⟨.inr rfl⟩

variable {tail : List Char}

/-- What is left to read of a text, and what is left if something is written behind the text: the
same with that behind it, or nothing where a comment hides what is behind. -/
inductive Remains (tail : List Char) : List Char → List Char → Prop
  | visible (rest : List Char) : Remains tail rest (rest ++ tail)
  | hidden : Remains tail [] []

namespace Remains

variable {rest longer : List Char} {char : Char}

theorem of_cons (remains : Remains tail (char :: rest) longer) :
    longer = char :: (rest ++ tail) := by
  cases remains with
  | visible => rfl

theorem of_nil [Ending tail] (remains : Remains tail [] longer) :
    longer = closing ∨ longer = [] := by
  cases remains with
  | visible =>
      rw [List.nil_append]
      exact Ending.either
  | hidden => exact .inr rfl

end Remains

/-! ## Blanks -/

theorem skipBlanks_append [Ending tail] (inComment : Bool) (input : List Char) :
    Remains tail (skipBlanks inComment input) (skipBlanks inComment (input ++ tail)) := by
  induction input generalizing inComment with
  | nil =>
      rcases (Ending.either : tail = closing ∨ tail = []) with rfl | rfl
      · cases inComment with
        | true => exact .hidden
        | false => exact .visible []
      · exact .hidden
  | cons char rest later =>
      simp only [List.cons_append, skipBlanks]
      split_ifs
      · exact later _
      · exact later _
      · exact later _
      · exact .visible (char :: rest)

theorem length_skipBlanks_le (inComment : Bool) (input : List Char) :
    (skipBlanks inComment input).length ≤ input.length := by
  induction input generalizing inComment with
  | nil => exact Nat.le_refl _
  | cons char rest later =>
      simp only [skipBlanks]
      split_ifs
      · exact (later _).trans (Nat.le_succ _)
      · exact (later _).trans (Nat.le_succ _)
      · exact (later _).trans (Nat.le_succ _)
      · exact Nat.le_refl _

namespace Flags

variable (flags : Flags)

theorem length_skip_le (input : List Char) : (flags.skip input).length ≤ input.length := by
  rw [skip]
  split_ifs
  · exact length_skipBlanks_le false input
  · exact Nat.le_refl _

@[simp] theorem skip_nil : flags.skip [] = [] := by
  simp [skip, skipBlanks]

/-- Characters that are no blanks and start no comment are not passed over. -/
theorem skip_cons {char : Char} (solid : isSpace char = false) (counts : char ≠ '#')
    (rest : List Char) : flags.skip (char :: rest) = char :: rest := by
  simp [skip, skipBlanks, solid, counts]

@[simp] theorem skip_closing : flags.skip closing = closing :=
  flags.skip_cons (by decide) (by decide) _

@[simp] theorem skip_dollar : flags.skip ['$'] = ['$'] :=
  flags.skip_cons (by decide) (by decide) _

end Flags

theorem Flags.skip_remains [Ending tail] (flags : Flags) (input : List Char) :
    Remains tail (flags.skip input) (flags.skip (input ++ tail)) := by
  simp only [Flags.skip]
  split_ifs
  · exact skipBlanks_append false input
  · exact .visible input

theorem Flags.skip_ending [Ending tail] (flags : Flags) : flags.skip tail = tail := by
  rcases (Ending.either : tail = closing ∨ tail = []) with rfl | rfl
  · exact flags.skip_closing
  · exact flags.skip_nil

theorem Remains.skip [Ending tail] {input longer : List Char}
    (remains : Remains tail input longer) (flags : Flags) :
    Remains tail (flags.skip input) (flags.skip longer) := by
  cases remains with
  | visible => exact flags.skip_remains input
  | hidden =>
      rw [flags.skip_nil]
      exact .hidden

/-! ## Outcomes -/

/-- Two readings of one thing, one with the closing behind the input: they give the same and leave
what remains. -/
structure Keeps {α : Type} (tail input : List Char) (plain longer : α × List Char) : Prop where
  same : plain.1 = longer.1
  remains : Remains tail plain.2 longer.2
  shorter : plain.2.length ≤ input.length

theorem Keeps.mono {α : Type} {input more : List Char} {plain longer : α × List Char}
    (keeps : Keeps tail input plain longer) (shorter : input.length ≤ more.length) :
    Keeps tail more plain longer :=
  ⟨keeps.same, keeps.remains, keeps.shorter.trans shorter⟩

/-- Two outcomes of one reader, one with the closing behind the input. Both keep to the input; or
the plain one fails, and the other does too or leaves a `late` rest. -/
inductive Agrees {α : Type} (tail : List Char) (late : List Char → Prop) (input : List Char) :
    Option (α × List Char) → Option (α × List Char) → Prop
  | done {plain longer : α × List Char} (keeps : Keeps tail input plain longer) :
      Agrees tail late input (some plain) (some longer)
  | fails {longer : Option (α × List Char)}
      (strays : ∀ value rest, longer = some (value, rest) → late rest) :
      Agrees tail late input none longer

/-- No rest is too late: a reader that fails also fails with the closing behind the input. -/
def Never (_ : List Char) : Prop := False

/-- A rest that is too late: an end of the closing without its parenthesis. -/
def Dangling (rest : List Char) : Prop := rest <:+ ['$']

theorem dangling_iff {rest : List Char} : Dangling rest ↔ rest = ['$'] ∨ rest = [] := by
  rw [Dangling, List.suffix_cons_iff, List.suffix_nil]

namespace Agrees

variable {α β : Type} {late : List Char → Prop} {input : List Char}
  {plain longer : Option (α × List Char)}

theorem neither : Agrees tail late input (none : Option (α × List Char)) none :=
  .fails fun _ _ => nofun

/-- A reader that stops where it is. -/
theorem stop {rest after : List Char} (value : α) (remains : Remains tail rest after)
    (shorter : rest.length ≤ input.length) :
    Agrees tail late input (some (value, rest)) (some (value, after)) :=
  .done ⟨rfl, remains, shorter⟩

theorem mono {more : List Char} (agrees : Agrees tail late input plain longer)
    (shorter : input.length ≤ more.length) : Agrees tail late more plain longer := by
  cases agrees with
  | done keeps => exact .done (keeps.mono shorter)
  | fails strays => exact .fails strays

theorem weaken {later : List Char → Prop} (agrees : Agrees tail late input plain longer)
    (implies : ∀ rest, late rest → later rest) : Agrees tail later input plain longer := by
  cases agrees with
  | done keeps => exact .done keeps
  | fails strays => exact .fails fun value rest read => implies rest (strays value rest read)

/-- With the closing behind the input, a reader that succeeds gives the same. -/
theorem exists_of_some {value : α} {rest : List Char}
    (agrees : Agrees tail late input (some (value, rest)) longer) :
    ∃ after, longer = some (value, after) ∧ Remains tail rest after ∧
      rest.length ≤ input.length := by
  cases agrees with
  | @done _ longer keeps =>
      rcases longer with ⟨other, after⟩
      rcases keeps with ⟨rfl, remains, shorter⟩
      exact ⟨after, rfl, remains, shorter⟩

theorem eq_none (agrees : Agrees tail Never input none longer) : longer = none := by
  cases agrees with
  | fails strays =>
      rcases longer with _ | ⟨value, rest⟩
      · rfl
      · exact (strays value rest rfl).elim

/-- One reader after the other. -/
theorem bind {later : List Char → Prop} {next further : α × List Char → Option (β × List Char)}
    (agrees : Agrees tail late input plain longer)
    (goesOn : ∀ value rest after, Remains tail rest after → rest.length ≤ input.length →
      Agrees tail later input (next (value, rest)) (further (value, after)))
    (strays : ∀ value rest, late rest → ∀ result left,
      further (value, rest) = some (result, left) → later left) :
    Agrees tail later input (plain.bind next) (longer.bind further) := by
  rcases plain with _ | ⟨value, rest⟩
  · cases agrees with
    | fails strayed =>
        apply fails
        intro result left finished
        rw [Option.bind_eq_some_iff] at finished
        rcases finished with ⟨⟨value, rest⟩, first, second⟩
        exact strays value rest (strayed value rest first) result left second
  · rcases agrees.exists_of_some with ⟨after, rfl, remains, shorter⟩
    exact goesOn value rest after remains shorter

/-- A reader after one that fails as the plain one does. -/
theorem bind_of_never {next further : α × List Char → Option (β × List Char)}
    (agrees : Agrees tail Never input plain longer)
    (goesOn : ∀ value rest after, Remains tail rest after → rest.length ≤ input.length →
      Agrees tail late input (next (value, rest)) (further (value, after))) :
    Agrees tail late input (plain.bind next) (longer.bind further) :=
  agrees.bind goesOn fun _ _ => nofun

/-- A reader whose value is changed. -/
theorem map (agrees : Agrees tail late input plain longer) (change : α → β) :
    Agrees tail late input (plain.map fun (value, rest) => (change value, rest))
      (longer.map fun (value, rest) => (change value, rest)) := by
  cases agrees with
  | done keeps => exact .done ⟨congrArg change keeps.same, keeps.remains, keeps.shorter⟩
  | fails strays =>
      apply fails
      intro result left finished
      rw [Option.map_eq_some_iff] at finished
      rcases finished with ⟨⟨value, rest⟩, first, second⟩
      rw [← (Prod.mk.inj second).2]
      exact strays value rest first

end Agrees

/-- The fuel is enough for an input, and for the input with the closing behind it. -/
structure Suffices (tail : List Char) (fuel further : Nat) (input : List Char) : Prop where
  plain : input.length ≤ fuel
  longer : input.length + tail.length ≤ further

namespace Suffices

variable {fuel further : Nat} {input rest : List Char} {char : Char}

theorem of_le (enough : Suffices tail fuel further input) (shorter : rest.length ≤ input.length) :
    Suffices tail fuel further rest :=
  ⟨shorter.trans enough.plain, by have := enough.longer; omega⟩

theorem skip (enough : Suffices tail fuel further input) (flags : Flags) :
    Suffices tail fuel further (flags.skip input) :=
  enough.of_le (flags.length_skip_le input)

theorem of_cons (enough : Suffices tail fuel further (char :: rest)) :
    ∃ less fewer, fuel = less + 1 ∧ further = fewer + 1 ∧ Suffices tail less fewer rest := by
  rcases enough with ⟨plain, longer⟩
  rw [List.length_cons] at plain longer
  exact ⟨fuel - 1, further - 1, by omega, by omega, by omega, by omega⟩

end Suffices

/-- Induction for readers that use up fuel: at the end of the input, or after one character. -/
theorem reading_induction [Ending tail] {motive : Nat → Nat → List Char → List Char → Prop}
    (atEnd : ∀ fuel further longer, longer = closing ∨ longer = [] → Remains tail [] longer →
      motive fuel further [] longer)
    (afterChar : ∀ fuel further char rest, Suffices tail fuel further rest →
      (∀ left behind, Remains tail left behind → left.length ≤ rest.length →
        motive fuel further left behind) →
      motive (fuel + 1) (further + 1) (char :: rest) (char :: (rest ++ tail)))
    {fuel further : Nat} {input longer : List Char} (remains : Remains tail input longer)
    (fuels : Suffices tail fuel further input) : motive fuel further input longer := by
  induction shape : input.length using Nat.strong_induction_on
    generalizing fuel further input longer with
  | _ length smaller =>
      cases input with
      | nil => exact atEnd fuel further longer remains.of_nil remains
      | cons char rest =>
          rcases remains.of_cons with rfl
          rcases fuels.of_cons with ⟨less, fewer, rfl, rfl, enough⟩
          apply afterChar less fewer char rest enough
          intro left behind leaves shorter
          apply smaller left.length _ leaves (enough.of_le shorter) rfl
          rw [← shape, List.length_cons]
          omega

variable [Ending tail] (flags : Flags) {fuel further : Nat} {input longer : List Char}

/-! ## Runs of characters -/

/-- Reads characters that pass a test, blanks after each passed over. The fuel bounds the characters
read. -/
def readWhile (test : Char → Bool) (flags : Flags) :
    (fuel : Nat) → List Char → List Char × List Char
  | 0, input => ([], input)
  | _ + 1, [] => ([], [])
  | fuel + 1, char :: rest =>
      if test char then
        let (run, after) := readWhile test flags fuel (flags.skip rest)
        (char :: run, after)
      else ([], char :: rest)

theorem readWhile_keeps {test : Char → Bool} (stops : test ')' = false)
    (remains : Remains tail input longer) (fuels : Suffices tail fuel further input) :
    Keeps tail input (readWhile test flags fuel input) (readWhile test flags further longer) := by
  refine reading_induction (motive := fun fuel further input longer =>
    Keeps tail input (readWhile test flags fuel input) (readWhile test flags further longer)) ?_ ?_
      remains fuels
  · intro fuel further longer either ends
    have ended (fuel : Nat) : readWhile test flags fuel [] = ([], []) := by
      cases fuel <;> rfl
    have closed (fuel : Nat) : readWhile test flags fuel closing = ([], closing) := by
      cases fuel <;> simp [readWhile, closing, stops]
    rcases either with rfl | rfl
    · rw [ended, closed]
      exact ⟨rfl, ends, Nat.le_refl _⟩
    · rw [ended, ended]
      exact ⟨rfl, ends, Nat.le_refl _⟩
  · intro fuel further char rest _ later
    have shorter := flags.length_skip_le rest
    simp only [readWhile]
    split_ifs
    · rcases later _ _ (flags.skip_remains rest) shorter with ⟨same, remains, bounded⟩
      exact ⟨congrArg (char :: ·) same, remains, (bounded.trans shorter).trans (Nat.le_succ _)⟩
    · exact ⟨rfl, .visible (char :: rest), Nat.le_refl _⟩

theorem readBoundaryName_eq (fuel : Nat) (input : List Char) :
    readBoundaryName flags fuel input =
      readWhile (fun char => char.isAlpha || char == '-') flags fuel input := by
  induction fuel generalizing input with
  | zero => rfl
  | succ fuel later => cases input <;> simp [readBoundaryName, readWhile, later]

theorem readBoundaryName_keeps (remains : Remains tail input longer)
    (fuels : Suffices tail fuel further input) :
    Keeps tail input (readBoundaryName flags fuel input)
      (readBoundaryName flags further longer) := by
  rw [readBoundaryName_eq, readBoundaryName_eq]
  exact readWhile_keeps flags (by decide) remains fuels

theorem readDigits_eq (fuel : Nat) (input : List Char) :
    readDigits flags fuel input = readWhile Char.isDigit flags fuel input := by
  induction fuel generalizing input with
  | zero => rfl
  | succ fuel later => cases input <;> simp [readDigits, readWhile, later]

theorem readDigits_keeps (remains : Remains tail input longer)
    (fuels : Suffices tail fuel further input) :
    Keeps tail input (readDigits flags fuel input) (readDigits flags further longer) := by
  rw [readDigits_eq, readDigits_eq]
  exact readWhile_keeps flags (by decide) remains fuels

theorem dropSpace_eq (fuel : Nat) (input : List Char) :
    dropSpace flags fuel input = (readWhile isSpace flags fuel input).2 := by
  induction fuel generalizing input with
  | zero => rfl
  | succ fuel later =>
      cases input with
      | nil => rfl
      | cons char rest =>
          simp only [dropSpace, readWhile, later]
          split_ifs
          · rfl
          · rfl

/-! ## End marks -/

/-- A value that counts if a mark follows. -/
def endedBy {α : Type} (mark : Char) (value : Option α) : List Char → Option (α × List Char)
  | [] => none
  | char :: after => if char = mark then value.map (·, after) else none

theorem endedBy_agrees {α : Type} {mark : Char} (other : mark ≠ ')') (value : Option α)
    {rest after : List Char} (remains : Remains tail rest after)
    (shorter : rest.length ≤ input.length) :
    Agrees tail Never input (endedBy mark value rest) (endedBy mark value after) := by
  cases rest with
  | nil =>
      rcases remains.of_nil with rfl | rfl
      · simp only [endedBy, closing, if_neg other.symm]
        exact .neither
      · exact .neither
  | cons char rest =>
      rcases remains.of_cons with rfl
      simp only [endedBy]
      split_ifs
      · cases value with
        | none => exact .neither
        | some value => exact .stop value (.visible rest) ((Nat.le_succ _).trans shorter)
      · exact .neither

end LogSieve.Regex

import LogSieve.Proofs.Regex.Continuation.Bounds
import LogSieve.Proofs.Regex.Continuation.CharClass

/-!
# Steps of reading with more behind them

What one character of a pattern does is the same with the closing behind the pattern. A step that
is refused alone and goes on with the closing uses up the parenthesis, or leaves a brace that no
bounds follow.
-/

namespace LogSieve.Regex

variable {tail : List Char} [Ending tail] {fuel further : Nat} {input longer : List Char}

/-! ## Groups -/

theorem isNameChar_parenthesis (isFirst : Bool) : isNameChar isFirst ')' = false := by
  cases isFirst <;> decide

theorem readGroupName_agrees (isFirst : Bool) (remains : Remains tail input longer) :
    Agrees tail Never input (readGroupName isFirst input) (readGroupName isFirst longer) := by
  induction input generalizing isFirst longer with
  | nil =>
      rcases remains.of_nil with rfl | rfl
      · simp only [readGroupName, closing, isNameChar_parenthesis]
        exact .neither
      · exact .neither
  | cons char rest later =>
      rcases remains.of_cons with rfl
      simp only [readGroupName]
      split_ifs
      · exact .neither
      · exact .stop [] (.visible rest) (Nat.le_succ _)
      · exact ((later false (.visible rest)).map (char :: ·)).mono (Nat.le_succ _)
      · exact .neither

/-- A list of switches is read the same, or a list that does not end is ended by the closing. -/
theorem readFlags_cases (flags : Flags) (seen : List Char) (remains : Remains tail input longer) :
    (∃ list after, readFlags flags seen input = some list ∧
      readFlags flags seen longer = some { list with rest := after } ∧
      Remains tail list.rest after ∧ list.rest.length ≤ input.length) ∨
    (readFlags flags seen input = none ∧
      ∀ list, readFlags flags seen longer = some list → list.rest = ['$']) := by
  induction input generalizing flags seen longer with
  | nil =>
      right
      refine ⟨rfl, ?_⟩
      intro list read
      rcases remains.of_nil with rfl | rfl
      · rw [closing, readFlags, if_pos (.inr rfl)] at read
        split_ifs at read
        cases read
        rfl
      · cases read
  | cons char rest later =>
      rcases remains.of_cons with rfl
      have goesOn (flags : Flags) (seen : List Char) :
          (∃ list after, readFlags flags seen rest = some list ∧
            readFlags flags seen (rest ++ tail) = some { list with rest := after } ∧
            Remains tail list.rest after ∧ list.rest.length ≤ (char :: rest).length) ∨
          (readFlags flags seen rest = none ∧
            ∀ list, readFlags flags seen (rest ++ tail) = some list → list.rest = ['$']) := by
        rcases later flags seen (.visible rest) with
          ⟨list, after, plain, other, leaves, shorter⟩ | none
        · exact .inl ⟨list, after, plain, other, leaves, shorter.trans (Nat.le_succ _)⟩
        · exact .inr none
      simp only [readFlags]
      split_ifs
      · exact .inr ⟨rfl, by simp⟩
      · exact .inl ⟨_, _, rfl, rfl, .visible rest, Nat.le_succ _⟩
      · exact .inr ⟨rfl, by simp⟩
      · exact goesOn _ _
      · cases flags.set? (!seen.contains '-') char with
        | none => exact .inr ⟨rfl, by simp⟩
        | some flags => exact goesOn _ _

namespace Reading

theorem openNamed?_agrees (reading : Reading) (remains : Remains tail input longer) :
    Agrees tail Never input (reading.openNamed? input) (reading.openNamed? longer) := by
  apply Agrees.bind_of_never (readGroupName_agrees true remains)
  intro name rest after leaves shorter
  simp only
  split_ifs
  · exact .neither
  · exact .stop _ leaves shorter

theorem repeatLast?_agrees {late : List Char → Prop} (reading : Reading) (least : Nat)
    (most : Option Nat) (remains : Remains tail input longer) :
    Agrees tail late input (reading.repeatLast? least most input)
      (reading.repeatLast? least most longer) := by
  simp only [repeatLast?]
  cases reading.body.pieces with
  | nil => exact .neither
  | cons piece pieces =>
      simp only
      split_ifs
      · cases input with
        | nil =>
            rcases remains.of_nil with rfl | rfl
            · exact .stop _ remains (Nat.le_refl _)
            · exact .stop _ .hidden (Nat.le_refl _)
        | cons char rest =>
            rcases remains.of_cons with rfl
            by_cases swaps : char = '?'
            · subst swaps
              exact .stop _ (.visible rest) (Nat.le_succ _)
            · simp only [List.cons.injEq, swaps, false_and, imp_self, implies_true]
              exact .stop _ (.visible (char :: rest)) (Nat.le_refl _)
      · exact .neither

/-- Reads switches after the opening of a group, for the group or for what follows. -/
def readSwitches? (reading : Reading) (switches : List Char) : Option (Reading × List Char) := do
  let list ← readFlags reading.flags [] switches
  if list.opensGroup then some (reading.openPlain list.flags, list.rest)
  else if list.isEmpty then none
  else
    let piece : Piece := { pattern := .empty, depth := 0, repeatable := false }
    some ({ reading with flags := list.flags }.push piece, list.rest)

theorem readSwitches?_agrees (reading : Reading) (remains : Remains tail input longer) :
    Agrees tail Dangling input (reading.readSwitches? input) (reading.readSwitches? longer) := by
  simp only [readSwitches?]
  rcases readFlags_cases reading.flags [] remains with
    ⟨list, after, plain, other, leaves, shorter⟩ | ⟨plain, strays⟩
  · rw [plain, other]
    simp only [Option.bind_eq_bind, Option.bind_some]
    split_ifs
    · exact .stop _ leaves shorter
    · exact .neither
    · exact .stop _ leaves shorter
  · rw [plain]
    apply Agrees.fails
    intro value rest read
    rcases Option.bind_eq_some_iff.mp read with ⟨list, other, read⟩
    have left := strays list other
    split_ifs at read
    · cases read
      exact dangling_iff.mpr (.inl left)
    · cases read
      exact dangling_iff.mpr (.inl left)

/-- Reads what follows the opening of a group and a question mark. -/
def readSpecial? (reading : Reading) : List Char → Option (Reading × List Char)
  | '=' :: _ => none
  | '!' :: _ => none
  | '<' :: '=' :: _ => none
  | '<' :: '!' :: _ => none
  | 'P' :: '<' :: named => reading.openNamed? named
  | '<' :: named => reading.openNamed? named
  | switches => reading.readSwitches? switches

theorem readSpecial?_agrees (reading : Reading) (remains : Remains tail input longer) :
    Agrees tail Dangling input (reading.readSpecial? input) (reading.readSpecial? longer) := by
  have named (rest : List Char) (shorter : rest.length ≤ input.length) : Agrees tail Dangling input
      (reading.openNamed? rest) (reading.openNamed? (rest ++ tail)) :=
    ((reading.openNamed?_agrees (.visible rest)).mono shorter).weaken nofun
  have switches := reading.readSwitches?_agrees remains
  cases input with
  | nil =>
      rcases remains.of_nil with rfl | rfl
      · exact switches
      · exact switches
  | cons char rest =>
      rcases remains.of_cons with rfl
      by_cases ahead : char = '='
      · subst ahead
        exact .neither
      by_cases notAhead : char = '!'
      · subst notAhead
        exact .neither
      by_cases bracket : char = '<'
      · subst bracket
        cases rest with
        | nil =>
            have unnamed := named [] (Nat.zero_le _)
            rcases (Ending.either : tail = closing ∨ tail = []) with rfl | rfl
            · exact unnamed
            · exact unnamed
        | cons next rest =>
            by_cases behind : next = '='
            · subst behind
              exact .neither
            by_cases notBehind : next = '!'
            · subst notBehind
              exact .neither
            have name (tail : List Char) : reading.readSpecial? ('<' :: next :: tail) =
                reading.openNamed? (next :: tail) := by
              simp [readSpecial?, behind, notBehind]
            rw [List.cons_append, name, name]
            exact named _ (Nat.le_succ _)
      by_cases letter : char = 'P'
      · subst letter
        cases rest with
        | nil =>
            rcases (Ending.either : tail = closing ∨ tail = []) with rfl | rfl
            · exact switches
            · exact switches
        | cons next rest =>
            by_cases bracket : next = '<'
            · subst bracket
              exact named _ ((Nat.le_succ _).trans (Nat.le_succ _))
            · have switch (tail : List Char) : reading.readSpecial? ('P' :: next :: tail) =
                  reading.readSwitches? ('P' :: next :: tail) := by
                simp [readSpecial?, bracket]
              rw [List.cons_append, switch, switch]
              exact switches
      · have switch (tail : List Char) : reading.readSpecial? (char :: tail) =
            reading.readSwitches? (char :: tail) := by
          simp [readSpecial?, ahead, notAhead, bracket, letter]
        rw [switch, switch]
        exact switches

theorem readGroup?_special {reading : Reading} {rest more : List Char}
    (start : reading.flags.skip rest = '?' :: more) :
    reading.readGroup? rest = reading.readSpecial? more := by
  simp only [readGroup?, start]
  split
  all_goals simp_all [readSpecial?, readSwitches?]

theorem readGroup?_agrees (reading : Reading) (remains : Remains tail input longer) :
    Agrees tail Dangling input (reading.readGroup? input) (reading.readGroup? longer) := by
  have ahead := remains.skip reading.flags
  apply Agrees.mono _ (reading.flags.length_skip_le input)
  cases start : reading.flags.skip input with
  | nil =>
      rw [start] at ahead
      rcases ahead.of_nil with closed | hidden
      · rw [closed] at ahead
        simp only [readGroup?, start, closed]
        exact .stop _ ahead (Nat.le_refl _)
      · simp only [readGroup?, start, hidden]
        exact .stop _ .hidden (Nat.le_refl _)
  | cons char rest =>
      rw [start] at ahead
      by_cases special : char = '?'
      · subst special
        rw [readGroup?_special start, readGroup?_special ahead.of_cons]
        exact (readSpecial?_agrees reading (.visible rest)).mono (Nat.le_succ rest.length)
      · simp only [readGroup?, start, ahead.of_cons, List.cons.injEq, special, false_and, imp_self,
          implies_true]
        exact .stop _ (.visible (char :: rest)) (Nat.le_refl _)

omit [Ending tail] in
theorem pushPrimitive?_agrees {late : List Char → Prop} (reading : Reading) (primitive : Primitive)
    {rest after : List Char} (remains : Remains tail rest after)
    (shorter : rest.length ≤ input.length) :
    Agrees tail late input (reading.pushPrimitive? primitive rest)
      (reading.pushPrimitive? primitive after) := by
  simp only [pushPrimitive?]
  cases primitive.pattern? reading.flags with
  | none => exact .neither
  | some pattern => exact .stop _ remains shorter

theorem eq_of_pushPrimitive?_eq_some {reading result : Reading} {primitive : Primitive}
    {rest left : List Char} (pushed : reading.pushPrimitive? primitive rest = some (result, left)) :
    left = rest := by
  rcases Option.bind_eq_some_iff.mp pushed with ⟨_, -, same⟩
  exact (Prod.mk.inj (Option.some.inj same)).2.symm

/-- Repeats the last piece as the bounds in braces say. -/
def repeatBounds? (fuel : Nat) (reading : Reading) (rest : List Char) :
    Option (Reading × List Char) := do
  let (least, most, after) ← readBounds reading.flags fuel rest
  reading.repeatLast? least most (reading.flags.skip after)

theorem repeatBounds?_agrees {late : List Char → Prop} (reading : Reading)
    (remains : Remains tail input longer) (fuels : Suffices tail fuel further input) :
    Agrees tail late input (reading.repeatBounds? fuel input)
      (reading.repeatBounds? further longer) := by
  have bounds := readBounds_agrees reading.flags remains fuels
  simp only [repeatBounds?]
  rcases plain : readBounds reading.flags fuel input with _ | ⟨least, most, rest⟩
  · rw [plain] at bounds
    rw [Option.map_eq_none_iff.mp bounds.eq_none]
    exact .neither
  · rw [plain] at bounds
    rcases bounds.exists_of_some with ⟨after, other, leaves, shorter⟩
    rcases Option.map_eq_some_iff.mp other with ⟨⟨_, _, _⟩, read, same⟩
    cases same
    rw [read]
    exact (reading.repeatLast?_agrees least most (leaves.skip reading.flags)).mono
      ((reading.flags.length_skip_le rest).trans shorter)

/-- A brace is left that no bounds follow. -/
structure BraceLeft (reading : Reading) (plain longer : Option (Reading × List Char)) : Prop where
  fails : plain = none
  leaves : ∃ next inner, longer = some (next, '{' :: inner) ∧ next.flags = reading.flags ∧
    reading.flags.skip inner = closing

theorem step?_agrees (reading : Reading) (char : Char) (remains : Remains tail input longer)
    (fuels : Suffices tail fuel further input) :
    Agrees tail Dangling input (reading.step? fuel char input) (reading.step? further char longer) ∨
    BraceLeft reading (reading.step? fuel char input) (reading.step? further char longer) := by
  simp only [step?]
  split
  · exact .inl (reading.readGroup?_agrees remains)
  · left
    cases reading.closeGroup? with
    | none => exact .neither
    | some outer => exact .stop outer remains (Nat.le_refl _)
  · exact .inl (.stop _ remains (Nat.le_refl _))
  · left
    apply Agrees.bind_of_never (readClass_agrees reading.flags remains fuels)
    intro nested rest after leaves shorter
    exact .stop _ leaves shorter
  · exact .inl (reading.repeatLast?_agrees _ _ remains)
  · exact .inl (reading.repeatLast?_agrees _ _ remains)
  · exact .inl (reading.repeatLast?_agrees _ _ remains)
  · exact .inl (reading.repeatBounds?_agrees remains fuels)
  · rcases readEscape_agrees reading.flags remains fuels with agrees | ⟨fails, inner, leaves, ends⟩
    · left
      apply agrees.bind
      · intro primitive rest after leaves shorter
        exact reading.pushPrimitive?_agrees primitive leaves shorter
      · intro primitive rest late result left read
        rw [eq_of_pushPrimitive?_eq_some read]
        exact late
    · right
      rw [fails, leaves]
      exact ⟨rfl, _, inner, rfl, rfl, ends⟩
  all_goals exact .inl (reading.pushPrimitive?_agrees _ remains (Nat.le_refl _))

end Reading

end LogSieve.Regex

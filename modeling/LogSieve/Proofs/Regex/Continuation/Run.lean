import LogSieve.Proofs.Regex.Continuation.Reading

/-!
# Reading a pattern inside groups

Reading a pattern to its end, alone and with groups open around it and the closing behind it.
-/

namespace LogSieve.Regex.Reading

variable {tail : List Char} [Ending tail] {fuel further : Nat} {input longer : List Char}
  {outer : List OpenGroup}

/-! ## Groups around a pattern -/

/-- A reading with groups open around it. -/
def within (outer : List OpenGroup) (reading : Reading) : Reading :=
  { reading with groups := reading.groups ++ outer }

theorem within_nil (reading : Reading) : reading.within [] = reading := by
  simp [within]

@[simp] theorem flags_within (reading : Reading) : (reading.within outer).flags = reading.flags :=
  rfl

theorem repeatLast?_within (reading : Reading) (least : Nat) (most : Option Nat)
    (rest : List Char) :
    (reading.within outer).repeatLast? least most rest =
      (reading.repeatLast? least most rest).map fun (next, rest) => (next.within outer, rest) := by
  simp only [repeatLast?, within]
  cases reading.body.pieces with
  | nil => rfl
  | cons piece pieces =>
      simp only
      split_ifs
      · rfl
      · rfl

theorem closeGroup?_within {reading : Reading} (opened : reading.groups ≠ []) :
    (reading.within outer).closeGroup? = reading.closeGroup?.map (within outer) := by
  rcases reading with ⟨body, flags, groups, numbered, names⟩
  cases groups with
  | nil => exact absurd rfl opened
  | cons group groups => rfl

theorem openNamed?_within (reading : Reading) (named : List Char) :
    (reading.within outer).openNamed? named =
      (reading.openNamed? named).map fun (next, rest) => (next.within outer, rest) := by
  simp only [openNamed?]
  cases readGroupName true named with
  | none => rfl
  | some read =>
      simp only [Option.bind_eq_bind, Option.bind_some]
      have names : (reading.within outer).names = reading.names := rfl
      rw [names]
      split_ifs
      · rfl
      · rfl

theorem readGroup?_within (reading : Reading) (rest : List Char) :
    (reading.within outer).readGroup? rest =
      (reading.readGroup? rest).map fun (next, rest) => (next.within outer, rest) := by
  simp only [readGroup?, flags_within]
  split
  · rfl
  · rfl
  · rfl
  · rfl
  · exact openNamed?_within reading _
  · exact openNamed?_within reading _
  · next switches _ _ _ _ _ _ _ =>
      cases readFlags reading.flags [] switches with
      | none => rfl
      | some list =>
          simp only [Option.bind_eq_bind, Option.bind_some]
          split_ifs
          · rfl
          · rfl
          · rfl
  · rfl

theorem pushPrimitive?_within (reading : Reading) (primitive : Primitive) (rest : List Char) :
    (reading.within outer).pushPrimitive? primitive rest =
      (reading.pushPrimitive? primitive rest).map fun (next, rest) =>
        (next.within outer, rest) := by
  simp only [pushPrimitive?, flags_within]
  cases primitive.pattern? reading.flags with
  | none => rfl
  | some pattern => rfl

/-- Groups around a pattern do not matter to it, as long as it does not close them. -/
theorem step?_within {reading : Reading} {char : Char} (kept : char = ')' → reading.groups ≠ [])
    (rest : List Char) :
    (reading.within outer).step? fuel char rest =
      (reading.step? fuel char rest).map fun (next, rest) => (next.within outer, rest) := by
  simp only [step?, flags_within]
  split
  · exact reading.readGroup?_within rest
  · rw [closeGroup?_within (kept rfl)]
    cases reading.closeGroup? with
    | none => rfl
    | some next => rfl
  · rfl
  · cases readClass reading.flags fuel rest with
    | none => rfl
    | some nested => rfl
  · exact reading.repeatLast?_within _ _ rest
  · exact reading.repeatLast?_within _ _ rest
  · exact reading.repeatLast?_within _ _ rest
  · cases readBounds reading.flags fuel rest with
    | none => rfl
    | some bounds => exact reading.repeatLast?_within _ _ _
  · cases readEscape reading.flags fuel rest with
    | none => rfl
    | some read => exact reading.pushPrimitive?_within _ _
  all_goals exact reading.pushPrimitive?_within _ rest

/-! ## Whole patterns -/

/-- Whether reading comes to a closing parenthesis while no group is open. -/
def overcloses : (fuel : Nat) → Reading → List Char → Bool
  | 0, _, _ => false
  | fuel + 1, reading, input =>
      match reading.flags.skip input with
      | [] => false
      | char :: rest =>
          if char = ')' ∧ reading.groups.isEmpty then true
          else
            match reading.step? fuel char rest with
            | some (next, rest) => next.overcloses fuel rest
            | none => false

theorem run?_of_skip_eq_nil {reading : Reading} (ended : reading.flags.skip input = []) :
    reading.run? (fuel + 1) input = some reading := by
  simp only [run?, ended]

theorem run?_of_skip_eq_cons {reading : Reading} {char : Char} {rest : List Char}
    (start : reading.flags.skip input = char :: rest) :
    reading.run? (fuel + 1) input =
      (reading.step? fuel char rest).bind fun (next, rest) => next.run? fuel rest := by
  simp only [run?, start]
  rfl

/-- A pattern that closes a group it has not opened is refused. -/
theorem run?_eq_none_of_overcloses {reading : Reading}
    (closes : reading.overcloses fuel input = true) : reading.run? fuel input = none := by
  fun_induction overcloses fuel reading input with
  | case1 => rfl
  | case2 fuel reading input ended => cases closes
  | case3 fuel reading input char rest start stray =>
      rw [run?_of_skip_eq_cons start, stray.1]
      simp [step?, closeGroup?, List.isEmpty_iff.mp stray.2]
  | case4 fuel reading input char rest start inside next remaining stepped later =>
      rw [run?_of_skip_eq_cons start, stepped]
      exact later closes
  | case5 fuel reading input char rest start inside refused => cases closes

theorem run?_within {reading : Reading} {char : Char} {rest : List Char}
    (start : reading.flags.skip input = char :: rest) (kept : char = ')' → reading.groups ≠ []) :
    (reading.within outer).run? (fuel + 1) input =
      (reading.step? fuel char rest).bind fun (next, rest) =>
        (next.within outer).run? fuel rest := by
  have begins : (reading.within outer).flags.skip input = char :: rest := start
  rw [run?_of_skip_eq_cons begins, step?_within kept, Option.bind_map]
  rfl

/-- Only an open group is closed. -/
theorem groups_ne_nil_of_step? {reading : Reading} {rest : List Char}
    {outcome : Reading × List Char} (stepped : reading.step? fuel ')' rest = some outcome) :
    reading.groups ≠ [] := by
  intro none
  simp [step?, closeGroup?, none] at stepped

/-- A step goes the same way with more behind it, whatever groups are open around. -/
theorem run?_step {reading next : Reading} {char : Char} {rest left : List Char}
    (start : reading.flags.skip input = char :: rest)
    (stepped : reading.step? fuel char rest = some (next, left))
    (remains : Remains tail input longer) (fuels : Suffices tail fuel further rest) :
    ∃ after, (∀ outer, (reading.within outer).run? (further + 1) longer =
        (next.within outer).run? further after) ∧
      Remains tail left after ∧ left.length ≤ rest.length := by
  have ahead := remains.skip reading.flags
  rw [start] at ahead
  have agrees := reading.step?_agrees char (.visible rest) fuels
  replace agrees := agrees.resolve_right fun brace => nomatch brace.fails.symm.trans stepped
  rw [stepped] at agrees
  rcases agrees.exists_of_some with ⟨after, other, leaves, shorter⟩
  refine ⟨after, ?_, leaves, shorter⟩
  intro outer
  have kept : char = ')' → reading.groups ≠ [] := by
    rintro rfl
    exact groups_ne_nil_of_step? stepped
  rw [run?_within ahead.of_cons kept, other]
  rfl

/-- A pattern that is read to its end goes on with what is behind it, or a comment hides that,
whatever groups are open around it. -/
theorem run?_ending {reading final : Reading} (read : reading.run? fuel input = some final)
    (remains : Remains tail input longer) (enough : input.length < fuel)
    (more : input.length + tail.length < further) :
    (∃ left, tail.length < left ∧ ∀ outer,
      (reading.within outer).run? further longer = (final.within outer).run? left tail) ∨
    (∀ outer, (reading.within outer).run? further longer = some (final.within outer)) := by
  induction fuel generalizing reading input longer further with
  | zero => omega
  | succ fuel later =>
      rcases further with _ | fewer
      · omega
      have skipped := reading.flags.length_skip_le input
      cases start : reading.flags.skip input with
      | nil =>
          rw [run?_of_skip_eq_nil start] at read
          rw [← Option.some.inj read]
          have ahead := remains.skip reading.flags
          rw [start] at ahead
          generalize begins : reading.flags.skip longer = other at ahead
          cases ahead with
          | visible =>
              left
              refine ⟨fewer + 1, by omega, ?_⟩
              intro outer
              simp only [run?, flags_within, begins, List.nil_append, Flags.skip_ending]
          | hidden =>
              right
              intro outer
              exact run?_of_skip_eq_nil begins
      | cons char rest =>
          rw [start, List.length_cons] at skipped
          rw [run?_of_skip_eq_cons start] at read
          rcases Option.bind_eq_some_iff.mp read with ⟨⟨next, left⟩, stepped, goesOn⟩
          have fuels : Suffices tail fuel fewer rest := ⟨by omega, by omega⟩
          rcases run?_step start stepped remains fuels with ⟨after, lifted, leaves, shorter⟩
          simp only [lifted]
          exact later goesOn leaves (by omega) (by omega)

/-- More fuel than the pattern is long changes nothing. -/
theorem run?_fuel {reading final : Reading} (read : reading.run? fuel input = some final)
    (enough : input.length < fuel) (more : input.length < further) :
    reading.run? further input = some final := by
  have same : Remains [] input input := by
    have visible : Remains [] input (input ++ []) := .visible input
    rwa [List.append_nil] at visible
  rcases run?_ending read same enough more with ⟨left, some, goesOn⟩ | hidden
  · rw [← reading.within_nil, goesOn, within_nil]
    rcases left with _ | left
    · cases some
    · exact run?_of_skip_eq_nil final.flags.skip_nil
  · rw [← reading.within_nil, hidden, within_nil]

theorem readBound_closing (flags : Flags) (fuel : Nat) : readBound flags fuel closing = none := by
  have blank : closing.dropWhile isSpace = closing := by decide
  have digits : readDigits flags fuel closing = ([], closing) := by
    cases fuel <;> rfl
  simp [readBound, blank, digits]

/-- A brace that the closing follows is wrong. -/
theorem run?_brace {reading : Reading} {inner : List Char}
    (ends : reading.flags.skip inner = closing) : reading.run? fuel ('{' :: inner) = none := by
  cases fuel with
  | zero => rfl
  | succ fuel =>
      have solid : reading.flags.skip ('{' :: inner) = '{' :: inner :=
        reading.flags.skip_cons (by decide) (by decide) _
      rw [run?_of_skip_eq_cons solid]
      simp [step?, readBounds, ends, readBound_closing]

/-- The dollar sign at the end closes no group. -/
theorem run?_dangling {reading final : Reading} {rest : List Char} (opened : reading.groups ≠ [])
    (late : Dangling rest) (read : reading.run? fuel rest = some final) : final.groups ≠ [] := by
  rcases fuel with _ | fuel
  · cases read
  rcases dangling_iff.mp late with rfl | rfl
  · rw [run?_of_skip_eq_cons (reading.flags.skip_dollar)] at read
    rcases fuel with _ | fuel
    · simp [step?, pushPrimitive?, Primitive.pattern?, run?] at read
    · simp only [step?, pushPrimitive?, Primitive.pattern?, Option.bind_eq_bind,
        Option.bind_some] at read
      rw [run?_of_skip_eq_nil (Flags.skip_nil _)] at read
      rw [← Option.some.inj read]
      exact opened
  · rw [run?_of_skip_eq_nil reading.flags.skip_nil] at read
    rw [← Option.some.inj read]
    exact opened

/-- A step that is refused leads nowhere inside groups either, or leaves one of them open. -/
theorem groups_ne_nil_of_step?_eq_none {reading final : Reading} {char : Char} {rest : List Char}
    (around : outer ≠ []) (start : reading.flags.skip input = char :: rest)
    (kept : char = ')' → reading.groups ≠ []) (refused : reading.step? fuel char rest = none)
    (remains : Remains tail input longer) (fuels : Suffices tail fuel further rest)
    (read : (reading.within outer).run? (further + 1) longer = some final) :
    final.groups ≠ [] := by
  have ahead := remains.skip reading.flags
  rw [start] at ahead
  rw [run?_within ahead.of_cons kept] at read
  rcases Option.bind_eq_some_iff.mp read with ⟨⟨next, left⟩, stepped, goesOn⟩
  rcases reading.step?_agrees char (.visible rest) fuels with
    agrees | ⟨-, brace, inner, other, same, ends⟩
  · rw [refused] at agrees
    cases agrees with
    | fails strays =>
        have opened : (next.within outer).groups ≠ [] :=
          List.append_ne_nil_of_right_ne_nil _ around
        exact run?_dangling opened (strays next left stepped) goesOn
  · rw [other] at stepped
    cases stepped
    have closed : (next.within outer).flags.skip inner = closing := by
      rw [flags_within, same]
      exact ends
    exact nomatch (run?_brace closed).symm.trans goesOn

/-- A pattern that is refused, although it closes no group that it has not opened, is refused
inside groups too, or leaves one of them open. -/
theorem groups_ne_nil_of_run?_ending {reading final : Reading} (around : outer ≠ [])
    (refused : reading.run? fuel input = none) (closes : reading.overcloses fuel input = false)
    (remains : Remains tail input longer) (enough : input.length < fuel)
    (more : input.length + tail.length < further)
    (read : (reading.within outer).run? further longer = some final) : final.groups ≠ [] := by
  induction fuel generalizing reading input longer further with
  | zero => omega
  | succ fuel later =>
      rcases further with _ | fewer
      · omega
      have skipped := reading.flags.length_skip_le input
      cases start : reading.flags.skip input with
      | nil =>
          rw [run?_of_skip_eq_nil start] at refused
          cases refused
      | cons char rest =>
          rw [start, List.length_cons] at skipped
          have fuels : Suffices tail fuel fewer rest := ⟨by omega, by omega⟩
          rcases stepped : reading.step? fuel char rest with _ | ⟨next, left⟩
          · have kept : char = ')' → reading.groups ≠ [] := by
              rintro rfl none
              simp [overcloses, start, none] at closes
            exact groups_ne_nil_of_step?_eq_none around start kept stepped remains fuels read
          · rcases run?_step start stepped remains fuels with ⟨after, lifted, leaves, shorter⟩
            rw [run?_of_skip_eq_cons start, stepped] at refused
            rw [lifted] at read
            simp only [overcloses, start, stepped] at closes
            split_ifs at closes
            exact later refused closes leaves (by omega) (by omega) read

end LogSieve.Regex.Reading

import LogSieve.Proofs.Regex.Continuation.Run
import LogSieve.Proofs.Regex.Enclosed
import LogSieve.Proofs.Store.KeptTests

/-!
# Anchoring

A matcher asks for the whole of a value by a text that it puts around the text of its pattern. What
is read then is the pattern between the start and the end of the value, unless the pattern closes
the group that is put around it, ends in a comment that goes on over the closing, or is so large
that the limits leave no room for more.
-/

namespace LogSieve.Regex

variable {source : List Char} {pattern : Pattern} {depth : Nat}

/-! ## Texts and limits -/

/-- Reads the text of a pattern, however large, with the depth of its notation. -/
def read? (source : List Char) : Option (Pattern × Nat) := do
  let reading ← Reading.run? (source.length + 1) {} source
  if reading.groups.isEmpty then some reading.body.close else none

/-- A pattern that does not nest too deeply and does not stand for too large an automaton. -/
def Admitted (pattern : Pattern) (depth : Nat) : Prop :=
  depth ≤ nestingLimit ∧ ∀ direction, pattern.searchSize direction ≤ sizeLimit

theorem read?_eq_some_iff {read : Pattern × Nat} :
    read? source = some read ↔ ∃ final, Reading.run? (source.length + 1) {} source = some final ∧
      final.groups = [] ∧ final.body.close = read := by
  simp [read?, Option.bind_eq_some_iff]

theorem read?_eq_none (opened : ∀ final, Reading.run? (source.length + 1) {} source = some final →
    final.groups ≠ []) : read? source = none := by
  apply Option.eq_none_iff_forall_ne_some.mpr
  intro read eq
  rcases read?_eq_some_iff.mp eq with ⟨final, ran, closed, -⟩
  exact opened final ran closed

theorem parse?_eq_some_iff :
    parse? source = some pattern ↔
      ∃ depth, read? source = some (pattern, depth) ∧ Admitted pattern depth := by
  have directions : (∀ direction, pattern.searchSize direction ≤ sizeLimit) ↔
      pattern.searchSize .forward ≤ sizeLimit ∧ pattern.searchSize .backward ≤ sizeLimit := by
    constructor
    · intro all
      exact ⟨all .forward, all .backward⟩
    · rintro ⟨forward, backward⟩ direction
      cases direction with
      | forward => exact forward
      | backward => exact backward
  simp only [parse?, read?_eq_some_iff, Admitted, directions]
  constructor
  · intro parsed
    rcases Option.bind_eq_some_iff.mp parsed with ⟨final, ran, kept⟩
    split_ifs at kept with closed admitted
    cases kept
    exact ⟨_, ⟨final, ran, List.isEmpty_iff.mp closed, rfl⟩, admitted⟩
  · rintro ⟨depth, ⟨final, ran, closed, read⟩, admitted⟩
    simp [ran, closed, read, admitted]

/-! ## The text around a pattern -/

/-- What is put before a pattern. -/
def opening : List Char := ['^', '(', '?', ':']

/-- Whether a pattern closes a group that it has not opened. -/
def overcloses (source : List Char) : Bool := Reading.overcloses (source.length + 1) {} source

/-- Whether a pattern can be read with the closing behind it. There is no group to close, so it
ends in a comment that goes on over the closing. -/
def hidesClosing (source : List Char) : Bool := (read? (source ++ closing)).isSome

/-- The group around a pattern. -/
def outermost : OpenGroup where
  body := { pieces := [{ pattern := .look .textStart, depth := 0 }] }
  flags := {}
  number := none

theorem groups_within_ne_nil (reading : Reading) : (reading.within [outermost]).groups ≠ [] :=
  List.append_ne_nil_of_right_ne_nil _ (List.cons_ne_nil _ _)

theorem run?_opening (fuel : Nat) (input : List Char) :
    Reading.run? (fuel + 2) {} (opening ++ input) =
      (Reading.within [outermost] {}).run? fuel input :=
  rfl

theorem run?_closing (reading : Reading) (fuel : Nat) :
    reading.run? (fuel + 1) closing =
      reading.closeGroup?.bind fun next => next.run? fuel ['$'] := by
  rw [Reading.run?_of_skip_eq_cons reading.flags.skip_closing]
  simp only [Reading.step?, Option.bind_map]
  rfl

/-- The closing ends the group around a pattern that has closed all of its own. -/
theorem exists_run?_closing {final : Reading} {fuel : Nat} (closed : final.groups = [])
    (enough : closing.length < fuel) :
    ∃ whole, (final.within [outermost]).run? fuel closing = some whole ∧ whole.groups = [] ∧
      whole.body.close = (final.body.close.1.enclosed, final.body.close.2 + 2) := by
  rcases fuel with _ | _ | _ | fuel
  iterate 3 · simp [closing] at enough
  rcases final with ⟨body, flags, groups, numbered, names⟩
  obtain rfl : groups = [] := closed
  let pieces : List Piece :=
    [{ pattern := .look .textEnd, depth := 0 },
      { pattern := body.close.1, depth := body.close.2 + 1 },
      { pattern := .look .textStart, depth := 0 }]
  refine ⟨{ body := { pieces }, numbered, names }, run?_closing _ _, rfl, ?_⟩
  simp [pieces, GroupBody.close, GroupBody.branch, Pattern.enclosed]

/-- Nothing is closed where nothing is open. -/
theorem run?_closing_eq_none {final : Reading} (closed : final.groups = []) (fuel : Nat) :
    final.run? fuel closing = none := by
  cases fuel with
  | zero => rfl
  | succ fuel =>
      rw [run?_closing, Reading.closeGroup?, closed]
      rfl

/-- The closing leaves a group open if a pattern has done so. -/
theorem groups_ne_nil_of_run?_closing {final whole : Reading} {fuel : Nat}
    (opened : final.groups ≠ [])
    (ran : (final.within [outermost]).run? fuel closing = some whole) : whole.groups ≠ [] := by
  rcases fuel with _ | fuel
  · cases ran
  rw [run?_closing, Reading.closeGroup?_within opened, Option.bind_map] at ran
  rcases Option.bind_eq_some_iff.mp ran with ⟨next, -, goesOn⟩
  exact Reading.run?_dangling (groups_within_ne_nil next) (dangling_iff.mpr (.inl rfl)) goesOn

theorem hidesClosing_iff {fuel : Nat} (more : source.length + closing.length < fuel) :
    hidesClosing source = true ↔
      ∃ final, Reading.run? fuel {} (source ++ closing) = some final ∧ final.groups = [] := by
  have long : (source ++ closing).length < fuel := by
    rw [List.length_append]
    exact more
  rw [hidesClosing, Option.isSome_iff_exists]
  simp only [read?_eq_some_iff]
  constructor
  · rintro ⟨-, final, ran, closed, -⟩
    exact ⟨final, Reading.run?_fuel ran (Nat.lt_succ_self _) long, closed⟩
  · rintro ⟨final, ran, closed⟩
    exact ⟨_, final, Reading.run?_fuel ran long (Nat.lt_succ_self _), closed, rfl⟩

theorem length_closing_lt (source : List Char) :
    source.length + closing.length < source.length + 5 := by
  simp [closing]

theorem run?_anchored (source : List Char) :
    Reading.run? ((opening ++ source ++ closing).length + 1) {} (opening ++ source ++ closing) =
      (Reading.within [outermost] {}).run? (source.length + 5) (source ++ closing) := by
  have length : (opening ++ source ++ closing).length + 1 = source.length + 5 + 2 := by
    simp [opening, closing]
  rw [length, List.append_assoc, run?_opening]

/-- What is refused alone is refused between opening and closing. -/
theorem read?_anchored_of_none (closes : overcloses source = false)
    (refused : read? source = none) : read? (opening ++ source ++ closing) = none := by
  apply read?_eq_none
  rw [run?_anchored]
  intro whole read
  cases alone : Reading.run? (source.length + 1) {} source with
  | none =>
      exact Reading.groups_ne_nil_of_run?_ending (List.cons_ne_nil _ _) alone closes
        (.visible source) (Nat.lt_succ_self _) (length_closing_lt source) read
  | some final =>
      have opened : final.groups ≠ [] := by
        intro closed
        cases refused.symm.trans (read?_eq_some_iff.mpr ⟨final, alone, closed, rfl⟩)
      rcases Reading.run?_ending alone (.visible source) (Nat.lt_succ_self _)
        (length_closing_lt source) with ⟨left, -, goesOn⟩ | hidden
      · rw [goesOn] at read
        exact groups_ne_nil_of_run?_closing opened read
      · rw [hidden] at read
        cases read
        exact groups_within_ne_nil final

/-- What is read alone is read between opening and closing, or the closing is not seen. -/
theorem read?_anchored_of_some (read : read? source = some (pattern, depth)) :
    read? (opening ++ source ++ closing) =
      if hidesClosing source then none else some (pattern.enclosed, depth + 2) := by
  have more := length_closing_lt source
  rcases read?_eq_some_iff.mp read with ⟨final, alone, closed, close⟩
  rcases Reading.run?_ending alone (.visible source) (Nat.lt_succ_self _) more with
    ⟨left, enough, goesOn⟩ | hidden
  · have shows : ¬ hidesClosing source = true := by
      rw [hidesClosing_iff more]
      rintro ⟨other, ran, -⟩
      rw [← Reading.within_nil {}, goesOn, Reading.within_nil, run?_closing_eq_none closed] at ran
      cases ran
    rw [if_neg shows]
    rcases exists_run?_closing closed enough with ⟨whole, ran, outside, enclosed⟩
    rw [close] at enclosed
    refine read?_eq_some_iff.mpr ⟨whole, ?_, outside, enclosed⟩
    rw [run?_anchored, goesOn, ran]
  · have hides : hidesClosing source = true := by
      rw [hidesClosing_iff more]
      exact ⟨final, (hidden []).trans (congrArg some final.within_nil), closed⟩
    rw [if_pos hides]
    apply read?_eq_none
    rw [run?_anchored, hidden]
    rintro _ ⟨⟩
    exact groups_within_ne_nil final

/-- A pattern is read between opening and closing as it is read alone. -/
theorem parse?_anchored_eq_some_iff {whole : Pattern} (closes : overcloses source = false) :
    parse? (opening ++ source ++ closing) = some whole ↔
      ∃ pattern depth, read? source = some (pattern, depth) ∧ hidesClosing source = false ∧
        Admitted pattern.enclosed (depth + 2) ∧ whole = pattern.enclosed := by
  rw [parse?_eq_some_iff]
  rcases alone : read? source with _ | ⟨pattern, depth⟩
  · rw [read?_anchored_of_none closes alone]
    simp
  · rw [read?_anchored_of_some alone]
    cases hidesClosing source with
    | true => simp
    | false =>
        constructor
        · rintro ⟨_, ⟨⟩, admitted⟩
          exact ⟨pattern, depth, rfl, rfl, admitted, rfl⟩
        · rintro ⟨_, _, ⟨⟩, -, admitted, rfl⟩
          exact ⟨depth + 2, rfl, admitted⟩

/-- A pattern that closes a group it has not opened is refused. -/
theorem parse?_eq_none_of_overcloses (closes : overcloses source = true) :
    parse? source = none := by
  rw [parse?, Reading.run?_eq_none_of_overcloses closes]
  rfl

/-! ## Room for the text around a pattern -/

/-- The limits leave room for two more levels and two more states. -/
def Roomy (pattern : Pattern) (depth : Nat) : Prop :=
  depth + 2 ≤ nestingLimit ∧
    ∀ direction, pattern.searchSize direction + 2 * stateSize ≤ sizeLimit

theorem Roomy.admitted (roomy : Roomy pattern depth) : Admitted pattern depth := by
  constructor
  · have levels := roomy.1
    omega
  · intro direction
    exact (Nat.le_add_right _ _).trans (roomy.2 direction)

theorem Roomy.admitted_enclosed (roomy : Roomy pattern depth) :
    Admitted pattern.enclosed (depth + 2) := by
  constructor
  · exact roomy.1
  · intro direction
    exact (pattern.searchSize_enclosed_le direction).trans (roomy.2 direction)

/-- The text around a pattern does not change what it stands for: the pattern closes no group of it,
hides nothing of it in a comment, and is within the limits with it exactly if it is so alone. -/
structure Anchorable (source : List Char) : Prop where
  closes : overcloses source = false
  shows : hidesClosing source = false
  fits : ∀ pattern depth, read? source = some (pattern, depth) →
    (Admitted pattern.enclosed (depth + 2) ↔ Admitted pattern depth)

theorem Anchorable.of_roomy (closes : overcloses source = false)
    (shows : hidesClosing source = false)
    (roomy : ∀ pattern depth, read? source = some (pattern, depth) → Roomy pattern depth) :
    Anchorable source := by
  refine ⟨closes, shows, ?_⟩
  intro pattern depth read
  have room := roomy pattern depth read
  exact iff_of_true room.admitted_enclosed room.admitted

end LogSieve.Regex

namespace LogSieve.Matcher

open LogSieve.Regex

theorem accepts_iff_occursIn {matcher : Matcher} (regex : matcher.operator = .regex)
    (current : matcher.Current) (candidate : String) :
    matcher.accepts candidate = true ↔
      ∃ whole, parse? (opening ++ matcher.value.toList ++ closing) = some whole ∧
        whole.occursIn candidate.toList = true := by
  have text : Predicate.anchored matcher.value = opening ++ matcher.value.toList ++ closing := rfl
  rw [accepts, current, regex, Predicate.compile, text]
  cases parse? (opening ++ matcher.value.toList ++ closing) with
  | none => simp [Predicate.test]
  | some whole => simp [Predicate.test]

/-- A matcher for a pattern accepts the values that the pattern matches from start to end, if the
text that is put around the pattern leaves it alone. A pattern that closes the group around it is
none on its own; any other accepts nothing if it is malformed, hides the closing or is too large. -/
theorem accepts_iff_spans {matcher : Matcher} (regex : matcher.operator = .regex)
    (current : matcher.Current) (candidate : String) :
    (overcloses matcher.value.toList = true → parse? matcher.value.toList = none) ∧
    (overcloses matcher.value.toList = false →
      (matcher.accepts candidate = true ↔
        ∃ pattern depth, read? matcher.value.toList = some (pattern, depth) ∧
          hidesClosing matcher.value.toList = false ∧ Admitted pattern.enclosed (depth + 2) ∧
          pattern.Spans candidate.toList 0 candidate.toList.length)) ∧
    (Anchorable matcher.value.toList →
      (matcher.accepts candidate = true ↔
        ∃ pattern, parse? matcher.value.toList = some pattern ∧
          pattern.Spans candidate.toList 0 candidate.toList.length)) := by
  have law (closes : overcloses matcher.value.toList = false) :
      matcher.accepts candidate = true ↔
        ∃ pattern depth, read? matcher.value.toList = some (pattern, depth) ∧
          hidesClosing matcher.value.toList = false ∧ Admitted pattern.enclosed (depth + 2) ∧
          pattern.Spans candidate.toList 0 candidate.toList.length := by
    rw [accepts_iff_occursIn regex current]
    simp only [parse?_anchored_eq_some_iff closes]
    constructor
    · rintro ⟨_, ⟨pattern, depth, read, shows, admitted, rfl⟩, occurs⟩
      exact ⟨pattern, depth, read, shows, admitted, (pattern.occursIn_enclosed_iff _).mp occurs⟩
    · rintro ⟨pattern, depth, read, shows, admitted, spans⟩
      exact ⟨_, ⟨pattern, depth, read, shows, admitted, rfl⟩,
        (pattern.occursIn_enclosed_iff _).mpr spans⟩
  refine ⟨parse?_eq_none_of_overcloses, law, ?_⟩
  intro anchorable
  rw [law anchorable.closes]
  simp only [parse?_eq_some_iff]
  constructor
  · rintro ⟨pattern, depth, read, -, admitted, spans⟩
    exact ⟨pattern, ⟨depth, read, (anchorable.fits _ _ read).mp admitted⟩, spans⟩
  · rintro ⟨pattern, ⟨depth, read, admitted⟩, spans⟩
    exact ⟨pattern, depth, read, anchorable.shows, (anchorable.fits _ _ read).mpr admitted, spans⟩

theorem accepts_iff_spans_branches :
    Anchorable "GET|PUT".toList ∧
    ((regex "method" "GET|PUT").accepts "PUT" = true ↔
      ∃ pattern, parse? "GET|PUT".toList = some pattern ∧
        pattern.Spans "PUT".toList 0 "PUT".toList.length) := by
  have anchorable : Anchorable "GET|PUT".toList := by
    apply Anchorable.of_roomy (by decide) (by decide)
    intro pattern depth read
    cases read
    refine ⟨by decide, ?_⟩
    intro direction
    cases direction <;> decide +kernel
  exact ⟨anchorable, (accepts_iff_spans rfl (current_of_compiled_eq_none rfl) "PUT").2.2 anchorable⟩

/-- A character in so many groups. -/
def nested (levels : Nat) : List Char :=
  List.replicate levels '(' ++ 'a' :: List.replicate levels ')'

/-- A text that is no pattern on its own accepts values; patterns that end in a comment, or that
nest nearly as deep as is allowed, accept nothing of what they match. -/
theorem accepts_around_pattern :
    (parse? "a)|(?:b".toList = none ∧ (regex "k" "a)|(?:b").accepts "axxx" = true) ∧
    (∃ pattern, parse? "(?x)a # note".toList = some pattern ∧
      pattern.Spans "a".toList 0 "a".toList.length ∧
      (regex "k" "(?x)a # note").accepts "a" = false) ∧
    (∃ pattern, parse? (nested 249) = some pattern ∧
      pattern.Spans "a".toList 0 "a".toList.length ∧
      (regex "k" (String.ofList (nested 249))).accepts "a" = false) := by
  have alone (source : List Char)
      (matched : (parse? source).any (·.matchesWhole "a".toList) = true) :
      ∃ pattern, parse? source = some pattern ∧
        pattern.Spans "a".toList 0 "a".toList.length := by
    rcases (Option.any_eq_true_iff_get _ _).mp matched with ⟨parsed, whole⟩
    exact ⟨_, (Option.some_get parsed).symm, (Pattern.matchesWhole_iff _ _).mp whole⟩
  refine ⟨⟨by decide +kernel, by decide +kernel⟩, ?_, ?_⟩
  · rcases alone "(?x)a # note".toList (by decide +kernel) with ⟨pattern, parsed, spans⟩
    exact ⟨pattern, parsed, spans, by decide +kernel⟩
  · rcases alone (nested 249) (by decide +kernel) with ⟨pattern, parsed, spans⟩
    have refused : parse? (opening ++ nested 249 ++ closing) = none := by decide +kernel
    have none : ¬ (regex "k" (String.ofList (nested 249))).accepts "a" = true := by
      rw [accepts_iff_occursIn rfl (current_of_compiled_eq_none rfl)]
      rintro ⟨whole, read, -⟩
      rw [regex, String.toList_ofList, refused] at read
      cases read
    exact ⟨pattern, parsed, spans, eq_false_of_ne_true none⟩

end LogSieve.Matcher

import LogSieve.Proofs.Regex.Continuation.Escape
import Mathlib.Data.List.TakeWhile

/-!
# Bracketed classes with more behind them

A class that is not closed is not closed by the closing of a pattern either, so classes are read the
same with the closing behind them.
-/

namespace LogSieve.Regex

open LogSieve.Unicode

variable {tail : List Char} [Ending tail] (flags : Flags) {fuel further : Nat}
  {input longer : List Char}

/-! ## Named classes -/

theorem splitAtChar_agrees {divider : Char} (apart : divider ∉ closing)
    (remains : Remains tail input longer) :
    Agrees tail Never input (splitAtChar divider input) (splitAtChar divider longer) := by
  cases remains with
  | visible =>
      have passed : tail.dropWhile (· != divider) = [] := by
        rw [List.dropWhile_eq_nil_iff]
        intro char mem
        rw [bne_iff_ne]
        rintro rfl
        rcases (Ending.either : tail = closing ∨ tail = []) with rfl | rfl
        · exact apart mem
        · cases mem
      have whole : input.takeWhile (· != divider) ++ input.dropWhile (· != divider) = input :=
        List.takeWhile_append_dropWhile
      simp only [splitAtChar, List.dropWhile_append, List.takeWhile_append, passed]
      cases found : input.dropWhile (· != divider) with
      | nil => exact .neither
      | cons char after =>
          have lengths := congrArg List.length whole
          rw [found, List.length_append, List.length_cons] at lengths
          have partly : (input.takeWhile (· != divider)).length ≠ input.length := by omega
          have shorter : after.length ≤ input.length := by omega
          rw [if_neg partly]
          exact .stop _ (.visible after) shorter
  | hidden => exact .neither

/-- The class of a name that a colon and a bracket end. -/
def namedClass (negated : Bool) (named : List Char) : Option ((Charset × Bool) × List Char) := do
  let (name, rest) ← splitAtChar ':' named
  endedBy ']' ((asciiClass? (String.ofList name)).map (·, negated)) rest

theorem namedClass_agrees (negated : Bool) (remains : Remains tail input longer) :
    Agrees tail Never input (namedClass negated input) (namedClass negated longer) := by
  apply Agrees.bind_of_never (splitAtChar_agrees (by decide) remains)
  intro name rest after leaves shorter
  exact endedBy_agrees (by decide) _ leaves shorter

theorem namedClass_eq (negated : Bool) (named : List Char) :
    namedClass negated named =
      (match splitAtChar ':' named with
        | some (name, ']' :: after) =>
            (asciiClass? (String.ofList name)).map fun set => (set, negated, after)
        | _ => none).map fun (set, negated, rest) => ((set, negated), rest) := by
  simp only [namedClass]
  rcases splitAtChar ':' named with _ | ⟨name, _ | ⟨char, after⟩⟩
  · rfl
  · rfl
  · by_cases bracket : char = ']'
    · subst bracket
      simp [endedBy, Function.comp_def]
    · simp [endedBy, bracket]

theorem readAsciiClass_colon (rest : List Char) :
    ((readAsciiClass (':' :: rest)).map fun (set, negated, rest) => ((set, negated), rest)) =
      match rest with
      | '^' :: named => namedClass true named
      | _ => namedClass false rest := by
  rcases rest with _ | ⟨char, rest⟩
  · exact (namedClass_eq false []).symm
  · by_cases caret : char = '^'
    · subst caret
      exact (namedClass_eq true rest).symm
    · simp only [readAsciiClass, List.cons.injEq, caret, false_and, imp_self, implies_true]
      exact (namedClass_eq false _).symm

theorem readAsciiClass_agrees (remains : Remains tail input longer) :
    Agrees tail Never input
      ((readAsciiClass input).map fun (set, negated, rest) => ((set, negated), rest))
      ((readAsciiClass longer).map fun (set, negated, rest) => ((set, negated), rest)) := by
  cases input with
  | nil =>
      rcases remains.of_nil with rfl | rfl
      · exact .neither
      · exact .neither
  | cons char rest =>
      rcases remains.of_cons with rfl
      by_cases colon : char = ':'
      · subst colon
        rw [readAsciiClass_colon, readAsciiClass_colon]
        apply Agrees.mono _ (Nat.le_succ rest.length)
        rcases rest with _ | ⟨char, rest⟩
        · rcases (Ending.either : tail = closing ∨ tail = []) with rfl | rfl
          · exact namedClass_agrees false (.visible [])
          · exact namedClass_agrees false .hidden
        · by_cases caret : char = '^'
          · subst caret
            exact (namedClass_agrees true (.visible rest)).mono (Nat.le_succ _)
          · simp only [List.cons_append, List.cons.injEq, caret, false_and, imp_self, implies_true]
            exact namedClass_agrees false (.visible (char :: rest))
      · simp only [readAsciiClass, List.cons.injEq, colon, false_and, imp_self, implies_true]
        exact .neither

/-! ## Openings -/

theorem readHyphens_keeps (items : Items) (remains : Remains tail input longer)
    (fuels : Suffices tail fuel further input) :
    Keeps tail input (readHyphens flags fuel items input)
      (readHyphens flags further items longer) := by
  refine reading_induction (motive := fun fuel further input longer => ∀ items,
    Keeps tail input (readHyphens flags fuel items input)
      (readHyphens flags further items longer)) ?_ ?_
      remains fuels items
  · intro fuel further longer either ends items
    have ended (fuel : Nat) (items : Items) : readHyphens flags fuel items [] = (items, []) := by
      cases fuel <;> rfl
    have closed (fuel : Nat) (items : Items) :
        readHyphens flags fuel items closing = (items, closing) := by
      cases fuel <;> rfl
    rcases either with rfl | rfl
    · rw [ended, closed]
      exact ⟨rfl, ends, Nat.le_refl _⟩
    · rw [ended, ended]
      exact ⟨rfl, ends, Nat.le_refl _⟩
  · intro fuel further char rest _ later items
    have shorter := flags.length_skip_le rest
    by_cases hyphen : char = '-'
    · subst hyphen
      exact (later _ _ (flags.skip_remains rest) shorter _).mono (shorter.trans (Nat.le_succ _))
    · simp only [readHyphens, List.cons.injEq, hyphen, false_and, imp_self, implies_true]
      exact ⟨rfl, .visible (char :: rest), Nat.le_refl _⟩

/-- The caret that may stand at the start of a class. -/
def readCaret : List Char → Bool × List Char
  | '^' :: after => (true, flags.skip after)
  | input => (false, input)

theorem readCaret_keeps (remains : Remains tail input longer) :
    Keeps tail input (readCaret flags input) (readCaret flags longer) := by
  cases input with
  | nil =>
      rcases remains.of_nil with rfl | rfl
      · exact ⟨rfl, remains, Nat.le_refl _⟩
      · exact ⟨rfl, .hidden, Nat.le_refl _⟩
  | cons char rest =>
      rcases remains.of_cons with rfl
      by_cases caret : char = '^'
      · subst caret
        exact ⟨rfl, flags.skip_remains rest, (flags.length_skip_le rest).trans (Nat.le_succ _)⟩
      · simp only [readCaret, List.cons.injEq, caret, false_and, imp_self, implies_true]
        exact ⟨rfl, .visible (char :: rest), Nat.le_refl _⟩

/-- A bracket stands for itself where it would close an empty class. -/
def readBracket (items : Items) (input : List Char) : Items × List Char :=
  match items.count, input with
  | 0, ']' :: after => (items.push ⟨.singleton ']', 0⟩, flags.skip after)
  | _, _ => (items, input)

theorem readBracket_keeps (items : Items) (remains : Remains tail input longer) :
    Keeps tail input (readBracket flags items input) (readBracket flags items longer) := by
  simp only [readBracket]
  cases items.count with
  | succ count => exact ⟨rfl, remains, Nat.le_refl _⟩
  | zero =>
      cases input with
      | nil =>
          rcases remains.of_nil with rfl | rfl
          · exact ⟨rfl, remains, Nat.le_refl _⟩
          · exact ⟨rfl, .hidden, Nat.le_refl _⟩
      | cons char rest =>
          rcases remains.of_cons with rfl
          by_cases bracket : char = ']'
          · subst bracket
            exact ⟨rfl, flags.skip_remains rest, (flags.length_skip_le rest).trans (Nat.le_succ _)⟩
          · simp only [List.cons.injEq, bracket, false_and, imp_self, implies_true]
            exact ⟨rfl, .visible (char :: rest), Nat.le_refl _⟩

theorem readOpening_eq (fuel : Nat) (outer : Items) (rest : List Char) :
    readOpening flags fuel outer rest =
      let (negated, input) := readCaret flags (flags.skip rest)
      let (items, input) := readHyphens flags fuel {} input
      let (items, input) := readBracket flags items input
      (⟨outer, negated, none⟩, items, input) := by
  have bracket (opened : OpenClass) (items : Items) (input : List Char) :
      (match items.count, input with
        | 0, ']' :: after => (opened, items.push ⟨.singleton ']', 0⟩, flags.skip after)
        | _, _ => (opened, items, input)) =
      (opened, readBracket flags items input) := by
    rcases items with ⟨set, _ | count, depth⟩
    · rcases input with _ | ⟨char, after⟩
      · rfl
      · by_cases bracket : char = ']'
        · subst bracket
          rfl
        · simp [readBracket, bracket]
    · rfl
  simp only [readOpening]
  rcases flags.skip rest with _ | ⟨char, after⟩
  · exact bracket _ _ _
  · by_cases caret : char = '^'
    · subst caret
      exact bracket _ _ _
    · simp only [readCaret, List.cons.injEq, caret, false_and, imp_self, implies_true]
      exact bracket _ _ _

/-- The opening of a class is read the same. -/
theorem readOpening_keeps (outer : Items) (remains : Remains tail input longer)
    (fuels : Suffices tail fuel further input) :
    ∃ opened items rest after,
      readOpening flags fuel outer input = (opened, items, rest) ∧
      readOpening flags further outer longer = (opened, items, after) ∧
      Remains tail rest after ∧ rest.length ≤ input.length := by
  have caret := (readCaret_keeps flags (remains.skip flags)).mono (flags.length_skip_le input)
  rw [readOpening_eq, readOpening_eq]
  generalize readCaret flags (flags.skip input) = plain at caret
  generalize readCaret flags (flags.skip longer) = other at caret
  rcases plain with ⟨negated, start⟩
  rcases other with ⟨_, begins⟩
  rcases caret with ⟨rfl, startRemains, startShorter⟩
  have hyphens := (readHyphens_keeps flags {} startRemains (fuels.of_le startShorter)).mono
    startShorter
  simp only
  generalize readHyphens flags fuel {} start = plain at hyphens
  generalize readHyphens flags further {} begins = other at hyphens
  rcases plain with ⟨items, rest⟩
  rcases other with ⟨_, after⟩
  rcases hyphens with ⟨rfl, restRemains, restShorter⟩
  have bracket := (readBracket_keeps flags items restRemains).mono restShorter
  exact ⟨_, _, _, _, rfl, by rw [← bracket.same], bracket.remains, bracket.shorter⟩

/-! ## Members and ranges -/

/-- A rest that is too late for a class: an end of the closing. -/
def Trailing (rest : List Char) : Prop := rest <:+ closing

theorem readMember_agrees (remains : Remains tail input longer)
    (fuels : Suffices tail fuel further input.tail) :
    Agrees tail Dangling input.tail (readMember flags fuel input)
      (readMember flags further longer) ∨
    BraceLeft flags (readMember flags fuel input) (readMember flags further longer) := by
  cases input with
  | nil =>
      left
      rcases remains.of_nil with rfl | rfl
      · apply Agrees.fails
        intro value rest read
        cases read
        exact List.suffix_refl _
      · exact .neither
  | cons char rest =>
      rcases remains.of_cons with rfl
      by_cases escapes : char = '\\'
      · subst escapes
        exact readEscape_agrees flags (.visible rest) fuels
      · left
        simp only [readMember]
        exact .stop _ (.visible rest) (Nat.le_refl _)

/-- With the closing behind the input, the character ahead is the same, unless there was none. -/
theorem peek_append (tail : List Char) [Ending tail] (flags : Flags) (char : Char)
    (rest : List Char) :
    flags.peek (char :: (rest ++ tail)) = flags.peek (char :: rest) ∨
    flags.peek (char :: rest) = none ∧ flags.peek (char :: (rest ++ tail)) = some ')' := by
  have past (inComment : Bool) : peekPast inComment (rest ++ tail) = peekPast inComment rest ∨
      peekPast inComment rest = none ∧ peekPast inComment (rest ++ tail) = some ')' := by
    induction rest generalizing inComment with
    | nil =>
        rcases (Ending.either : tail = closing ∨ tail = []) with rfl | rfl
        · right
          cases inComment <;> exact ⟨rfl, rfl⟩
        · exact .inl rfl
    | cons char rest later =>
        simp only [List.cons_append, peekPast]
        split_ifs
        · exact later _
        · exact later _
        · exact .inl rfl
  simp only [Flags.peek, List.tail_cons]
  split_ifs
  · exact past false
  · cases rest with
    | nil =>
        rcases (Ending.either : tail = closing ∨ tail = []) with rfl | rfl
        · exact .inr ⟨rfl, rfl⟩
        · exact .inl rfl
    | cons char rest => exact .inl rfl

omit [Ending tail] in
/-- A member alone leaves the input where it is. -/
theorem memberAlone_agrees {late : List Char → Prop} (member : Primitive) {rest after : List Char}
    (remains : Remains tail rest after) (shorter : rest.length ≤ input.length) :
    Agrees tail late input ((member.set? flags).bind fun set => some (set, rest))
      ((member.set? flags).bind fun set => some (set, after)) := by
  cases member.set? flags with
  | none => exact .neither
  | some set => exact .stop set remains shorter

theorem eq_of_memberAlone (member : Primitive) {set : Charset} {rest left : List Char}
    (read : ((member.set? flags).bind fun set => some (set, rest)) = some (set, left)) :
    left = rest := by
  rcases Option.bind_eq_some_iff.mp read with ⟨_, -, same⟩
  exact (Prod.mk.inj (Option.some.inj same)).2.symm

theorem Dangling.trailing {rest : List Char} (late : Dangling rest) : Trailing rest :=
  List.IsSuffix.trans late (List.suffix_cons _ _)

theorem trailing_iff {rest : List Char} :
    Trailing rest ↔ rest = closing ∨ rest = ['$'] ∨ rest = [] := by
  rw [Trailing, closing, List.suffix_cons_iff, ← dangling_iff, Dangling]

/-- Reads the last member of a range. -/
def readLast (fuel : Nat) (first : Primitive) (rest : List Char) :
    Option (Charset × List Char) := do
  let (last, after) ← readMember flags fuel (flags.skip rest)
  let first ← first.char? flags
  let last ← last.char? flags
  if first.toNat ≤ last.toNat then some (.ofRange first.toNat last.toNat, after) else none

theorem readLast_agrees (first : Primitive) (remains : Remains tail input longer)
    (fuels : Suffices tail fuel further input) :
    Agrees tail Trailing input (readLast flags fuel first input)
      (readLast flags further first longer) := by
  have shorter : (flags.skip input).tail.length ≤ input.length := by
    have skipped := flags.length_skip_le input
    rw [List.length_tail]
    omega
  simp only [readLast]
  rcases readMember_agrees flags (remains.skip flags) (fuels.of_le shorter) with
    agrees | ⟨fails, inner, leaves, -⟩
  · apply Agrees.bind ((agrees.weaken fun _ => Dangling.trailing).mono shorter)
    · intro last rest after leaves bounded
      simp only
      cases first.char? flags with
      | none => exact .neither
      | some first =>
          cases last.char? flags with
          | none => exact .neither
          | some last =>
              simp only [Option.bind_eq_bind, Option.bind_some]
              split_ifs
              · exact .stop _ leaves bounded
              · exact .neither
    · intro last rest late set left read
      simp only [Option.bind_eq_bind, Option.bind_eq_some_iff] at read
      rcases read with ⟨first, -, last, -, read⟩
      split_ifs at read
      cases read
      exact late
  · rw [fails, leaves]
    cases first.char? flags with
    | none => exact .neither
    | some first => exact .neither

/-- What follows the first member of a range. -/
def readRangeRest (fuel : Nat) (first : Primitive) (after : List Char) :
    Option (Charset × List Char) :=
  match after with
  | [] => none
  | '-' :: rest =>
      if flags.peek after = some ']' ∨ flags.peek after = some '-' then do
        some (← first.set? flags, after)
      else readLast flags fuel first rest
  | _ => do some (← first.set? flags, after)

theorem readRange_eq (fuel : Nat) (input : List Char) :
    readRange flags fuel input =
      (readMember flags fuel input).bind fun (first, after) =>
        readRangeRest flags fuel first (flags.skip after) := rfl

theorem readRangeRest_agrees (first : Primitive) (remains : Remains tail input longer)
    (fuels : Suffices tail fuel further input) :
    Agrees tail Trailing input (readRangeRest flags fuel first input)
      (readRangeRest flags further first longer) := by
  cases input with
  | nil =>
      rcases remains.of_nil with rfl | rfl
      · apply Agrees.fails
        intro set rest read
        rw [eq_of_memberAlone flags first read]
        exact List.suffix_refl _
      · exact .neither
  | cons char rest =>
      rcases remains.of_cons with rfl
      by_cases hyphen : char = '-'
      · subst hyphen
        have shorter : (flags.skip rest).length ≤ ('-' :: rest).length :=
          (flags.length_skip_le rest).trans (Nat.le_succ _)
        have same : (flags.peek ('-' :: (rest ++ tail)) = some ']' ∨
            flags.peek ('-' :: (rest ++ tail)) = some '-') ↔
            (flags.peek ('-' :: rest) = some ']' ∨ flags.peek ('-' :: rest) = some '-') := by
          rcases peek_append tail flags '-' rest with same | ⟨none, some⟩
          · rw [same]
          · simp [none, some]
        simp only [readRangeRest, same]
        split_ifs
        · exact memberAlone_agrees flags first (.visible ('-' :: rest)) (Nat.le_refl _)
        · exact (readLast_agrees flags first (.visible rest) (fuels.of_le (Nat.le_succ _))).mono
            (Nat.le_succ _)
      · simp only [readRangeRest, List.cons.injEq, hyphen, false_and, imp_self, implies_true]
        exact memberAlone_agrees flags first (.visible (char :: rest)) (Nat.le_refl _)

theorem readRange_agrees (remains : Remains tail input longer)
    (fuels : Suffices tail fuel further input.tail) :
    Agrees tail Trailing input.tail (readRange flags fuel input)
      (readRange flags further longer) := by
  rw [readRange_eq, readRange_eq]
  rcases readMember_agrees flags remains fuels with agrees | ⟨fails, inner, leaves, ends⟩
  · apply Agrees.bind (agrees.weaken fun _ => Dangling.trailing)
    · intro first rest after leaves shorter
      have skipped := (flags.length_skip_le rest).trans shorter
      have agrees := readRangeRest_agrees flags first (leaves.skip flags) (fuels.of_le skipped)
      exact agrees.mono skipped
    · intro first rest late set left read
      have same : left = rest := by
        rcases trailing_iff.mp late with rfl | rfl | rfl
        · simp only [flags.skip_closing] at read
          exact eq_of_memberAlone flags first read
        · simp only [flags.skip_dollar] at read
          exact eq_of_memberAlone flags first read
        · simp only [flags.skip_nil] at read
          cases read
      rwa [same]
  · rw [fails, leaves]
    have solid : flags.skip ('{' :: inner) = '{' :: inner :=
      flags.skip_cons (by decide) (by decide) _
    simp only [Option.bind_none, Option.bind_some, solid]
    exact .neither

/-! ## Classes -/

section Classes

variable (innermost : OpenClass) (stack : List OpenClass) (items : Items)

/-- The operator that a character written twice stands for. -/
def operatorOf? : Char → Option SetOp
  | '&' => some .inter
  | '-' => some .diff
  | '~' => some .symmDiff
  | _ => none

theorem readClassItems_operator {char : Char} {rest : List Char} {op : SetOp}
    (operator : operatorOf? char = some op) (start : flags.skip input = char :: char :: rest) :
    readClassItems flags (fuel + 1) innermost stack items input =
      readClassItems flags fuel
        { innermost with waiting := some (op, flags.combine innermost.waiting items.close) }
        stack {} rest := by
  simp only [readClassItems, start]
  revert operator
  simp only [operatorOf?]
  split
  · rintro ⟨⟩
    rfl
  · rintro ⟨⟩
    rfl
  · rintro ⟨⟩
    rfl
  · rintro ⟨⟩

theorem readClassItems_range {char : Char} {rest : List Char}
    (start : flags.skip input = char :: rest)
    (opens : char ≠ '[') (closes : char ≠ ']')
    (single : operatorOf? char = none ∨ rest.head? ≠ some char) :
    readClassItems flags (fuel + 1) innermost stack items input =
      (readRange flags fuel (char :: rest)).bind fun (set, after) =>
        readClassItems flags fuel innermost stack (items.push ⟨set, 0⟩) after := by
  simp only [readClassItems, start]
  split
  · next ended => cases ended
  · next bracket => exact (opens (List.cons.inj bracket).1).elim
  · next bracket => exact (closes (List.cons.inj bracket).1).elim
  · next pair =>
      cases pair
      simp [operatorOf?] at single
  · next pair =>
      cases pair
      simp [operatorOf?] at single
  · next pair =>
      cases pair
      simp [operatorOf?] at single
  · rfl

/-- A character that is not written twice is not with the closing behind it. -/
theorem single_of_not_pair (tail : List Char) [Ending tail] {char : Char} {rest : List Char}
    (pair : ¬ ∃ op tail, operatorOf? char = some op ∧ rest = char :: tail) :
    (operatorOf? char = none ∨ rest.head? ≠ some char) ∧
    (operatorOf? char = none ∨ (rest ++ tail).head? ≠ some char) := by
  cases operator : operatorOf? char with
  | none => exact ⟨.inl rfl, .inl rfl⟩
  | some op =>
      cases rest with
      | nil =>
          refine ⟨.inr nofun, .inr ?_⟩
          rcases (Ending.either : tail = closing ∨ tail = []) with rfl | rfl
          · intro same
            cases same
            cases operator
          · exact nofun
      | cons next tail =>
          have other : next ≠ char := by
            rintro rfl
            exact pair ⟨op, tail, operator, rfl⟩
          have differs : some next ≠ some char := fun same => other (Option.some.inj same)
          exact ⟨.inr differs, .inr differs⟩

theorem Trailing.skip {rest : List Char} (late : Trailing rest) : Trailing (flags.skip rest) := by
  rcases trailing_iff.mp late with rfl | rfl | rfl
  · rwa [flags.skip_closing]
  · rwa [flags.skip_dollar]
  · rwa [flags.skip_nil]

/-- A class that is open at the closing stays open. -/
theorem readClassItems_of_trailing (late : Trailing (flags.skip input)) :
    readClassItems flags fuel innermost stack items input = none := by
  induction fuel generalizing items input with
  | zero => rfl
  | succ fuel later =>
      rcases trailing_iff.mp late with closed | dollar | ended
      · rw [readClassItems_range flags innermost stack items closed (by decide) (by decide)
          (.inl rfl)]
        apply Option.bind_eq_none_iff.mpr
        rintro ⟨set, after⟩ read
        apply later
        have left : after = ['$'] := by
          change readRangeRest flags fuel (.literal ')' false) (flags.skip ['$']) = _ at read
          rw [flags.skip_dollar] at read
          exact eq_of_memberAlone flags _ read
        rw [left]
        exact Trailing.skip flags (trailing_iff.mpr (.inr (.inl rfl)))
      · rw [readClassItems_range flags innermost stack items dollar (by decide) (by decide)
          (.inl rfl)]
        have refused : readRange flags fuel ['$'] = none := by
          simp [readRange_eq, readMember, readRangeRest]
        rw [refused, Option.bind_none]
      · simp only [readClassItems, ended]

end Classes

/-- The items of a class are read the same from any place in so much text. -/
def ItemsAgree (tail rest : List Char) (fuel further : Nat) : Prop :=
  ∀ {left behind : List Char} (innermost : OpenClass) (stack : List OpenClass) (items : Items),
    Remains tail left behind → left.length ≤ rest.length →
    Agrees tail Never rest (readClassItems flags fuel innermost stack items left)
      (readClassItems flags further innermost stack items behind)

section Items

variable (innermost : OpenClass) (stack : List OpenClass) (items : Items)

omit [Ending tail] in
/-- A class that is open at the end stays open. -/
theorem readClassItems_agrees_nil {source other begins : List Char}
    (either : begins = closing ∨ begins = []) (ended : flags.skip source = [])
    (start : flags.skip other = begins) :
    Agrees tail Never [] (readClassItems flags fuel innermost stack items source)
      (readClassItems flags further innermost stack items other) := by
  have late : Trailing (flags.skip source) := by
    rw [ended]
    exact trailing_iff.mpr (.inr (.inr rfl))
  have lateToo : Trailing (flags.skip other) := by
    rw [start]
    rcases either with rfl | rfl
    · exact trailing_iff.mpr (.inl rfl)
    · exact trailing_iff.mpr (.inr (.inr rfl))
  rw [readClassItems_of_trailing flags innermost stack items late,
    readClassItems_of_trailing flags innermost stack items lateToo]
  exact .neither

variable {source other rest : List Char}

/-- An opening bracket names a class or opens one. -/
theorem readClassItems_agrees_open (later : ItemsAgree flags tail rest fuel further)
    (enough : Suffices tail fuel further rest) (start : flags.skip source = '[' :: rest)
    (begins : flags.skip other = '[' :: (rest ++ tail)) :
    Agrees tail Never rest (readClassItems flags (fuel + 1) innermost stack items source)
      (readClassItems flags (further + 1) innermost stack items other) := by
  simp only [readClassItems, start, begins]
  have named := readAsciiClass_agrees (.visible rest : Remains tail rest (rest ++ tail))
  rcases plain : readAsciiClass rest with _ | ⟨set, negated, left⟩
  · rw [plain] at named
    rw [Option.map_eq_none_iff.mp named.eq_none]
    rcases readOpening_keeps flags items (.visible rest) enough with
      ⟨opened, within, left, behind, opening, alike, leaves, shorter⟩
    rw [opening, alike]
    exact later opened _ within leaves shorter
  · rw [plain] at named
    rcases named.exists_of_some with ⟨behind, longer, leaves, shorter⟩
    rcases Option.map_eq_some_iff.mp longer with ⟨⟨_, _, _⟩, read, same⟩
    cases same
    rw [read]
    simp only
    cases flags.finish? negated set with
    | none => exact .neither
    | some set => exact later innermost stack _ leaves shorter

omit [Ending tail] in
/-- A closing bracket ends the innermost class. -/
theorem readClassItems_agrees_close (later : ItemsAgree flags tail rest fuel further)
    (start : flags.skip source = ']' :: rest) (begins : flags.skip other = ']' :: (rest ++ tail)) :
    Agrees tail Never rest (readClassItems flags (fuel + 1) innermost stack items source)
      (readClassItems flags (further + 1) innermost stack items other) := by
  simp only [readClassItems, start, begins]
  cases flags.finish? innermost.negated (flags.combine innermost.waiting items.close).set with
  | none => exact .neither
  | some set =>
      cases stack with
      | nil => exact .stop _ (.visible rest) (Nat.le_refl _)
      | cons enclosing stack => exact later enclosing stack _ (.visible rest) (Nat.le_refl _)

theorem readClassItems_agrees (remains : Remains tail input longer)
    (fuels : Suffices tail fuel further input) :
    Agrees tail Never input (readClassItems flags fuel innermost stack items input)
      (readClassItems flags further innermost stack items longer) := by
  apply Agrees.mono _ (flags.length_skip_le input)
  refine reading_induction (motive := fun fuel further start begins =>
    ∀ source other innermost stack items, flags.skip source = start → flags.skip other = begins →
      Agrees tail Never start (readClassItems flags fuel innermost stack items source)
        (readClassItems flags further innermost stack items other)) ?_ ?_
      (remains.skip flags) (fuels.skip flags) input longer innermost stack items rfl rfl
  · intro fuel further begins either _ source other innermost stack items ended start
    exact readClassItems_agrees_nil flags innermost stack items either ended start
  · intro fuel further char rest enough later source other innermost stack items start begins
    have goesOn : ItemsAgree flags tail rest fuel further := by
      intro left behind innermost stack items leaves shorter
      have skipped := (flags.length_skip_le left).trans shorter
      exact (later _ _ (leaves.skip flags) skipped left behind innermost stack items rfl rfl).mono
        skipped
    apply Agrees.mono _ (Nat.le_succ rest.length)
    by_cases opens : char = '['
    · subst opens
      exact readClassItems_agrees_open flags innermost stack items goesOn enough start begins
    by_cases closes : char = ']'
    · subst closes
      exact readClassItems_agrees_close flags innermost stack items goesOn start begins
    by_cases pair : ∃ op tail, operatorOf? char = some op ∧ rest = char :: tail
    · rcases pair with ⟨op, tail, operator, rfl⟩
      rw [readClassItems_operator flags innermost stack items operator start,
        readClassItems_operator flags innermost stack items operator begins]
      exact goesOn _ stack {} (.visible tail) (Nat.le_succ _)
    · rcases single_of_not_pair tail pair with ⟨single, alone⟩
      rw [readClassItems_range flags innermost stack items start opens closes single,
        readClassItems_range flags innermost stack items begins opens closes alone]
      apply Agrees.bind (readRange_agrees flags (.visible (char :: rest)) enough)
      · intro set left behind leaves shorter
        exact goesOn innermost stack _ leaves shorter
      · intro set left late result last read
        simp only [readClassItems_of_trailing flags innermost stack _ (late.skip flags)] at read
        cases read

end Items

theorem readClass_agrees (remains : Remains tail input longer)
    (fuels : Suffices tail fuel further input) :
    Agrees tail Never input (readClass flags fuel input) (readClass flags further longer) := by
  rcases readOpening_keeps flags {} remains fuels with
    ⟨opened, items, rest, after, opening, alike, leaves, shorter⟩
  simp only [readClass, opening, alike]
  exact (readClassItems_agrees flags opened [] items leaves (fuels.of_le shorter)).mono shorter

end LogSieve.Regex

import LogSieve.Json.Printer
import LogSieve.Json.Token

/-!
# Scanning

The scanner is bounded by fuel.  Every token uses up at least its first
character, so the fuel given to it never runs out and the scanner obeys one
equation for each way in which a text can begin.  The equations are stated with
the rest of the text left open; a number is delimited by whatever cannot continue
it.
-/

namespace LogSieve.Json

open LogSieve.Text

/-! ## Tokens use up text -/

theorem length_of_readUnits {input : List Char} {units : List StringUnit}
    {after : List Char} (read : readUnits input = some (units, after)) :
    after.length < input.length := by
  fun_induction readUnits input generalizing units after with
  | case1 => simp at read
  | case2 rest =>
      simp only [Option.some.injEq, Prod.mk.injEq] at read
      simp [← read.2]
  | case3 first second third fourth rest ih =>
      simp only [Option.bind_eq_bind, Option.bind_eq_some_iff, Option.some.injEq,
        Prod.mk.injEq, Prod.exists] at read
      obtain ⟨_, -, _, -, _, -, _, -, _, _, inner, -, rfl⟩ := read
      have shorter := ih inner
      simp only [List.length_cons]
      omega
  | case4 char rest _ ih =>
      simp only [Option.bind_eq_bind, Option.bind_eq_some_iff, Option.some.injEq,
        Prod.mk.injEq, Prod.exists] at read
      obtain ⟨_, -, _, _, inner, -, rfl⟩ := read
      have shorter := ih inner
      simp only [List.length_cons]
      omega
  | case5 => simp at read
  | case6 char rest _ _ _ _ ih =>
      simp only [Option.bind_eq_bind, Option.bind_eq_some_iff, Option.some.injEq,
        Prod.mk.injEq, Prod.exists] at read
      obtain ⟨_, _, inner, -, rfl⟩ := read
      have shorter := ih inner
      simp only [List.length_cons]
      omega

theorem length_dropWhile_le (test : Char → Bool) (input : List Char) :
    (input.dropWhile test).length ≤ input.length :=
  (List.dropWhile_suffix test).length_le

theorem length_of_readFraction {input : List Char} {fraction : Option (List Char)}
    {after : List Char} (read : readFraction input = some (fraction, after)) :
    after.length ≤ input.length := by
  unfold readFraction at read
  split at read
  · next rest =>
      dsimp only at read
      split at read
      · simp at read
      · simp only [Option.some.injEq, Prod.mk.injEq] at read
        have shorter := length_dropWhile_le Char.isDigit rest
        simp only [← read.2, List.length_cons]
        omega
  · simp only [Option.some.injEq, Prod.mk.injEq] at read
    simp [read.2]

theorem length_of_readExponentDigits {negative : Bool} {input : List Char}
    {exponent : Option Int} {after : List Char}
    (read : readExponentDigits negative input = some (exponent, after)) :
    after.length ≤ input.length := by
  simp only [readExponentDigits] at read
  split at read
  · simp at read
  · simp only [Option.some.injEq, Prod.mk.injEq] at read
    rw [← read.2]
    exact length_dropWhile_le Char.isDigit input

theorem length_of_readExponent {input : List Char} {exponent : Option Int}
    {after : List Char} (read : readExponent input = some (exponent, after)) :
    after.length ≤ input.length := by
  simp only [readExponent] at read
  split at read
  · next char rest =>
      split at read
      · split at read <;>
          · have shorter := length_of_readExponentDigits read
            simp only [List.length_cons] at *
            omega
      · simp only [Option.some.injEq, Prod.mk.injEq] at read
        simp [← read.2]
  · simp only [Option.some.injEq, Prod.mk.injEq] at read
    simp [← read.2]

/-- Reads a number without its sign. -/
def readUnsigned (negative : Bool) (input : List Char) : Option (Numeral × List Char) :=
  let whole := input.takeWhile Char.isDigit
  if whole.isEmpty || (whole.head? == some '0' && 1 < whole.length) then none
  else do
    let (fraction, rest) ← readFraction (input.dropWhile Char.isDigit)
    let (exponent, rest) ← readExponent rest
    let fractionDigits := fraction.getD []
    some ({ negative := negative
            mantissa := valueOfDigits (whole ++ fractionDigits)
            exponent := exponent.getD 0 - fractionDigits.length
            plain := fraction.isNone && exponent.isNone }, rest)

/-- A minus sign says that the number after it is negative. -/
theorem readNumeral_minus (rest : List Char) :
    readNumeral ('-' :: rest) = readUnsigned true rest := rfl

theorem readNumeral_of_head_ne {input : List Char} (unsigned : input.head? ≠ some '-') :
    readNumeral input = readUnsigned false input := by
  cases input with
  | nil => rfl
  | cons char rest =>
      have notMinus : char ≠ '-' := by simpa using unsigned
      rw [readNumeral]
      · rfl
      · intro other equal
        exact notMinus (List.cons.inj equal).1

theorem length_of_readUnsigned {negative : Bool} {input : List Char} {numeral : Numeral}
    {after : List Char} (read : readUnsigned negative input = some (numeral, after)) :
    after.length < input.length := by
  simp only [readUnsigned] at read
  split at read
  · simp at read
  · next wellBegun =>
      simp only [Option.bind_eq_bind, Option.bind_eq_some_iff, Option.some.injEq,
        Prod.mk.injEq, Prod.exists] at read
      obtain ⟨_, _, fraction, _, _, exponent, -, rfl⟩ := read
      have afterWhole := length_of_readFraction fraction
      have afterFraction := length_of_readExponent exponent
      have divided := congrArg List.length
        (List.takeWhile_append_dropWhile (p := Char.isDigit) (l := input))
      have someDigit : (input.takeWhile Char.isDigit).length ≠ 0 := by
        intro none
        simp [List.length_eq_zero_iff.mp none] at wellBegun
      simp only [List.length_append] at divided
      omega

theorem length_of_readNumeral {input : List Char} {numeral : Numeral} {after : List Char}
    (read : readNumeral input = some (numeral, after)) : after.length < input.length := by
  by_cases signed : input.head? = some '-'
  · obtain ⟨rest, rfl⟩ := List.head?_eq_some_iff.mp signed
    rw [readNumeral_minus] at read
    have shorter := length_of_readUnsigned read
    simp only [List.length_cons]
    omega
  · rw [readNumeral_of_head_ne signed] at read
    exact length_of_readUnsigned read

theorem length_of_readToken {char : Char} {rest : List Char} {token : Token}
    {after : List Char} (read : readToken char rest = some (token, after)) :
    after.length ≤ rest.length := by
  simp only [readToken] at read
  split at read
  case h_7 =>
    simp only [readString, Option.bind_eq_bind, Option.bind_eq_some_iff, Option.some.injEq,
      Prod.mk.injEq, Prod.exists] at read
    obtain ⟨_, _, units, -, rfl⟩ := read
    exact Nat.le_of_lt (length_of_readUnits units)
  case h_11 =>
    simp only [Option.map_eq_some_iff, Prod.mk.injEq, Prod.exists] at read
    obtain ⟨_, _, numeral, -, rfl⟩ := read
    have shorter := length_of_readNumeral numeral
    simp only [List.length_cons] at shorter
    omega
  case h_8 | h_9 | h_10 =>
    split at read
    · simp only [Option.some.injEq, Prod.mk.injEq] at read
      simp only [← read.2, List.length_cons]
      omega
    · simp at read
  all_goals
    simp only [Option.some.injEq, Prod.mk.injEq] at read
    simp [read.2]

/-! ## The equations of the scanner -/

/-- More fuel than there are characters changes nothing. -/
theorem scanLoop_congr (fuel other : Nat) (text : List Char)
    (enough : text.length < fuel) (alsoEnough : text.length < other) :
    scanLoop fuel text = scanLoop other text := by
  induction fuel generalizing other text with
  | zero => omega
  | succ fuel ih =>
      cases other with
      | zero => omega
      | succ other =>
          cases text with
          | nil => rfl
          | cons char rest =>
              simp only [List.length_cons] at enough alsoEnough
              simp only [scanLoop]
              split
              · exact ih other rest (by omega) (by omega)
              · cases read : readToken char rest with
                | none => rfl
                | some result =>
                    obtain ⟨token, after⟩ := result
                    have shorter := length_of_readToken read
                    simp only [Option.bind_eq_bind, Option.bind_some]
                    rw [ih other after (by omega) (by omega)]

@[simp] theorem scan?_nil : scan? [] = some [] := rfl

/-- Blanks between tokens are passed over. -/
theorem scan?_blank {char : Char} (blank : isBlank char = true) (rest : List Char) :
    scan? (char :: rest) = scan? rest := by
  simp [scan?, scanLoop, blank]

/-- A text that begins with a token has that token and those of its rest. -/
theorem scan?_token {char : Char} {rest after : List Char} {token : Token}
    (solid : isBlank char = false) (read : readToken char rest = some (token, after)) :
    scan? (char :: rest) = (scan? after).map (token :: ·) := by
  have shorter := length_of_readToken read
  have same := scanLoop_congr (rest.length + 1) (after.length + 1) after
    (by omega) (by omega)
  simp only [scan?, List.length_cons, scanLoop, solid, read, Option.bind_eq_bind,
    Option.bind_some, same]
  cases scanLoop (after.length + 1) after <;> rfl

/-- A text of blanks before another one changes nothing. -/
theorem scan?_blanks {blanks : List Char} (blank : ∀ char ∈ blanks, isBlank char = true)
    (rest : List Char) : scan? (blanks ++ rest) = scan? rest := by
  induction blanks with
  | nil => rfl
  | cons char blanks ih =>
      rw [List.cons_append, scan?_blank (blank char (by simp))]
      exact ih fun other member => blank other (by simp [member])

end LogSieve.Json

import Mathlib.Tactic.SplitIfs
import LogSieve.Proofs.Json.Scanning

/-!
# Spelling of strings and integers

A quoted string is read back as the string, whatever characters it has: quotes,
backslashes and control characters are escaped on the way out, and an escape
sequence of four digits below the blank is no half of a surrogate pair.  The
digits of an integer are read back as that integer wherever nothing follows that
would continue a number.
-/

namespace LogSieve.Json

open LogSieve.Text

/-! ## Strings -/

/-- The element of a string that a written character is read as. -/
def unitOf (char : Char) : StringUnit :=
  if char.toNat < 0x20 ∧ char ∉ ['\x08', '\x0c', '\n', '\r', '\t'] then .unit char.toNat
  else .char char

theorem hexDigit?_hexChar : ∀ digit < 16, hexDigit? (hexChar digit) = some digit := by
  decide

theorem readUnits_plain {char : Char} (notQuote : char ≠ '"') (notBackslash : char ≠ '\\')
    (visible : ¬char.toNat < 0x20) (tail : List Char) :
    readUnits (char :: tail) =
      (readUnits tail).map fun (units, after) => (.char char :: units, after) := by
  rw [readUnits]
  · simp only [visible, beq_false_of_ne notBackslash, decide_false, Bool.or_self,
      Bool.false_eq_true, if_false, Option.bind_eq_bind]
    cases readUnits tail <;> rfl
  · exact notQuote
  · exact fun _ _ _ _ _ equal => absurd equal notBackslash
  · exact fun _ _ equal => absurd equal notBackslash

theorem readUnits_escaped {letter char : Char} (found : escapedChar? letter = some char)
    (tail : List Char) :
    readUnits ('\\' :: letter :: tail) =
      (readUnits tail).map fun (units, after) => (.char char :: units, after) := by
  rw [readUnits]
  · simp only [found, Option.bind_eq_bind, Option.bind_some]
    cases readUnits tail <;> rfl
  · rintro _ _ _ _ _ rfl
    simp [escapedChar?] at found

theorem readUnits_hex {high low : Nat} (highSmall : high < 16) (lowSmall : low < 16)
    (tail : List Char) :
    readUnits (['\\', 'u', '0', '0', hexChar high, hexChar low] ++ tail) =
      (readUnits tail).map fun (units, after) => (.unit (high * 16 + low) :: units, after) := by
  have zero : hexDigit? '0' = some 0 := by decide
  simp only [List.cons_append, List.nil_append, readUnits, zero, hexDigit?_hexChar high highSmall,
    hexDigit?_hexChar low lowSmall, Option.bind_eq_bind, Option.bind_some, Nat.zero_mul,
    Nat.zero_add]
  cases readUnits tail <;> rfl

/-- A written character is read as one element. -/
theorem readUnits_escapeChar (char : Char) (tail : List Char) :
    readUnits (escapeChar char ++ tail) =
      (readUnits tail).map fun (units, after) => (unitOf char :: units, after) := by
  rw [escapeChar]
  split_ifs with quote backslash backspace formFeed lineFeed carriageReturn tab control
  case pos | pos | pos | pos | pos | pos | pos =>
    subst_vars
    exact readUnits_escaped (by rfl) tail
  · have bounded : char.toNat / 16 < 16 := by omega
    rw [readUnits_hex bounded (Nat.mod_lt _ (by decide)), Nat.div_add_mod']
    simp [unitOf, control, backspace, formFeed, lineFeed, carriageReturn, tab]
  · rw [List.singleton_append, readUnits_plain quote backslash control]
    simp [unitOf, control]

theorem assemble_unitOf (char : Char) (units : List StringUnit) :
    assemble (unitOf char :: units) = (assemble units).map (char :: ·) := by
  rw [unitOf]
  split
  · next escaped =>
      have notHigh : isHighSurrogate char.toNat = false := by
        simp only [isHighSurrogate, Bool.and_eq_false_iff, decide_eq_false_iff_not]
        omega
      have notLow : isLowSurrogate char.toNat = false := by
        simp only [isLowSurrogate, Bool.and_eq_false_iff, decide_eq_false_iff_not]
        omega
      -- Whether the element after it is a unit decides which equation applies.
      cases units with
      | nil => simp [assemble, notHigh, notLow]
      | cons next rest => cases next <;> simp [assemble, notHigh, notLow]
  · rfl

/-- The elements of a written text are read up to its closing quote. -/
theorem readUnits_flatMap_escapeChar (chars rest : List Char) :
    readUnits (chars.flatMap escapeChar ++ '"' :: rest) = some (chars.map unitOf, rest) := by
  induction chars with
  | nil => simp [readUnits]
  | cons char chars ih =>
      rw [List.flatMap_cons, List.append_assoc, readUnits_escapeChar, ih]
      rfl

@[simp] theorem assemble_map_unitOf (chars : List Char) :
    assemble (chars.map unitOf) = some chars := by
  induction chars with
  | nil => rfl
  | cons char chars ih => rw [List.map_cons, assemble_unitOf, ih, Option.map_some]

/-- A quoted string is one token, and it has its text. -/
theorem scan?_quote (text : String) (rest : List Char) :
    scan? (quote text ++ rest) = (scan? rest).map (.string (some text) :: ·) := by
  have read : readToken '"' (text.toList.flatMap escapeChar ++ '"' :: rest) =
      some (.string (some text), rest) := by
    simp [readToken, readString, readUnits_flatMap_escapeChar]
  simpa [quote] using scan?_token (by decide) read

/-! ## Numbers -/

/-- A rest of a text that does not continue a number before it. -/
def Delimits (rest : List Char) : Prop :=
  ∀ char ∈ rest.head?, char.isDigit = false ∧ char ≠ '.' ∧ char ≠ 'e' ∧ char ≠ 'E'

@[simp] theorem delimits_nil : Delimits [] := by
  simp [Delimits]

@[simp] theorem delimits_cons {char : Char} {rest : List Char} :
    Delimits (char :: rest) ↔
      char.isDigit = false ∧ char ≠ '.' ∧ char ≠ 'e' ∧ char ≠ 'E' := by
  simp [Delimits]

/-- The numeral as which the digits of an integer are read. -/
def Numeral.ofInt (value : Int) : Numeral :=
  { negative := value < 0, mantissa := value.natAbs, exponent := 0, plain := true }

/-- A numeral as it is read back: the exponent of a plain one is not written. -/
def Numeral.spelt (numeral : Numeral) : Numeral :=
  { numeral with exponent := if numeral.plain then 0 else numeral.exponent }

theorem isDigit_of_mem_digitsOf (value : Nat) {char : Char} (member : char ∈ digitsOf value) :
    char.isDigit = true :=
  Nat.isDigit_of_mem_toDigits (by decide) (by decide) member

@[simp] theorem valueOfDigits_digitsOf (value : Nat) : valueOfDigits (digitsOf value) = value :=
  Nat.ofDigitChars_ten_toDigits

@[simp] theorem digitsOf_ne_nil (value : Nat) : digitsOf value ≠ [] := Nat.toDigits_ne_nil

/-- Digits have a first one. -/
theorem exists_digitsOf_eq_cons (value : Nat) :
    ∃ char digits, digitsOf value = char :: digits ∧ char.isDigit = true := by
  obtain ⟨char, digits, written⟩ := List.exists_cons_of_ne_nil (digitsOf_ne_nil value)
  exact ⟨char, digits, written, isDigit_of_mem_digitsOf value (by simp [written])⟩

/-- Only zero is written with a zero in front. -/
theorem head?_digitsOf_ne {value : Nat} (positive : 0 < value) :
    (digitsOf value).head? ≠ some '0' := by
  induction value using Nat.strongRecOn with
  | _ value ih =>
      rw [digitsOf, Nat.toDigits_eq_if (by decide)]
      split
      next small =>
        have nonzero : ∀ digit < 10, 0 < digit → Nat.digitChar digit ≠ '0' := by decide
        simpa using nonzero value small positive
      next large =>
        have shorter : 0 < value / 10 := by omega
        rw [List.head?_append, Option.or_of_isSome (by simp)]
        exact ih (value / 10) (by omega) shorter

section Digits

variable {tail : List Char} (ended : ∀ char ∈ tail.head?, char.isDigit = false)
include ended

theorem takeWhile_isDigit_digitsOf (value : Nat) :
    (digitsOf value ++ tail).takeWhile Char.isDigit = digitsOf value := by
  rw [List.takeWhile_append_of_pos fun _ => isDigit_of_mem_digitsOf value]
  cases tail with
  | nil => simp
  | cons char tail => simp [ended char rfl]

theorem dropWhile_isDigit_digitsOf (value : Nat) :
    (digitsOf value ++ tail).dropWhile Char.isDigit = tail := by
  rw [List.dropWhile_append_of_pos fun _ => isDigit_of_mem_digitsOf value]
  cases tail with
  | nil => simp
  | cons char tail => simp [ended char rfl]

/-- Digits that no point follows are the mantissa of a number. -/
theorem readUnsigned_digitsOf (noPoint : tail.head? ≠ some '.') (negative : Bool)
    (value : Nat) :
    readUnsigned negative (digitsOf value ++ tail) =
      (readExponent tail).map fun (exponent, rest) =>
        ({ negative, mantissa := value, exponent := exponent.getD 0,
           plain := exponent.isNone }, rest) := by
  have noZero : ((digitsOf value).head? == some '0' && 1 < (digitsOf value).length) = false := by
    rcases Nat.eq_zero_or_pos value with rfl | positive
    · rfl
    · simp [head?_digitsOf_ne positive]
  have noFraction : readFraction tail = some (none, tail) := by
    rw [readFraction]
    rintro other rfl
    exact noPoint rfl
  simp only [readUnsigned, takeWhile_isDigit_digitsOf ended, dropWhile_isDigit_digitsOf ended,
    noFraction, noZero, List.isEmpty_eq_false_iff.mpr (digitsOf_ne_nil value), Bool.or_self,
    Bool.false_eq_true, if_false, Option.bind_eq_bind, Option.bind_some]
  cases readExponent tail <;> simp

end Digits

theorem readExponent_of_delimits {rest : List Char} (delimited : Delimits rest) :
    readExponent rest = some (none, rest) := by
  cases rest with
  | nil => rfl
  | cons char rest =>
      have noExponent := (delimited char rfl).2.2
      simp [readExponent, noExponent.1, noExponent.2]

theorem readExponentDigits_digitsOf (negative : Bool) (value : Nat) {rest : List Char}
    (delimited : Delimits rest) :
    readExponentDigits negative (digitsOf value ++ rest) =
      some (some (if negative then -(value : Int) else value), rest) := by
  have ended : ∀ char ∈ rest.head?, char.isDigit = false :=
    fun char first => (delimited char first).1
  simp [readExponentDigits, takeWhile_isDigit_digitsOf ended, dropWhile_isDigit_digitsOf ended]

theorem readExponent_integerDigits (value : Int) {rest : List Char}
    (delimited : Delimits rest) :
    readExponent ('e' :: integerDigits value ++ rest) = some (some value, rest) := by
  rw [integerDigits]
  split
  next negative =>
    simp only [readExponent, List.cons_append, true_or, if_true]
    rw [readExponentDigits_digitsOf _ _ delimited]
    simp only [if_true]
    congr 3
    omega
  next nonnegative =>
    obtain ⟨char, digits, written, isDigit⟩ := exists_digitsOf_eq_cons value.natAbs
    have unsigned := readExponentDigits_digitsOf false value.natAbs delimited
    rw [written] at unsigned ⊢
    simp only [readExponent, List.cons_append, true_or, if_true]
    split
    · next equal =>
        rw [(List.cons.inj equal).1] at isDigit
        simp [Char.isDigit] at isDigit
    · next equal =>
        rw [(List.cons.inj equal).1] at isDigit
        simp [Char.isDigit] at isDigit
    · rw [List.cons_append] at unsigned
      rw [unsigned]
      simp only [Bool.false_eq_true, if_false]
      congr 3
      omega

/-- A digit or a minus sign begins a number. -/
theorem readToken_of_begins {char : Char} (begins : char.isDigit = true ∨ char = '-')
    (rest : List Char) :
    readToken char rest =
      (readNumeral (char :: rest)).map fun (numeral, rest) => (.number numeral, rest) := by
  simp only [readToken]
  split
  case h_11 => rfl
  all_goals simp [Char.isDigit] at begins

theorem isBlank_eq_false_of_begins {char : Char} (begins : char.isDigit = true ∨ char = '-') :
    isBlank char = false := by
  simp only [isBlank, Bool.or_eq_false_iff, beq_eq_false_iff_ne]
  refine ⟨⟨⟨?_, ?_⟩, ?_⟩, ?_⟩ <;> (rintro rfl; simp [Char.isDigit] at begins)

/-- A number with its sign is one token, as its part without the sign is read. -/
theorem scan?_signed (negative : Bool) (value : Nat) {tail rest : List Char}
    {numeral : Numeral}
    (read : readUnsigned negative (digitsOf value ++ tail) = some (numeral, rest)) :
    scan? ((if negative then ['-'] else []) ++ digitsOf value ++ tail) =
      (scan? rest).map (.number numeral :: ·) := by
  cases negative with
  | true =>
      apply scan?_token (isBlank_eq_false_of_begins (.inr rfl))
      simp [readToken_of_begins (.inr rfl), readNumeral_minus, read]
  | false =>
      obtain ⟨char, digits, written, isDigit⟩ := exists_digitsOf_eq_cons value
      have notMinus : char ≠ '-' := by
        rintro rfl
        simp [Char.isDigit] at isDigit
      rw [written, List.cons_append] at read
      simp only [written, Bool.false_eq_true, if_false, List.nil_append, List.cons_append]
      apply scan?_token (isBlank_eq_false_of_begins (.inl isDigit))
      rw [readToken_of_begins (.inl isDigit), readNumeral_of_head_ne (by simpa using notMinus),
        read, Option.map_some]

/-- The digits of an integer are one token wherever they end. -/
theorem scan?_integerDigits (value : Int) {rest : List Char} (delimited : Delimits rest) :
    scan? (integerDigits value ++ rest) =
      (scan? rest).map (.number (.ofInt value) :: ·) := by
  have digits : integerDigits value =
      (if decide (value < 0) then ['-'] else []) ++ digitsOf value.natAbs := by
    rw [integerDigits]
    by_cases negative : value < 0 <;> simp [negative]
  rw [digits]
  apply scan?_signed
  rw [readUnsigned_digitsOf (fun char first => (delimited char first).1)
    (fun point => (delimited '.' point).2.1 rfl), readExponent_of_delimits delimited]
  rfl

/-- A number as mantissa and exponent is one token wherever it ends. -/
theorem scan?_numeral (numeral : Numeral) {rest : List Char} (delimited : Delimits rest) :
    scan? (numeral.chars ++ rest) = (scan? rest).map (.number numeral.spelt :: ·) := by
  rw [Numeral.chars, List.append_assoc]
  apply scan?_signed
  cases plain : numeral.plain with
  | true =>
      simp only [if_true, List.nil_append]
      rw [readUnsigned_digitsOf (fun char first => (delimited char first).1)
        (fun point => (delimited '.' point).2.1 rfl), readExponent_of_delimits delimited]
      simp [Numeral.spelt, plain]
  | false =>
      simp only [Bool.false_eq_true, if_false]
      rw [readUnsigned_digitsOf (by simp [Char.isDigit]) (by simp),
        readExponent_integerDigits _ delimited]
      simp [Numeral.spelt, plain]

end LogSieve.Json

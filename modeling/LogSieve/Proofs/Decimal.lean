import Mathlib
import LogSieve.Text.Decimal

/-!
# Integers in decimal

What it means that a text is an integer in decimal, apart from any reader: digits, at least one,
perhaps after a sign.  The strict reader accepts exactly these texts, as far as the integer fits.
-/

namespace LogSieve.Text

/-- The number that digits stand for in base ten, the most significant one first. -/
def numberOf (digits : List Char) : Nat :=
  Nat.ofDigits 10 (digits.map fun digit => digit.toNat - '0'.toNat).reverse

theorem numberOf_concat (digits : List Char) (digit : Char) :
    numberOf (digits ++ [digit]) = 10 * numberOf digits + (digit.toNat - '0'.toNat) := by
  rw [numberOf, List.map_append, List.reverse_append]
  exact Nat.ofDigits_cons.trans (Nat.add_comm _ _)

theorem valueOfDigits_eq_numberOf (digits : List Char) :
    valueOfDigits digits = numberOf digits := by
  -- Both take the digits in their order, so the induction is on the last one.
  induction digits using List.reverseRecOn with
  | nil => rfl
  | append_singleton digits digit ih =>
      rw [numberOf_concat, ← ih, valueOfDigits, List.foldl_append]
      rfl

/-- Digits, at least one. -/
def AreDigits (digits : List Char) : Prop := digits ≠ [] ∧ ∀ char ∈ digits, char.isDigit = true

/-- How an integer is written in decimal. -/
inductive Spells : List Char → Int → Prop
  | unsigned {digits : List Char} (areDigits : AreDigits digits) : Spells digits (numberOf digits)
  | plus {digits : List Char} (areDigits : AreDigits digits) :
      Spells ('+' :: digits) (numberOf digits)
  | minus {digits : List Char} (areDigits : AreDigits digits) :
      Spells ('-' :: digits) (-(numberOf digits : Int))

theorem areDigits_iff {digits : List Char} :
    AreDigits digits ↔ (digits.isEmpty || !digits.all Char.isDigit) = false := by
  simp [AreDigits]

/-- A magnitude is read from digits for a number within the limit, and from nothing else. -/
theorem readMagnitude_eq_ok_iff {limit : Nat} {error : IntegerError} {digits : List Char}
    {value : Nat} :
    readMagnitude limit error digits = .ok value ↔
      AreDigits digits ∧ value = numberOf digits ∧ value ≤ limit := by
  rw [readMagnitude]
  by_cases areDigits : AreDigits digits
  · have taken : digits.takeWhile Char.isDigit = digits :=
      List.takeWhile_eq_self_iff.mpr areDigits.2
    rw [taken, areDigits_iff.mp areDigits, valueOfDigits_eq_numberOf]
    by_cases large : limit < numberOf digits
    · rw [if_pos large]
      constructor
      · intro read
        cases read
      · intro spelled
        exact absurd (spelled.2.1 ▸ spelled.2.2) (Nat.not_le.mpr large)
    · rw [if_neg large]
      constructor
      · intro read
        cases read
        exact ⟨areDigits, rfl, Nat.not_lt.mp large⟩
      · intro spelled
        rw [spelled.2.1]
        rfl
  · -- Whatever stands before the first other character, the text is refused.
    rw [areDigits_iff, Bool.not_eq_false] at areDigits
    rw [areDigits]
    constructor
    · intro read
      split at read
      · cases read
      · cases read
    · intro spelled
      rw [areDigits_iff.mp spelled.1] at areDigits
      cases areDigits

theorem isDigit_of_starts {digits rest : List Char} {sign : Char} (areDigits : AreDigits digits)
    (starts : digits = sign :: rest) : sign.isDigit = true := by
  apply areDigits.2
  rw [starts]
  exact List.mem_cons_self

/-- A text without a sign is read as digits. -/
theorem readInteger_of_areDigits {below above : Nat} {text : String}
    (areDigits : AreDigits text.toList) :
    readInteger below above text =
      (readMagnitude above .tooLarge text.toList).map Int.ofNat := by
  rw [readInteger]
  split
  · next empty => exact absurd empty areDigits.1
  · next starts => cases isDigit_of_starts areDigits starts
  · next starts => cases isDigit_of_starts areDigits starts
  · rfl

theorem map_readMagnitude_eq_ok_iff {limit : Nat} {error : IntegerError} {digits : List Char}
    {sign : Nat → Int} {value : Int} :
    (readMagnitude limit error digits).map sign = .ok value ↔
      AreDigits digits ∧ value = sign (numberOf digits) ∧ numberOf digits ≤ limit := by
  cases read : readMagnitude limit error digits with
  | ok magnitude =>
      rcases readMagnitude_eq_ok_iff.mp read with ⟨areDigits, rfl, small⟩
      simp [Except.map, areDigits, small, eq_comm]
  | error refused =>
      constructor
      · intro mapped
        cases mapped
      · intro spelled
        have shown : readMagnitude limit error digits = .ok (numberOf digits) :=
          readMagnitude_eq_ok_iff.mpr ⟨spelled.1, rfl, spelled.2.2⟩
        rw [shown] at read
        cases read

/-- Exactly the integers between the bounds are read, from the texts that spell them. -/
theorem readInteger_eq_ok_iff {below : Nat} (signed : below ≠ 0) (above : Nat) (text : String)
    {value : Int} :
    readInteger below above text = .ok value ↔
      Spells text.toList value ∧ -(below : Int) ≤ value ∧ value ≤ above := by
  constructor
  · intro read
    rw [readInteger] at read
    split at read
    · cases read
    · next digits starts =>
        rcases map_readMagnitude_eq_ok_iff.mp read with ⟨areDigits, rfl, small⟩
        rw [starts]
        exact ⟨.plus areDigits, by simp, by simpa using small⟩
    · next digits starts =>
        rw [if_neg signed] at read
        rcases map_readMagnitude_eq_ok_iff.mp read with ⟨areDigits, rfl, small⟩
        rw [starts]
        exact ⟨.minus areDigits, by simpa using small, by simp⟩
    · rcases map_readMagnitude_eq_ok_iff.mp read with ⟨areDigits, rfl, small⟩
      exact ⟨.unsigned areDigits, by simp, by simpa using small⟩
  · intro spelled
    rcases spelled with ⟨spells, least, most⟩
    generalize written : text.toList = chars at spells
    cases spells with
    | unsigned areDigits =>
        subst written
        rw [readInteger_of_areDigits areDigits]
        exact map_readMagnitude_eq_ok_iff.mpr ⟨areDigits, rfl, by omega⟩
    | plus areDigits =>
        rw [readInteger, written]
        exact map_readMagnitude_eq_ok_iff.mpr ⟨areDigits, rfl, by omega⟩
    | minus areDigits =>
        rw [readInteger, written]
        simp only [if_neg signed]
        exact map_readMagnitude_eq_ok_iff.mpr ⟨areDigits, rfl, by omega⟩

/-- A text is read as an integer of 64 bits if and only if it spells that integer. -/
theorem readInt64_eq_ok_iff {text : String} {value : Int64} :
    readInt64 text = .ok value ↔ Spells text.toList value.toInt := by
  have signed : UInt64.size / 2 ≠ 0 := by decide
  have integer (whole : Int) :
      readInteger (UInt64.size / 2) (UInt64.size / 2 - 1) text = .ok whole ↔
        Spells text.toList whole ∧ -2 ^ 63 ≤ whole ∧ whole ≤ 2 ^ 63 - 1 :=
    readInteger_eq_ok_iff signed (UInt64.size / 2 - 1) text
  rw [readInt64]
  constructor
  · intro read
    cases shown : readInteger (UInt64.size / 2) (UInt64.size / 2 - 1) text with
    | error error =>
        rw [shown] at read
        cases read
    | ok whole =>
        rw [shown] at read
        cases read
        rcases (integer whole).mp shown with ⟨spells, least, most⟩
        rw [Int64.toInt_ofInt_of_le least (by omega)]
        exact spells
  · intro spells
    have least := value.le_toInt
    have most := value.toInt_lt
    rw [(integer value.toInt).mpr ⟨spells, least, by omega⟩]
    exact congrArg Except.ok (Int64.ofInt_toInt value)

end LogSieve.Text

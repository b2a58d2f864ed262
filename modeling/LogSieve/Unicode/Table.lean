import LogSieve.Unicode.Charset

/-!
# Tables of code points

The written form of the property tables: a set is a list of hexadecimal numbers that gives, in
turn, the gap before a run of members and the length of the run.
-/

namespace LogSieve.Unicode

/-- A named set of code points in written form. The names are in lower case, without blanks,
hyphens and underscores. -/
structure Entry where
  names : List String
  runs : String
deriving Inhabited

/-- The value of a hexadecimal digit in lower case, and zero for any other character. -/
def hexDigit (char : Char) : Nat :=
  if '0' ≤ char ∧ char ≤ '9' then char.toNat - '0'.toNat
  else if 'a' ≤ char ∧ char ≤ 'f' then char.toNat - 'a'.toNat + 10
  else 0

/-- Reads hexadecimal numbers divided by blanks or line breaks; `pending` is the one begun. -/
def numbersFrom (pending : Option Nat) : List Char → List Nat
  | [] => pending.toList
  | char :: rest =>
      if char = ' ' ∨ char = '\n' then pending.toList ++ numbersFrom none rest
      else numbersFrom (some (16 * pending.getD 0 + hexDigit char)) rest

/-- Reads the numbers of a text. -/
def readNumbers (text : String) : List Nat := numbersFrom none text.toList

/-- Reads groups of numbers divided by semicolons. -/
def readGroups (text : String) : List (List Nat) := (text.splitOn ";").map readNumbers

/-- Turns gaps and lengths into ranges; `start` is the first code point after the last run. -/
def runsFrom (start : Nat) : List Nat → List Range
  | gap :: length :: rest =>
      ⟨start + gap, start + gap + length - 1⟩ :: runsFrom (start + gap + length) rest
  | _ => []

/-- The set that a text of gaps and lengths describes. -/
def readRuns (text : String) : Charset := ⟨runsFrom 0 (readNumbers text)⟩

/-- The set that an entry describes. -/
def Entry.charset (entry : Entry) : Charset := readRuns entry.runs

/-- The set of the entry with a given name. -/
def lookup (table : List Entry) (name : String) : Option Charset :=
  (table.find? (·.names.contains name)).map Entry.charset

end LogSieve.Unicode

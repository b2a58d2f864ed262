import LogSieve.Record
import LogSieve.Regex.Matching
import LogSieve.Regex.Parser

/-!
# Matchers

A matcher asks one thing of a record: that the value of a field equals a text, or that a pattern
matches the whole of it. What has to be prepared for the test is made on the first use and kept with
the matcher.
-/

namespace LogSieve

open LogSieve.Text

/-- How a matcher compares. -/
inductive Operator where
  | equal
  | regex
  | unsupported
deriving DecidableEq, Inhabited

namespace Operator

/-- The sign of an operator. -/
def sign : Operator → String
  | .equal => "="
  | .regex => "=~"
  | .unsupported => "?"

/-- The operator of a stored name; unknown names are kept as unsupported. -/
def ofName (name : String) : Operator :=
  if name = "=" then .equal else if name = "=~" then .regex else .unsupported

/-- The name under which an operator is stored. -/
def name : Operator → String
  | .equal => "="
  | .regex => "=~"
  | .unsupported => "Unsupported"

end Operator

/-- A prepared test of a value. -/
inductive Predicate where
  | exact
  | matching (pattern : Regex.Pattern)
  | never

namespace Predicate

/-- The text of the pattern that asks for the whole of a value. -/
def anchored (value : String) : List Char := "^(?:".toList ++ value.toList ++ ")$".toList

/-- Prepares the test of an operator and its operand. A malformed pattern matches nothing. -/
def compile (operator : Operator) (value : String) : Predicate :=
  match operator with
  | .equal => .exact
  | .regex => match Regex.parse? (anchored value) with
      | some pattern => .matching pattern
      | none => .never
  | .unsupported => .never

/-- Whether preparing the test finds a malformed pattern. -/
def refuses (operator : Operator) (value : String) : Bool :=
  operator == .regex && (Regex.parse? (anchored value)).isNone

/-- Tests a candidate; `value` is the operand of the matcher. -/
def test (predicate : Predicate) (value candidate : String) : Bool :=
  match predicate with
  | .exact => candidate == value
  | .matching pattern => pattern.occursIn candidate.toList
  | .never => false

/-- The kind of a test. -/
def kind : Predicate → String
  | .exact => "exact"
  | .matching _ => "regex"
  | .never => "never"

end Predicate

/-- A condition on a field. -/
structure Matcher where
  field : String := ""
  operator : Operator := .equal
  value : String := ""
  /-- The prepared test, once there is one. It stays when the operator or the operand changes. -/
  compiled : Option Predicate := none
deriving Inhabited

namespace Matcher

/-- Two matchers are the same if they ask the same thing. -/
instance : BEq Matcher where
  beq first second :=
    first.field == second.field && first.operator == second.operator && first.value == second.value

/-- A matcher for equality. -/
def equal (field value : String) : Matcher := { field, value }

/-- A matcher for a pattern. -/
def regex (field pattern : String) : Matcher := { field, operator := .regex, value := pattern }

/-- Without field and value a matcher asks for nothing. -/
def isPlaceholder (matcher : Matcher) : Bool := matcher.field.isEmpty && matcher.value.isEmpty

/-- The test that a matcher makes. -/
def predicate (matcher : Matcher) : Predicate :=
  matcher.compiled.getD (.compile matcher.operator matcher.value)

/-- Whether a value passes the test. -/
def accepts (matcher : Matcher) (candidate : String) : Bool :=
  matcher.predicate.test matcher.value candidate

/-- Whether a record satisfies a matcher. -/
def holds (matcher : Matcher) (record : Record) : Bool :=
  matcher.isPlaceholder || (record.resolve? matcher.field).any matcher.accepts

/-- Whether a text occurs in the operand. -/
def mentions (matcher : Matcher) (needle : String) : Bool := contains matcher.value needle

/-- The matcher after its first use. -/
def prepared (matcher : Matcher) : Matcher := { matcher with compiled := some matcher.predicate }

/-- The matcher without its prepared test. -/
def forget (matcher : Matcher) : Matcher := { matcher with compiled := none }

/-- The malformed pattern that the first use finds. -/
def refusal? (matcher : Matcher) : Option String :=
  if matcher.compiled.isNone && Predicate.refuses matcher.operator matcher.value then
    some matcher.value
  else none

/-- Whether judging a record comes to the test of a value. -/
def consults (matcher : Matcher) (record : Record) : Bool :=
  !matcher.isPlaceholder && (record.resolve? matcher.field).isSome

/-- The matcher after judging a record, and the malformed patterns found on the way. -/
def afterJudging (matcher : Matcher) (record : Record) : Matcher × List String :=
  if matcher.consults record then (matcher.prepared, matcher.refusal?.toList) else (matcher, [])

end Matcher

end LogSieve

import LogSieve.Rule.Matcher

/-!
# Rules

A rule is a list of matchers with a judgement: a record that satisfies all of them is of interest
(ham) or noise (spam).
-/

namespace LogSieve

open LogSieve.Text

/-- A rule for judging records. -/
structure Rule where
  /-- Zero until the rule is stored. -/
  id : UInt64 := 0
  disabled : Bool := false
  ham : Bool := false
  matchers : List Matcher := []
  comment : String := ""
  /-- Raised by every stored change. -/
  version : UInt64 := 0
deriving BEq, Inhabited

namespace Rule

/-- A rule that is not stored yet. -/
def make (ham : Bool) (matchers : List Matcher) : Rule := { ham, matchers }

/-- The rule with a comment. -/
def withComment (rule : Rule) (comment : String) : Rule := { rule with comment }

/-- Whether a rule is enabled and a record satisfies all its matchers. -/
def holds (rule : Rule) (record : Record) : Bool :=
  !rule.disabled && rule.matchers.all (·.holds record)

/-- Whether a text occurs in the comment or in an operand. -/
def mentions (rule : Rule) (needle : String) : Bool :=
  contains rule.comment needle || rule.matchers.any (·.mentions needle)

/-- The field that tells where a record comes from. -/
def sourceField : String := "source"

/-- Operator and operand of the first matcher on the source; empty without one. -/
def sourceText (rule : Rule) : String :=
  match rule.matchers.find? (·.field == sourceField) with
  | some matcher => matcher.operator.sign ++ matcher.value
  | none => ""

/-- The rule without prepared tests. -/
def forget (rule : Rule) : Rule := { rule with matchers := rule.matchers.map Matcher.forget }

/-- The matchers after judging a record, which goes on until one fails, and the malformed patterns
found on the way. -/
def judgeMatchers (record : Record) : List Matcher → List Matcher × List String
  | [] => ([], [])
  | matcher :: rest =>
      let (used, refused) := matcher.afterJudging record
      if matcher.holds record then
        let (usedRest, refusedRest) := judgeMatchers record rest
        (used :: usedRest, refused ++ refusedRest)
      else (used :: rest, refused)

/-- The rule after judging a record, and the malformed patterns found on the way. -/
def afterJudging (rule : Rule) (record : Record) : Rule × List String :=
  if rule.disabled then (rule, [])
  else
    let (matchers, refused) := judgeMatchers record rule.matchers
    ({ rule with matchers }, refused)

end Rule

/-- The linear scan: the first rule in the order of the list that holds. -/
def firstMatch? (rules : List Rule) (record : Record) : Option Rule :=
  rules.find? (·.holds record)

/-- Judges a record by the rules at the given positions in turn, until one holds: the position of
that one, the rules afterwards, and the malformed patterns found on the way. -/
def judgeAt (record : Record) : List Nat → List Rule → Option Nat × List Rule × List String
  | [], rules => (none, rules, [])
  | position :: rest, rules =>
      match rules[position]? with
      | none => judgeAt record rest rules
      | some rule =>
          let (used, refused) := rule.afterJudging record
          let rules := rules.set position used
          if rule.holds record then (some position, rules, refused)
          else
            let (found, rules, refusedRest) := judgeAt record rest rules
            (found, rules, refused ++ refusedRest)

end LogSieve

import LogSieve.Rule.Basic

/-!
# Verdicts

What a record is, by the rule that holds for it.
-/

namespace LogSieve

/-- The outcome of judging a record. -/
inductive Verdict where
  /-- No rule holds. -/
  | unknown
  /-- Of interest. -/
  | ham
  /-- Noise. -/
  | spam
deriving DecidableEq, Inhabited, Repr

namespace Verdict

/-- The verdict of a rule, or of none. -/
def ofRule : Option Rule → Verdict
  | none => .unknown
  | some rule => if rule.ham then .ham else .spam

/-- The name of a verdict. -/
def name : Verdict → String
  | .unknown => "Unknown"
  | .ham => "Ham"
  | .spam => "Spam"

end Verdict

end LogSieve

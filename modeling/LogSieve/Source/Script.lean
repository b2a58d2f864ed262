import LogSieve.Source.Basic

/-!
# Scripted outcomes

A source whose answers are laid down beforehand, one a question, with the time that each takes. It
keeps what it was asked. After the last answer there is nothing new.
-/

namespace LogSieve

/-- Answers to come and questions put so far. -/
structure Script where
  outcomes : List (Except TriageError (List Record))
  asked : List (Option Int64) := []
  /-- How long the answers take, in nanoseconds; those after the last entry come at once. -/
  delays : List Nat := []
deriving Inhabited

namespace Script

/-- The next answer. -/
def next (script : Script) (after : Option Int64) : Except TriageError (List Record) × Script :=
  let asked := script.asked ++ [after]
  let delays := script.delays.tail
  match script.outcomes with
  | outcome :: outcomes => (outcome, { outcomes, asked, delays })
  | [] => (.ok [], { outcomes := [], asked, delays })

instance : LogSource Script where
  kind _ := "scripted"
  fetch := next
  delay script _ := script.delays.headD 0

end Script

end LogSieve

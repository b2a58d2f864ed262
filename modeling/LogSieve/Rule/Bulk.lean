import LogSieve.Rule.Basic

/-!
# Bulk matching

Most rules ask for the value of one and the same field. Such rules are filed in buckets by that
value, so that a record is held only against rules that can match it; the order of the rules is
kept. A bulk matcher names rules by their positions in the list it was built from.

The bulk matcher finds the rule of the linear scan `firstMatch?`, unless a matcher for equality
still tests by a pattern that it had before.
-/

namespace LogSieve

/-- Whether a matcher can file its rule: it asks for equality and is no placeholder. -/
def Matcher.isExact (matcher : Matcher) : Bool :=
  matcher.operator == .equal && !matcher.isPlaceholder

namespace Bulk

/-- A part of a bulk matcher: rules filed by a value, or one rule for every record. -/
inductive Unit where
  | bucket (entries : List (String × List Nat))
  | single (position : Nat)
deriving DecidableEq, Repr

/-- Counts one more occurrence of a field. -/
def count (field : String) : List (String × Nat) → List (String × Nat)
  | [] => [(field, 1)]
  | (other, amount) :: rest =>
      if other = field then (other, amount + 1) :: rest else (other, amount) :: count field rest

/-- The fields of the exact matchers of the enabled rules, each as often as it occurs. -/
def exactFields (rules : List Rule) : List String :=
  (rules.filter (!·.disabled)).flatMap fun rule =>
    (rule.matchers.filter Matcher.isExact).map (·.field)

/-- How often each field occurs. -/
def tally (rules : List Rule) : List (String × Nat) :=
  (exactFields rules).foldl (fun counts field => count field counts) []

/-- Whether a field is a better choice than another: it occurs more often, or as often and has the
smaller name. -/
def isBetter (first second : String × Nat) : Bool :=
  second.2 < first.2 || (first.2 == second.2 && first.1 < second.1)

/-- The best of some counted fields. -/
def best? (counts : List (String × Nat)) : Option (String × Nat) :=
  counts.foldl (fun chosen counted =>
    match chosen with
    | none => some counted
    | some other => if isBetter counted other then some counted else chosen) none

/-- The field by which rules are filed: the one that exact matchers ask for most often, of several
the one with the smallest name. -/
def splitField? (rules : List Rule) : Option String := (best? (tally rules)).map (·.1)

/-- The value under which a rule is filed: the operand of its first exact matcher on the field. -/
def splitValue? (field : String) (rule : Rule) : Option String :=
  (rule.matchers.find? fun matcher => matcher.isExact && matcher.field == field).map (·.value)

/-- Files a position under a value. -/
def file (value : String) (position : Nat) : List (String × List Nat) → List (String × List Nat)
  | [] => [(value, [position])]
  | (other, positions) :: rest =>
      if other = value then (other, positions ++ [position]) :: rest
      else (other, positions) :: file value position rest

/-- A bucket as a unit, unless it is empty. -/
def closeBucket : List (String × List Nat) → List Unit
  | [] => []
  | entries => [.bucket entries]

/-- The units of numbered rules; `bucket` is the one being filled. Disabled rules are left out. -/
def buildUnits (field : Option String) (bucket : List (String × List Nat)) :
    List (Rule × Nat) → List Unit
  | [] => closeBucket bucket
  | (rule, position) :: rest =>
      if rule.disabled then buildUnits field bucket rest
      else
        match field.bind (splitValue? · rule) with
        | some value => buildUnits field (file value position bucket) rest
        | none => closeBucket bucket ++ .single position :: buildUnits field [] rest

end Bulk

/-- A bulk matcher. -/
structure Bulk where
  splitField : Option String
  units : List Bulk.Unit
  /-- How many rules are in buckets. -/
  fastRules : Nat
  /-- How many rules stand alone. -/
  slowRules : Nat
deriving DecidableEq, Inhabited

namespace Bulk

/-- The bulk matcher of a list of rules. -/
def build (rules : List Rule) : Bulk :=
  let field := splitField? rules
  let enabled := rules.filter (!·.disabled)
  let isFast (rule : Rule) := (field.bind (splitValue? · rule)).isSome
  { splitField := field
    units := buildUnits field [] rules.zipIdx
    fastRules := enabled.countP isFast
    slowRules := enabled.countP (!isFast ·) }

/-- The positions that a unit holds against a record whose value of the field is given. -/
def Unit.candidates (value : Option String) : Unit → List Nat
  | .bucket entries => (value.bind fun value => entries.lookup value).getD []
  | .single position => [position]

/-- The positions held against a record, in turn. -/
def candidates (bulk : Bulk) (record : Record) : List Nat :=
  bulk.units.flatMap (Unit.candidates (bulk.splitField.bind record.resolve?))

/-- The position of the first rule that holds for a record. -/
def position? (bulk : Bulk) (rules : List Rule) (record : Record) : Option Nat :=
  (bulk.candidates record).find? fun position => (rules[position]?).any (·.holds record)

/-- The first rule that holds for a record. -/
def match? (bulk : Bulk) (rules : List Rule) (record : Record) : Option Rule :=
  (bulk.position? rules record).bind (rules[·]?)

end Bulk

end LogSieve

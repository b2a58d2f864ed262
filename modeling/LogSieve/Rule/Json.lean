import LogSieve.Json.Decode
import LogSieve.Json.Printer
import LogSieve.Rule.Basic

/-!
# Rules as JSON

The form in which rules are stored.
-/

namespace LogSieve

open LogSieve.Json

namespace Operator

/-- Reads an operator: its name, or an object that holds nothing but the name with no value. -/
def ofTree? : Tree → Option Operator
  | .string name => name.map ofName
  | .object [(name, .null)] => name.map ofName
  | _ => none

end Operator

namespace Matcher

/-- The stored fields of a matcher. -/
def fieldNames : List String := ["Field", "Op", "Value"]

/-- Reads a matcher. -/
def ofTree? (tree : Tree) : Option Matcher := do
  let fields ← tree.fields? fieldNames
  some {
    field := ← fields.optional? 0 "" Tree.string?
    operator := ← fields.optional? 1 .equal Operator.ofTree?
    value := ← fields.optional? 2 "" Tree.string? }

/-- The stored form of a matcher. -/
def toJson (matcher : Matcher) : Value :=
  .object [("Field", .string matcher.field), ("Op", .string matcher.operator.name),
    ("Value", .string matcher.value)]

end Matcher

namespace Rule

/-- The stored fields of a rule. -/
def fieldNames : List String := ["ID", "Disabled", "Ham", "Matchers", "Comment", "Version"]

/-- Reads a rule. -/
def ofTree? (tree : Tree) : Option Rule := do
  let fields ← tree.fields? fieldNames
  some {
    id := ← fields.optional? 0 0 Tree.natural?
    disabled := ← fields.optional? 1 false Tree.bool?
    ham := ← fields.optional? 2 false Tree.bool?
    matchers := ← fields.optional? 3 [] (Tree.list? Matcher.ofTree?)
    comment := ← fields.optional? 4 "" Tree.string?
    version := ← fields.optional? 5 0 Tree.natural? }

/-- The stored form of a rule. -/
def toJson (rule : Rule) : Value :=
  .object [("ID", .integer rule.id.toNat), ("Disabled", .bool rule.disabled),
    ("Ham", .bool rule.ham), ("Matchers", .array (rule.matchers.map Matcher.toJson)),
    ("Comment", .string rule.comment), ("Version", .integer rule.version.toNat)]

/-- Reads a rule from JSON text. -/
def parse? (text : String) : Option Rule := do ofTree? (← Tree.parse? text.toList)

end Rule

end LogSieve

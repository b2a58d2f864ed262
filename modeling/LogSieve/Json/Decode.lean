import LogSieve.Json.Value

/-!
# Reading records from JSON

A record with named fields is read from an object, or from an array that gives the fields in their
order. In an object unknown keys are passed over and no known key may occur twice; an array may
stop early but not hold more than there are fields.
-/

namespace LogSieve.Json

/-- The fields found for a list of names, in its order. -/
structure Fields where
  positional : Bool
  values : List (Option Tree)

/-- Finds the fields with the given names. -/
def Tree.fields? (names : List String) : Tree → Option Fields
  | .object members =>
      let found := names.map fun name => members.filter fun member => member.1 == some name
      if members.any (·.1.isNone) || found.any (1 < ·.length) then none
      else some ⟨false, found.map fun hits => hits.head?.map (·.2)⟩
  | .array items =>
      if items.length ≤ names.length then
        some ⟨true, (List.range names.length).map fun index => items[index]?⟩
      else none
  | _ => none

/-- The tree found for a field. -/
def Fields.get? (fields : Fields) (index : Nat) : Option Tree := fields.values[index]?.join

/-- A field that may be left out. -/
def Fields.optional? {α : Type} (fields : Fields) (index : Nat) (default : α)
    (decode : Tree → Option α) : Option α :=
  match fields.get? index with
  | some tree => decode tree
  | none => some default

/-- A field that must be there. -/
def Fields.required? {α : Type} (fields : Fields) (index : Nat) (decode : Tree → Option α) :
    Option α :=
  (fields.get? index).bind decode

/-- Reads a natural number of 64 bits. -/
def Tree.natural? : Tree → Option UInt64
  | .number numeral => numeral.natural?
  | _ => none

/-- Reads a truth value. -/
def Tree.bool? : Tree → Option Bool
  | .bool value => some value
  | _ => none

/-- Reads a string. -/
def Tree.string? : Tree → Option String
  | .string text => text
  | _ => none

/-- Reads an array item by item. -/
def Tree.list? {α : Type} (decode : Tree → Option α) : Tree → Option (List α)
  | .array items => items.mapM decode
  | _ => none

/-- Reads an object as a map; of several members with one key the last counts. -/
def Tree.map? {α : Type} (decode : Tree → Option α) : Tree → Option (Keyed α)
  | .object members => do
      let pairs ← members.mapM fun (key, tree) => do some (← key, ← decode tree)
      some (Keyed.ofList pairs)
  | _ => none

end LogSieve.Json

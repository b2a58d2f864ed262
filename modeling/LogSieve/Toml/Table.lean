import LogSieve.Toml.Value

/-!
# Building TOML tables

A document is a sequence of statements that define tables and set keys. A table is defined once:
by a header, or by dotted keys in one place. A header may fill in a table that was only passed
through, and lists of tables grow by one table a header.
-/

namespace LogSieve.Toml

/-- A part of a document. -/
inductive Node where
  | value (value : Value)
  /-- A table; `passed` if it was only passed through, `dotted` if it comes from dotted keys. -/
  | table (passed dotted : Bool) (entries : List (String × Node))
  /-- A list of tables, the last one first. -/
  | tables (elements : List (List (String × Node)))
deriving Inhabited

/-- The entries of a table in the making. -/
abbrev Entries := List (String × Node)

/-- Puts a node under a key, in the place of the old one if there is one. -/
def Entries.put (key : String) (node : Node) : Entries → Entries
  | [] => [(key, node)]
  | (other, old) :: rest =>
      if other = key then (key, node) :: rest else (other, old) :: Entries.put key node rest

/-- Changes the table at the end of a path. Tables on the way are made if need be. Dotted keys do
not lead through tables that were defined, but they do lead through lists of tables to the last of
those. -/
def Entries.within (dotted : Bool) (change : Entries → Option Entries) :
    (path : List String) → Entries → Option Entries
  | [], entries => change entries
  | key :: path, entries =>
      match entries.lookup key with
      | none => do
          let inner ← Entries.within dotted change path []
          some (Entries.put key (.table true dotted inner) entries)
      | some (.table passed isDotted inner) =>
          if dotted && !passed then none
          else do
            let inner ← Entries.within dotted change path inner
            some (Entries.put key (.table passed isDotted inner) entries)
      | some (.tables (last :: before)) =>
          if dotted && path.isEmpty then none
          else do
            let last ← Entries.within dotted change path last
            some (Entries.put key (.tables (last :: before)) entries)
      | some (.tables []) | some (.value _) => none

/-- Sets a key at the end of a path of dotted keys, which is not set yet. -/
def Entries.assign (path : List String) (key : String) (value : Value) (entries : Entries) :
    Option Entries :=
  Entries.within true (fun entries =>
    if (entries.lookup key).isSome then none
    else some (Entries.put key (.value value) entries)) path entries

/-- Defines a table by a header. -/
def Entries.define (path : List String) (key : String) (entries : Entries) : Option Entries :=
  Entries.within false (fun entries =>
    match entries.lookup key with
    | none => some (Entries.put key (.table false false []) entries)
    | some (.table true false inner) => some (Entries.put key (.table false false inner) entries)
    | some _ => none) path entries

/-- Adds a table to a list by a header. -/
def Entries.extend (path : List String) (key : String) (entries : Entries) : Option Entries :=
  Entries.within false (fun entries =>
    match entries.lookup key with
    | none => some (Entries.put key (.tables [[]]) entries)
    | some (.tables elements) => some (Entries.put key (.tables ([] :: elements)) entries)
    | some _ => none) path entries

mutual

/-- The value of a node. -/
def Node.toValue : Node → Value
  | .value value => value
  | .table _ _ entries => .table (entryValues entries)
  | .tables elements => .array (tableValues elements).reverse

/-- The values of some entries. -/
def entryValues : List (String × Node) → List (String × Value)
  | [] => []
  | (key, node) :: rest => (key, node.toValue) :: entryValues rest

/-- The values of some tables. -/
def tableValues : List (List (String × Node)) → List Value
  | [] => []
  | entries :: rest => .table (entryValues entries) :: tableValues rest

end

/-- A statement of a document; the last key of a path stands apart. -/
inductive Statement where
  | define (path : List String) (key : String)
  | extend (path : List String) (key : String)
  | assign (path : List String) (key : String) (value : Value)

/-- A document in the making: its entries, and the path of the table that keys are set in. -/
structure Draft where
  entries : Entries := []
  current : List String := []

/-- The entries of the current table changed. Its path leads through what headers made. -/
def Draft.inCurrent? (draft : Draft) (change : Entries → Option Entries) : Option Draft := do
  some { draft with
    entries := ← Entries.within false change draft.current draft.entries }

/-- The document after a statement. -/
def Draft.step? (draft : Draft) : Statement → Option Draft
  | .define path key => do some ⟨← Entries.define path key draft.entries, path ++ [key]⟩
  | .extend path key => do some ⟨← Entries.extend path key draft.entries, path ++ [key]⟩
  | .assign path key value => draft.inCurrent? (Entries.assign path key value)

/-- The entries of a document. -/
def documentOf? (statements : List Statement) : Option (List (String × Value)) := do
  let draft ← statements.foldlM Draft.step? {}
  some (entryValues draft.entries)

/-- The table given by dotted keys and values in braces. -/
def inlineTable? (pairs : List (List String × String × Value)) : Option Value := do
  let entries ← pairs.foldlM (fun entries (path, key, value) =>
    Entries.assign path key value entries) []
  some (.table (entryValues entries))

end LogSieve.Toml

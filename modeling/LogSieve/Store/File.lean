import LogSieve.Json.Bytes
import LogSieve.Rule.Json

/-!
# The file of the rules

Rules and their version as JSON, one line a member, indented by one blank a level.
-/

namespace LogSieve.Store

open LogSieve.Json

/-- What the file holds. -/
structure Contents where
  rules : List Rule := []
  version : UInt64 := 0
deriving Inhabited

namespace Contents

/-- The stored form. -/
def toJson (contents : Contents) : Value :=
  .object [("LogRules", .object [("Rules", .array (contents.rules.map Rule.toJson)),
    ("Version", .integer contents.version.toNat)])]

/-- The bytes of the file. -/
def encode (contents : Contents) : ByteArray := (contents.toJson.toLines 1).toUTF8

/-- Reads the inner part. -/
def ofTree? (tree : Tree) : Option Contents := do
  let fields ← tree.fields? ["Rules", "Version"]
  some {
    rules := ← fields.optional? 0 [] (Tree.list? Rule.ofTree?)
    version := ← fields.optional? 1 0 Tree.natural? }

/-- Reads the whole. -/
def ofFileTree? (tree : Tree) : Option Contents := do
  let fields ← tree.fields? ["LogRules"]
  fields.optional? 0 {} ofTree?

/-- Reads the bytes of a file. -/
def decode? (bytes : ByteArray) : Option Contents := (Tree.parseBytes? bytes).bind ofFileTree?

end Contents

end LogSieve.Store

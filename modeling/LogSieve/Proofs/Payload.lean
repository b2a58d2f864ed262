import LogSieve.Proofs.Record
import LogSieve.Proofs.Traversal

/-!
# Payloads

A payload that is a JSON object with a textual message is taken apart.  Its members are told in the
order of the text, where a key may stand several times; of the members with one key the last counts.
From them follows what a record holds under any name: labels come first, then fields, then the
message under its own name.
-/

namespace LogSieve.Record

open LogSieve.Json

variable {labels : Keyed String} {raw message : String} {members : List (String × Value)}

section Line

variable {timestamp : Int64} {labels : List (String × String)}

end Line

/-! ## Names -/

end LogSieve.Record

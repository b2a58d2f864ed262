import LogSieve.Loki.Response
import LogSieve.Source.Basic
import LogSieve.Url.Address

/-!
# Queries to a log server

The address of a query, its parameters, and what becomes of the answer of a server. No server can be
reached from here: a query as a source of its own ends with the failure to send it.
-/

namespace LogSieve.Loki

open LogSieve.Text

/-- What to ask of which server. -/
structure Query where
  server : String
  selector : String
  /-- How many entries an answer may have. -/
  limit : UInt64
  timeoutSeconds : UInt64 := 30
deriving DecidableEq, Inhabited, Repr

/-- The nearest integer of 64 bits. -/
def clamp (value : Int) : Int := max Int64.minValue.toInt (min value Int64.maxValue.toInt)

/-- The first nanosecond after a microsecond. -/
def startAfter (watermark : Int64) : Int := clamp (clamp (watermark.toInt + 1) * 1000)

/-- A server: the bytes of its answer for the parameters of a query. -/
abbrev Server := List (String × String) → Except String ByteArray

namespace Query

/-- The address that takes queries. -/
def path : String := "/loki/api/v1/query_range"

/-- The address of a query without its parameters. -/
def url (query : Query) : String := trimSlashes query.server ++ path

/-- The parameters of a query for the records after a moment. -/
def parameters (query : Query) (after : Option Int64) : List (String × String) :=
  [("query", query.selector), ("limit", toDecimal query.limit.toNat)] ++
    (after.map fun watermark => ("start", toSignedDecimal (startAfter watermark))).toList

/-- The records of a server's answer; a server that cannot be asked gives a reason. -/
def ask (query : Query) (server : Server) (after : Option Int64) :
    Except TriageError (List Record) :=
  match server (query.parameters after) with
  | .ok bytes => readResponse bytes
  | .error reason => .error (unavailable reason)

/-- Why a query cannot be sent. -/
def failure (query : Query) (after : Option Int64) : String :=
  match Url.Address.parse? query.url with
  | none => "builder error"
  | some address =>
      if !address.hasHost then "builder error for url (" ++ address.toText ++ ")"
      else
        let full := (address.withParameters (query.parameters after)).toText
        if address.scheme = "http" ∨ address.scheme = "https" then
          "error sending request for url (" ++ full ++ ")"
        else "builder error for url (" ++ full ++ ")"

instance : LogSource Query where
  kind _ := kind
  fetch query after := (query.ask (fun _ => .error (query.failure after)) after, query)

end Query

/-- A query with the server that answers it. -/
structure Client where
  query : Query
  server : Server
  /-- How long the server takes for the parameters of a query, in nanoseconds. -/
  latency : List (String × String) → Nat := fun _ => 0

instance : LogSource Client where
  kind _ := kind
  fetch client after := (client.query.ask client.server after, client)
  delay client after := client.latency (client.query.parameters after)

end LogSieve.Loki

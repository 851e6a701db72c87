import BlockBridge.Counters
import BlockBridge.Json.Tree

/-!
# Counter documents

Counters are written as a JSON object with a member for each of them.  When
they are read none may be missing, and each has to fit 64 bits.
-/

namespace BlockBridge

namespace Json

/-- The counters that a JSON value gives under the given names, none missing. -/
def counters? (names : List String) (document : Json) : Option (List Nat) :=
  (document.fields? names).bind fun values =>
    values.mapM fun value => value.bind (·.toNatBelow? UInt64.size)

/-- Counters as a JSON value. -/
def ofCounters (names : List String) (values : List Nat) : Json :=
  .object (List.zip (names.map some) (values.map .ofNat))

end Json

namespace ClientCounters

/-- The names of the client's counters. -/
def fieldNames : List String :=
  ["requests_sent", "completed", "storage_faults", "timeouts", "stale_dropped",
    "malformed_dropped", "unexpected_dropped"]

/-- The client's counters as text. -/
def write (c : ClientCounters) : String :=
  (Json.ofCounters fieldNames
    [c.requestsSent, c.completed, c.storageFaults, c.timeouts, c.staleDropped,
      c.malformedDropped, c.unexpectedDropped]).write

/-- The client's counters that a text gives. -/
def parse (text : String) : Option ClientCounters := do
  match ← (← Json.parse text).counters? fieldNames with
  | [requestsSent, completed, storageFaults, timeouts, staleDropped, malformedDropped,
      unexpectedDropped] =>
    return { requestsSent, completed, storageFaults, timeouts, staleDropped, malformedDropped,
             unexpectedDropped }
  | _ => none

end ClientCounters

namespace ServerCounters

/-- The names of the server's counters. -/
def fieldNames : List String :=
  ["reads", "writes", "io_failures", "out_of_range", "malformed_dropped", "unexpected_dropped"]

/-- The server's counters as text. -/
def write (c : ServerCounters) : String :=
  (Json.ofCounters fieldNames
    [c.reads, c.writes, c.ioFailures, c.outOfRange, c.malformedDropped,
      c.unexpectedDropped]).write

/-- The server's counters that a text gives. -/
def parse (text : String) : Option ServerCounters := do
  match ← (← Json.parse text).counters? fieldNames with
  | [reads, writes, ioFailures, outOfRange, malformedDropped, unexpectedDropped] =>
    return { reads, writes, ioFailures, outOfRange, malformedDropped, unexpectedDropped }
  | _ => none

end ServerCounters
end BlockBridge

/-!
# Counters

What the two sides count.
-/

namespace BlockBridge

/-- What the client counts. -/
@[ext]
structure ClientCounters where
  /-- Requests that the channel accepted. -/
  requestsSent : Nat := 0
  /-- Requests that ended well. -/
  completed : Nat := 0
  /-- Requests that the storage side failed. -/
  storageFaults : Nat := 0
  /-- Requests that were given up for want of a result. -/
  timeouts : Nat := 0
  /-- Results that no request was waiting for. -/
  staleDropped : Nat := 0
  /-- Frames that are no message. -/
  malformedDropped : Nat := 0
  /-- Requests that reached the asking side. -/
  unexpectedDropped : Nat := 0
  deriving DecidableEq, Inhabited

/-- What the server counts. -/
@[ext]
structure ServerCounters where
  /-- Read requests. -/
  reads : Nat := 0
  /-- Write requests. -/
  writes : Nat := 0
  /-- Requests that the medium failed. -/
  ioFailures : Nat := 0
  /-- Requests for blocks beyond the medium. -/
  outOfRange : Nat := 0
  /-- Frames that are no message. -/
  malformedDropped : Nat := 0
  /-- Results that reached the serving side. -/
  unexpectedDropped : Nat := 0
  deriving DecidableEq, Inhabited

end BlockBridge

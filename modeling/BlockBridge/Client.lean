import BlockBridge.Config
import BlockBridge.Counters
import BlockBridge.HexDump
import BlockBridge.Message.Frame
import BlockBridge.Pending

/-!
# The asking side

The client keeps a table of the requests it has in flight and counts what
becomes of them.  Every frame that arrives goes one of four ways: it is no
message, it is a request and so none of the client's business, it settles a
request, or it is a result that nobody waits for.

Here is what the client does with a frame or a request, apart from any channel.

Main statements: what arrives changes neither the time allowed
(`Client.timeout_accept`) nor when a request was issued
(`Client.issuedAt_accept`).
-/

namespace BlockBridge

/-- The state of the asking side. -/
structure Client where
  pending : Pending.Table
  /-- How long to wait for a result, counted from the request, in microseconds. -/
  timeout : Nat
  /-- Whether the data of every block read or written is noted. -/
  traceBlocks : Bool
  stats : ClientCounters := {}

namespace Client

/-- The name of the part that these records come from. -/
def logTarget : String := "sdbridge::protocol::client"

/-- A client that has not asked for anything yet. -/
def ofConfig (config : Config) : Client where
  pending := .empty config.maxInFlight.toNat
  timeout := config.responseTimeout
  traceBlocks := config.traceBlocks

/-- The number of requests in flight. -/
def inFlight (client : Client) : Nat := client.pending.size

/-- A note that shows a block's data, if the client is asked to make them. -/
def dump (client : Client) (block : Address) (data : Block) : List Note :=
  if client.traceBlocks then [.trace (HexDump.render block data.bytes)] else []

/-- Give up the requests that nobody waited for in time. -/
def evict (now : Nat) (client : Client) : Client × List Note :=
  let (expired, pending) := client.pending.evict now client.timeout
  ({ client with
      pending
      stats := { client.stats with timeouts := client.stats.timeouts + expired.length } },
    expired.map fun block => .warn s!"client: block {block} expired without a wait")

/-- Abandon the request for a block; says whether there was one. -/
def cancel (block : Address) (client : Client) : Bool × Client :=
  let (found, pending) := client.pending.cancel block
  (found, { client with pending })

/-- Give up the request for a block after waiting `elapsed` for its result. -/
def giveUp (block : Address) (elapsed : Nat) (client : Client) : Client × List Note :=
  ({ client with
      pending := client.pending.erase block
      stats := { client.stats with timeouts := client.stats.timeouts + 1 } },
    [.warn s!"client: block {block} timed out after {elapsed / 1000} ms"])

/-- Settle the request for a block with its outcome, the table being what is
left without it. -/
def settle (block : Address) (operation : Operation) (outcome : Completion)
    (pending : Pending.Table) (client : Client) : Except Fault Completion × Client × List Note :=
  match outcome with
  | .failed code =>
    (.error (.storage ⟨block, code⟩),
      { client with
        pending
        stats := { client.stats with storageFaults := client.stats.storageFaults + 1 } },
      [.warn s!"client: {operation.name} block {block} failed with code {code}"])
  | .read data =>
    (.ok (.read data),
      { client with
        pending
        stats := { client.stats with completed := client.stats.completed + 1 } },
      client.dump block data)
  | .written =>
    (.ok .written,
      { client with
        pending
        stats := { client.stats with completed := client.stats.completed + 1 } },
      [])

/-- Match a message from the other side against the requests in flight. -/
def acceptMessage (message : Message) (client : Client) : Client × Note :=
  if message.kind.isRequest then
    ({ client with stats :=
        { client.stats with unexpectedDropped := client.stats.unexpectedDropped + 1 } },
      .warn s!"client: dropping unexpected {message.kind.name} for block {message.block}")
  else
    match client.pending.deliver message with
    | (.completed, pending) =>
      ({ client with pending }, .trace s!"client: result for block {message.block} matched")
    | (.stale, pending) =>
      ({ client with
          pending
          stats := { client.stats with staleDropped := client.stats.staleDropped + 1 } },
        .debug s!"client: discarding stale {message.kind.name} for block {message.block}")

/-- Take in one frame from the other side. -/
def accept (frame : Bytes) (client : Client) : Client × Note :=
  match Message.decode frame with
  | .ok message => client.acceptMessage message
  | .error fault =>
    ({ client with stats :=
        { client.stats with malformedDropped := client.stats.malformedDropped + 1 } },
      .warn s!"client: dropping malformed frame: {fault.message}")

theorem timeout_acceptMessage (message : Message) (client : Client) :
    (client.acceptMessage message).1.timeout = client.timeout := by
  unfold acceptMessage
  split
  · rfl
  · split <;> rfl

/-- The table after a message: a request settles nothing, and a result settles
what it can. -/
theorem pending_acceptMessage (message : Message) (client : Client) :
    (client.acceptMessage message).1.pending = (client.pending.deliver message).2 := by
  unfold acceptMessage
  cases hrequest : message.kind.isRequest with
  | true =>
    have hnone : message.outcome? = none := by
      cases message with
      | writeRequest | readRequest => rfl
      | readResult | readFailed | writeResult => exact absurd hrequest Bool.false_ne_true
    rw [Pending.Table.deliver_of_request hnone, if_pos rfl]
  | false =>
    rw [if_neg Bool.false_ne_true]
    split
    · rename_i pending hdeliver
      rw [hdeliver]
    · rename_i pending hdeliver
      rw [hdeliver]

theorem timeout_accept (frame : Bytes) (client : Client) :
    (client.accept frame).1.timeout = client.timeout := by
  unfold accept
  cases Message.decode frame with
  | ok message => exact timeout_acceptMessage message client
  | error fault => rfl

theorem issuedAt_accept (frame : Bytes) (client : Client) (block : Address) :
    (client.accept frame).1.pending.issuedAt block = client.pending.issuedAt block := by
  unfold accept
  cases Message.decode frame with
  | ok message =>
    show (client.acceptMessage message).1.pending.issuedAt block = _
    rw [pending_acceptMessage, Pending.Table.issuedAt_deliver]
  | error fault => rfl

end Client
end BlockBridge

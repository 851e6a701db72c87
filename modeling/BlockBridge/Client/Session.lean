import BlockBridge.Channel
import BlockBridge.Client

/-!
# Asking over a channel

A session is a client at its end of a channel.  A request is submitted, and its
result waited for, as two steps, so that several can be in flight at once.
While it waits for one result a session takes in whatever arrives and keeps the
results of other requests for those who wait for them.

A wait ends: each receive gets the time that is left until the deadline, so by
the channel's promise it either shortens the channel's backlog or is the last.
-/

namespace BlockBridge

/-- A client, the channel it asks over, and the clock. -/
structure Session (σ : Type) where
  client : Client
  channel : σ
  time : Timeline

namespace Session

variable {σ : Type}

/-- Record what the client has to say. -/
def note (notes : List Note) (session : Session σ) : Session σ :=
  { session with time := session.time.note Client.logTarget notes }

/-- Send a request, unless its block is busy or the table is full.  Requests
that have waited too long are given up first. -/
def submit (channel : Channel σ) (operation : Operation) (message : Message)
    (session : Session σ) : Except Fault Unit × Session σ :=
  let now := session.time.now
  let block := message.block
  let (client, notes) := session.client.evict now
  let evicted := { session with client }.note notes
  match client.pending.register block operation now with
  | .error fault => (.error (.request fault), evicted)
  | .ok pending =>
    -- The entry is there before its frame is sent, and goes again if sending fails.
    let registered := { client with pending }
    match channel.send message.encode evicted.channel evicted.time with
    | (.error fault, state, time) =>
      (.error (.channel fault),
        { client := (registered.cancel block).2, channel := state, time : Session σ }.note
          [.warn s!"client: send {operation.name} for block {block} failed: {fault.message}"])
    | (.ok (), state, time) =>
      (.ok (),
        { client := { registered with
            stats := { registered.stats with requestsSent := registered.stats.requestsSent + 1 } }
          channel := state, time : Session σ }.note
          [.debug s!"client: {operation.name} block {block} sent"])

/-- Ask for a block's contents. -/
def submitRead (channel : Channel σ) (block : Address) (session : Session σ) :
    Except Fault Unit × Session σ :=
  session.submit channel .read (.readRequest block)

/-- Ask for a block to be written. -/
def submitWrite (channel : Channel σ) (block : Address) (data : Block) (session : Session σ) :
    Except Fault Unit × Session σ :=
  (session.note (session.client.dump block data)).submit channel .write (.writeRequest block data)

/-- Take in at most one frame, and say whether there was one. -/
def pump (channel : Channel σ) (timeout : Nat) (session : Session σ) :
    Except Fault Bool × Session σ :=
  match channel.receive timeout session.channel session.time with
  | (.error fault, state, time) =>
    (.error (.channel fault), { session with channel := state, time })
  | (.ok none, state, time) => (.ok false, { session with channel := state, time })
  | (.ok (some frame), state, time) =>
    let (client, said) := session.client.accept frame
    (.ok true, { client, channel := state, time : Session σ }.note [said])

/-- Abandon the request for a block; says whether there was one. -/
def cancel (block : Address) (session : Session σ) : Bool × Session σ :=
  let (found, client) := session.client.cancel block
  (found, { session with client })

/-- The time left until the request for a block has waited too long. -/
def timeLeft (block : Address) (session : Session σ) : Nat :=
  match session.client.pending.issuedAt block with
  | none => 0
  | some issued => issued + session.client.timeout - session.time.now

theorem pump_progress {channel : Channel σ} {block : Address} {issued timeout : Nat}
    {session session' : Session σ} {received : Bool}
    (hissued : session.client.pending.issuedAt block = some issued)
    (hleft : session.time.now - issued < session.client.timeout)
    (htimeout : timeout = session.client.timeout - (session.time.now - issued))
    (h : session.pump channel timeout = (.ok received, session')) :
    Prod.Lex (· < ·) (· < ·)
      (channel.backlog session'.channel, session'.timeLeft block)
      (channel.backlog session.channel, session.timeLeft block) := by
  unfold pump at h
  split at h
  · simp at h
  · rename_i state time hreceive
    simp only [Prod.mk.injEq] at h
    obtain ⟨_, rfl⟩ := h
    rcases channel.idle hreceive with hlt | ⟨hle, hnow⟩
    · exact .left _ _ hlt
    · rcases Nat.lt_or_eq_of_le hle with hlt | heq
      · exact .left _ _ hlt
      · simp only [timeLeft, hissued, heq]
        exact .right _ (by omega)
  · rename_i frame state time hreceive
    simp only [Prod.mk.injEq] at h
    obtain ⟨_, rfl⟩ := h
    exact .left _ _ (channel.backlog_lt hreceive)

/-- Wait for the outcome of the request for a block, until its result arrives or
the request has waited too long. -/
def wait (channel : Channel σ) (block : Address) (session : Session σ) :
    Except Fault Completion × Session σ :=
  match session.client.pending.take block with
  | some ((operation, outcome), pending) =>
    -- The result is here, whether or not it is late.
    let (result, client, notes) := session.client.settle block operation outcome pending
    (result, { session with client }.note notes)
  | none =>
    match _ : session.client.pending.issuedAt block with
    | none => (.error (.request (.notPending block)), session)
    | some issued =>
      let elapsed := session.time.now - issued
      if _ : elapsed < session.client.timeout then
        match _ : session.pump channel (session.client.timeout - elapsed) with
        | (.error fault, session') =>
          -- A broken channel ends this request only; the others stay in the table.
          (.error fault, (session'.cancel block).2)
        | (.ok _, session') => session'.wait channel block
      else
        let (client, notes) := session.client.giveUp block elapsed
        (.error (.timeout block), { session with client }.note notes)
termination_by (channel.backlog session.channel, session.timeLeft block)
decreasing_by exact pump_progress ‹_› ‹_› rfl ‹_›

/-- Read one block. -/
def readBlock (channel : Channel σ) (block : Address) (session : Session σ) :
    Except Fault Block × Session σ :=
  match session.submitRead channel block with
  | (.error fault, session) => (.error fault, session)
  | (.ok (), session) =>
    match session.wait channel block with
    | (.error fault, session) => (.error fault, session)
    | (.ok (.read data), session) => (.ok data, session)
    -- A read ends in data or a failure, so nothing else comes back from its wait.
    | (.ok .written, session) => (.error (.request (.notPending block)), session)
    | (.ok (.failed _), session) => (.error (.request (.notPending block)), session)

/-- Write one block. -/
def writeBlock (channel : Channel σ) (block : Address) (data : Block) (session : Session σ) :
    Except Fault Unit × Session σ :=
  match session.submitWrite channel block data with
  | (.error fault, session) => (.error fault, session)
  | (.ok (), session) =>
    match session.wait channel block with
    | (.error fault, session) => (.error fault, session)
    | (.ok _, session) => (.ok (), session)

/-- Write one block from a byte string, which has to be of a block's length. -/
def writeBytes (channel : Channel σ) (block : Address) (bytes : Bytes) (session : Session σ) :
    Except Fault Unit × Session σ :=
  match Block.ofBytes? bytes with
  | none => (.error (.request (.badLength bytes.length)), session)
  | some data => session.writeBlock channel block data

end Session
end BlockBridge

import BlockBridge.Proofs.Pending.Entries
import BlockBridge.Proofs.Session.Call

/-!
# The client's books

Every request that was sent is still in flight or has left the table in one of
six ways, and every frame that was received was dropped for one of three
reasons or matched a request.  The counters of a client say so after any run,
whatever the channel does: each step of a session moves each of them by exactly
what it does to the table and to the channel.

What the counters leave out is kept in a tally beside the run: cancellations,
waits ended by the channel, and results that were thrown away unread.

Main statement: `Session.accounts_balance`.
-/

namespace BlockBridge

/-- What happened in a run and is not in the client's counters. -/
structure Tally where
  /-- The requests whose submission succeeded, oldest first. -/
  requests : List Message := []
  /-- The cancellations that found a request. -/
  cancelled : Nat := 0
  /-- The waits that the channel broke off. -/
  broken : Nat := 0
  /-- The results that had arrived and were thrown away by a cancellation or by
  the eviction in a submission. -/
  discarded : Nat := 0

namespace Tally

variable {σ : Type}

/-- The tally after a submission. -/
def submit (channel : Channel σ) (operation : Operation) (message : Message)
    (session : Session σ) (tally : Tally) : Tally :=
  { tally with
    requests := tally.requests ++
      match (session.submit channel operation message).1 with
      | .ok () => [message]
      | .error _ => []
    discarded := tally.discarded +
      session.client.pending.expiredSettledCount session.time.now session.client.timeout }

/-- The tally after a read request. -/
def submitRead (channel : Channel σ) (block : Address) (session : Session σ) (tally : Tally) :
    Tally :=
  tally.submit channel .read (.readRequest block) session

/-- The tally after a write request. -/
def submitWrite (channel : Channel σ) (block : Address) (data : Block) (session : Session σ)
    (tally : Tally) : Tally :=
  tally.submit channel .write (.writeRequest block data)
    (session.note (session.client.dump block data))

/-- The tally after a wait. -/
def wait (channel : Channel σ) (block : Address) (session : Session σ) (tally : Tally) : Tally :=
  match (session.wait channel block).1 with
  | .error (.channel _) => { tally with broken := tally.broken + 1 }
  | .error _ | .ok _ => tally

/-- The tally after a wait for what was just submitted, if it was. -/
def waitIfSent (channel : Channel σ) (block : Address)
    (submitted : Except Fault Unit × Session σ) (tally : Tally) : Tally :=
  match submitted with
  | (.ok (), session) => tally.wait channel block session
  | (.error _, _) => tally

/-- The tally after a cancellation. -/
def cancel (block : Address) (session : Session σ) (tally : Tally) : Tally :=
  { tally with
    cancelled := tally.cancelled + if (session.cancel block).1 then 1 else 0
    discarded := tally.discarded +
      if (session.client.pending.find? block).any (·.outcome.isSome) then 1 else 0 }

/-- The tally after a call.  Reading or writing a block is submitting a request
and waiting for its result. -/
def call (channel : Channel σ) : Session.Call → Session σ → Tally → Tally
  | .submitRead block, session, tally => tally.submitRead channel block session
  | .submitWrite block data, session, tally => tally.submitWrite channel block data session
  | .readBlock block, session, tally =>
    (tally.submitRead channel block session).waitIfSent channel block
      (session.submitRead channel block)
  | .writeBlock block data, session, tally =>
    (tally.submitWrite channel block data session).waitIfSent channel block
      (session.submitWrite channel block data)
  | .writeBytes block bytes, session, tally =>
    match Block.ofBytes? bytes with
    | none => tally
    | some data =>
      (tally.submitWrite channel block data session).waitIfSent channel block
        (session.submitWrite channel block data)
  | .wait block, session, tally => tally.wait channel block session
  | .pump _, _, tally => tally
  | .cancel block, session, tally => tally.cancel block session
  | .sleep _, _, tally => tally

end Tally

/-! ## What a frame does to the counters -/

/-- The counters that only submissions and the endings of waits move. -/
def ClientCounters.settlements (stats : ClientCounters) : Nat × Nat × Nat × Nat :=
  (stats.requestsSent, stats.completed, stats.storageFaults, stats.timeouts)

namespace Client

/-- A message moves exactly one of three: dropped as unexpected, dropped as
stale, or matched. -/
theorem counts_acceptMessage (message : Message) (client : Client) :
    let after := (client.acceptMessage message).1
    after.pending.size = client.pending.size ∧
      after.stats.settlements = client.stats.settlements ∧
      after.stats.malformedDropped = client.stats.malformedDropped ∧
      after.stats.unexpectedDropped + after.stats.staleDropped + after.pending.settledCount =
        client.stats.unexpectedDropped + client.stats.staleDropped +
          client.pending.settledCount + 1 := by
  simp only [acceptMessage]
  split
  · refine ⟨rfl, rfl, rfl, ?_⟩
    simp only
    omega
  · rcases Pending.Table.deliver_cases client.pending message with
      hstale | ⟨entry, outcome, hfind, hopen, _, hcompleted⟩
    · rw [hstale]
      refine ⟨rfl, rfl, rfl, ?_⟩
      simp only
      omega
    · rw [hcompleted]
      refine ⟨Pending.Table.size_settle _ _ _, rfl, rfl, ?_⟩
      simp only
      rw [Pending.Table.settledCount_settle hfind hopen]
      omega

/-- A frame moves exactly one of four: dropped as malformed, as unexpected or
as stale, or matched. -/
theorem counts_accept (frame : Bytes) (client : Client) :
    let after := (client.accept frame).1
    after.pending.size = client.pending.size ∧
      after.stats.settlements = client.stats.settlements ∧
      after.stats.malformedDropped + after.stats.unexpectedDropped + after.stats.staleDropped +
          after.pending.settledCount =
        client.stats.malformedDropped + client.stats.unexpectedDropped +
          client.stats.staleDropped + client.pending.settledCount + 1 := by
  unfold accept
  cases Message.decode frame with
  | error fault =>
    refine ⟨rfl, rfl, ?_⟩
    simp only
    omega
  | ok message =>
    obtain ⟨hsize, hstats, hmalformed, hcount⟩ := counts_acceptMessage message client
    refine ⟨hsize, hstats, ?_⟩
    simp only [hmalformed]
    omega

end Client

namespace Session

variable {σ : Type}

/-- Make the calls of a run, and keep the tally. -/
def audit (channel : Channel σ) (calls : List Call) (books : Session σ × Tally) :
    Session σ × Tally :=
  calls.foldl
    (fun books call => ((books.1.call channel call).2, books.2.call channel call books.1)) books

/-- The books of a session are in order. -/
structure Balanced (session : Session (Recorded σ)) (tally : Tally) : Prop where
  /-- The channel accepted the frames of the requests whose submission succeeded. -/
  accepted : session.channel.accepted = tally.requests.map Message.encode
  /-- They were counted. -/
  sent : session.client.stats.requestsSent = tally.requests.length
  /-- Each of them is in flight or has left in one of six ways. -/
  left : session.client.pending.size + session.client.stats.completed +
    session.client.stats.storageFaults + session.client.stats.timeouts + tally.cancelled +
    tally.broken = session.client.stats.requestsSent
  /-- Each frame that was received was dropped or matched. -/
  received : session.channel.received.length =
    session.client.stats.malformedDropped + session.client.stats.unexpectedDropped +
    session.client.stats.staleDropped + session.client.stats.completed +
    session.client.stats.storageFaults + session.client.pending.settledCount + tally.discarded

variable {channel : Channel σ} {session : Session (Recorded σ)} {tally : Tally}

theorem Balanced.note (h : Balanced session tally) (notes : List Note) :
    Balanced (session.note notes) tally :=
  ⟨h.accepted, h.sent, h.left, h.received⟩

theorem Balanced.sleep (h : Balanced session tally) (duration : Nat) :
    Balanced (session.sleep duration) tally :=
  ⟨h.accepted, h.sent, h.left, h.received⟩

/-! ## Each step keeps the books -/

/-- Giving up what expired counts each of it as a timeout, and the tally keeps
the results that were thrown away with it. -/
theorem Balanced.evicted (h : Balanced session tally) :
    Balanced session.evicted
      { tally with
        discarded := tally.discarded +
          session.client.pending.expiredSettledCount session.time.now session.client.timeout } where
  accepted := h.accepted
  sent := h.sent
  left := by
    have hsize := session.client.pending.size_evict session.time.now session.client.timeout
    have hleft := h.left
    show (session.client.pending.evict session.time.now session.client.timeout).2.size +
      session.client.stats.completed + session.client.stats.storageFaults +
      (session.client.stats.timeouts +
        (session.client.pending.evict session.time.now session.client.timeout).1.length) +
      tally.cancelled + tally.broken = session.client.stats.requestsSent
    omega
  received := by
    have hsettled := session.client.pending.settledCount_evict session.time.now
      session.client.timeout
    have hreceived := h.received
    show session.channel.received.length = session.client.stats.malformedDropped +
      session.client.stats.unexpectedDropped + session.client.stats.staleDropped +
      session.client.stats.completed + session.client.stats.storageFaults +
      (session.client.pending.evict session.time.now session.client.timeout).2.settledCount +
      (tally.discarded +
        session.client.pending.expiredSettledCount session.time.now session.client.timeout)
    omega

theorem Balanced.submit (h : Balanced session tally) (operation : Operation)
    (message : Message) :
    Balanced (session.submit channel.recorded operation message).2
      (tally.submit channel.recorded operation message session) := by
  have hevicted := h.evicted
  have hsubmission := session.submission channel.recorded operation message
  unfold Tally.submit
  generalize session.submit channel.recorded operation message = submitted at hsubmission ⊢
  rcases submitted with ⟨result, after⟩
  simp only at hsubmission ⊢
  cases hsubmission with
  | refused hregister =>
    simp only [List.append_nil]
    exact hevicted
  | @unsent pending fault state time notes hregister hsend =>
    obtain ⟨hreceived, haccepted⟩ := Channel.record_send hsend
    simp only [List.append_nil] at haccepted ⊢
    -- The entry that was just registered goes again, unsettled.
    have hfind : pending.find? message.block =
        some { operation, issuedAt := session.time.now } := by
      rw [Pending.Table.find?_of_register hregister, if_pos rfl]
    have hsize := Pending.Table.size_erase hfind
    have hsettled := Pending.Table.settledCount_erase hfind
    rw [Pending.Table.size_register hregister] at hsize
    rw [Pending.Table.settledCount_register hregister] at hsettled
    simp only [Option.isSome_none, Bool.false_eq_true, if_false, Nat.add_zero] at hsettled
    constructor
    case accepted => exact haccepted.trans hevicted.accepted
    case sent => exact hevicted.sent
    case left =>
      have hleft := hevicted.left
      simp only at hleft ⊢
      omega
    case received =>
      show state.received.length = _
      rw [hreceived]
      simp only [hsettled]
      exact hevicted.received
  | @sent pending state time notes hregister hsend =>
    obtain ⟨hreceived, haccepted⟩ := Channel.record_send hsend
    simp only at haccepted
    constructor
    case accepted =>
      show state.accepted = _
      rw [haccepted, List.map_append]
      exact congrArg (· ++ [message.encode]) hevicted.accepted
    case sent =>
      rw [List.length_append]
      exact congrArg (· + 1) hevicted.sent
    case left =>
      have hleft := hevicted.left
      have hsize := Pending.Table.size_register hregister
      simp only [hsize] at hleft ⊢
      omega
    case received =>
      show state.received.length = _
      rw [hreceived]
      simp only [Pending.Table.settledCount_register hregister]
      exact hevicted.received

theorem Balanced.pump (h : Balanced session tally) (timeout : Nat) :
    Balanced (session.pump channel.recorded timeout).2 tally := by
  have hreception := session.reception channel.recorded timeout
  generalize session.pump channel.recorded timeout = pumped at hreception ⊢
  rcases pumped with ⟨result, after⟩
  simp only at hreception ⊢
  cases hreception with
  | broken hreceive =>
    obtain ⟨haccepted, hreceived⟩ := Channel.record_receive hreceive
    simp only [List.append_nil] at hreceived
    constructor
    case accepted => exact haccepted.trans h.accepted
    case sent => exact h.sent
    case left => exact h.left
    case received =>
      rw [hreceived]
      exact h.received
  | idle hreceive =>
    obtain ⟨haccepted, hreceived⟩ := Channel.record_receive hreceive
    simp only [List.append_nil] at hreceived
    constructor
    case accepted => exact haccepted.trans h.accepted
    case sent => exact h.sent
    case left => exact h.left
    case received =>
      rw [hreceived]
      exact h.received
  | @frame bytes state time notes hreceive =>
    obtain ⟨haccepted, hreceived⟩ := Channel.record_receive hreceive
    obtain ⟨hsize, hstats, hcount⟩ := session.client.counts_accept bytes
    simp only [ClientCounters.settlements, Prod.mk.injEq] at hstats hcount
    obtain ⟨hsent, hcompleted, hfaults, htimeouts⟩ := hstats
    have hleft := h.left
    have hbefore := h.received
    simp only at hreceived
    constructor
    case accepted => exact haccepted.trans h.accepted
    case sent => exact hsent.trans h.sent
    case left =>
      simp only [hsize, hcompleted, hfaults, htimeouts, hsent]
      exact hleft
    case received =>
      rw [hreceived, List.length_append, List.length_singleton]
      simp only [hcompleted, hfaults]
      omega

/-- A result that is taken is counted as completed or as a storage fault. -/
theorem Balanced.settle (h : Balanced session tally) {block : Address} {entry : Pending.Entry}
    {outcome : Completion} (hfind : session.client.pending.find? block = some entry)
    (hsettled : entry.outcome = some outcome) :
    Balanced
      { session with
        client := (session.client.settle block entry.operation outcome
          (session.client.pending.erase block)).2.1 } tally := by
  have hsize := Pending.Table.size_erase hfind
  have hcount := Pending.Table.settledCount_erase hfind
  rw [hsettled] at hcount
  simp only [Option.isSome_some, if_true] at hcount
  have hleft := h.left
  have hreceived := h.received
  cases outcome with
  | read | written | failed =>
    constructor
    case accepted => exact h.accepted
    case sent => exact h.sent
    case left =>
      simp only [Client.settle]
      omega
    case received =>
      simp only [Client.settle]
      omega

/-- A request that is given up is counted as a timeout. -/
theorem Balanced.giveUp (h : Balanced session tally) {block : Address} {entry : Pending.Entry}
    (hfind : session.client.pending.find? block = some entry) (hopen : entry.outcome = none)
    (elapsed : Nat) :
    Balanced { session with client := (session.client.giveUp block elapsed).1 } tally := by
  have hsize := Pending.Table.size_erase hfind
  have hcount := Pending.Table.settledCount_erase hfind
  rw [hopen] at hcount
  simp only [Option.isSome_none, Bool.false_eq_true, if_false, Nat.add_zero] at hcount
  have hleft := h.left
  have hreceived := h.received
  constructor
  case accepted => exact h.accepted
  case sent => exact h.sent
  case left =>
    simp only [Client.giveUp]
    omega
  case received =>
    simp only [Client.giveUp, hcount]
    exact hreceived

/-- A cancellation that finds a request counts it, and throws its result away if
that was there. -/
theorem Balanced.cancel (h : Balanced session tally) (block : Address) :
    Balanced (session.cancel block).2 (tally.cancel block session) := by
  have hleft := h.left
  have hreceived := h.received
  rcases hfind : session.client.pending.find? block with _ | entry
  · have herase : (session.client.pending.erase block) = session.client.pending :=
      Pending.Table.erase_of_absent hfind
    constructor
    case accepted => exact h.accepted
    case sent => exact h.sent
    case left =>
      simp only [Session.cancel, Client.cancel, Pending.Table.cancel, Tally.cancel,
        Pending.Table.contains, hfind, herase]
      exact hleft
    case received =>
      simp only [Session.cancel, Client.cancel, Pending.Table.cancel, Tally.cancel, hfind, herase]
      exact hreceived
  · have hsize := Pending.Table.size_erase hfind
    have hcount := Pending.Table.settledCount_erase hfind
    constructor
    case accepted => exact h.accepted
    case sent => exact h.sent
    case left =>
      simp only [Session.cancel, Client.cancel, Pending.Table.cancel, Tally.cancel,
        Pending.Table.contains, hfind, Option.isSome_some, if_true]
      omega
    case received =>
      simp only [Session.cancel, Client.cancel, Pending.Table.cancel, Tally.cancel, hfind,
        Option.any_some]
      omega

/-- The receives of a wait keep the books, and so does each of its endings. -/
theorem Balanced.wait (h : Balanced session tally) (block : Address) :
    Balanced (session.wait channel.recorded block).2
      (tally.wait channel.recorded block session) := by
  obtain ⟨last, hpumped, hending⟩ := session.wait_ends channel.recorded block
  have hlast : Balanced last tally := by
    refine Pumped.preserves (P := (Balanced · tally)) ?_ hpumped h
    intro before next timeout received hpump hbefore
    have hnext : Balanced (before.pump channel.recorded timeout).2 tally := hbefore.pump timeout
    rw [hpump] at hnext
    exact hnext
  unfold Tally.wait
  generalize session.wait channel.recorded block = waited at hending ⊢
  rcases waited with ⟨result, after⟩
  simp only at hending ⊢
  cases hending with
  | @settled entry outcome hfind hsettled =>
    have hsame : (match outcome.verdict block with
        | .error (.channel _) => { tally with broken := tally.broken + 1 }
        | .error _ | .ok _ => tally) = tally := by
      cases outcome <;> rfl
    rw [hsame]
    exact (hlast.settle hfind hsettled).note _
  | absent => exact hlast
  | late hfind hopen => exact (hlast.giveUp hfind hopen _).note _
  | @broken entry fault next hfind hopen _ hpump =>
    have hnext : Balanced (last.pump channel.recorded
        (last.client.timeout - (last.time.now - entry.issuedAt))).2 tally := hlast.pump _
    obtain ⟨cause, rfl, hclient⟩ := pump_of_error hpump
    rw [hpump] at hnext
    have hcancelled := hnext.cancel block
    rw [← hclient] at hfind
    have hsize := hcancelled.left
    have hcount := hcancelled.received
    simp only [Session.cancel, Client.cancel, Pending.Table.cancel, Tally.cancel,
      Pending.Table.contains, hfind, hopen, Option.isSome_some, if_true, Option.any_some,
      Option.isSome_none, Bool.false_eq_true, if_false, Nat.add_zero] at hsize hcount
    refine ⟨hcancelled.accepted, hcancelled.sent, ?_, hcount⟩
    simp only [Session.cancel, Client.cancel, Pending.Table.cancel]
    omega

theorem Balanced.submitRead (h : Balanced session tally) (block : Address) :
    Balanced (session.submitRead channel.recorded block).2
      (tally.submitRead channel.recorded block session) :=
  h.submit _ _

theorem Balanced.submitWrite (h : Balanced session tally) (block : Address) (data : Block) :
    Balanced (session.submitWrite channel.recorded block data).2
      (tally.submitWrite channel.recorded block data session) :=
  (h.note _).submit _ _

theorem Balanced.waitedIfSent {submitted : Except Fault Unit × Session (Recorded σ)}
    (h : Balanced submitted.2 tally) (block : Address) :
    Balanced (waitedIfSent channel.recorded block submitted)
      (tally.waitIfSent channel.recorded block submitted) := by
  rcases submitted with ⟨_ | ⟨⟩, session⟩
  · exact h
  · exact h.wait block

theorem Balanced.readBlock (h : Balanced session tally) (block : Address) :
    Balanced (session.readBlock channel.recorded block).2
      ((tally.submitRead channel.recorded block session).waitIfSent channel.recorded block
        (session.submitRead channel.recorded block)) := by
  rw [readBlock_session]
  exact (h.submitRead block).waitedIfSent block

theorem Balanced.writeBlock (h : Balanced session tally) (block : Address) (data : Block) :
    Balanced (session.writeBlock channel.recorded block data).2
      ((tally.submitWrite channel.recorded block data session).waitIfSent channel.recorded block
        (session.submitWrite channel.recorded block data)) := by
  rw [writeBlock_session]
  exact (h.submitWrite block data).waitedIfSent block

/-- Every call keeps the books. -/
theorem Balanced.call (h : Balanced session tally) (call : Call) :
    Balanced (session.call channel.recorded call).2
      (tally.call channel.recorded call session) := by
  cases call with
  | submitRead block => exact h.submitRead block
  | submitWrite block data => exact h.submitWrite block data
  | readBlock block => exact h.readBlock block
  | writeBlock block data => exact h.writeBlock block data
  | writeBytes block bytes =>
    simp only [Session.call, Session.writeBytes, Tally.call]
    cases Block.ofBytes? bytes with
    | none => exact h
    | some data => exact h.writeBlock block data
  | wait block => exact h.wait block
  | pump timeout => exact h.pump timeout
  | cancel block => exact h.cancel block
  | sleep duration => exact h.sleep duration

/-! ## Runs -/

/-- So does every run, by induction on its calls. -/
theorem Balanced.audit (channel : Channel σ) (calls : List Call)
    {books : Session (Recorded σ) × Tally} (h : Balanced books.1 books.2) :
    Balanced (audit channel.recorded calls books).1 (audit channel.recorded calls books).2 := by
  induction calls generalizing books with
  | nil => exact h
  | cons call calls ih => exact ih (h.call call)

/-- After any run of a fresh client over any channel: what was counted as sent
is what the channel accepted, which are the frames of the requests that were
submitted; what is in flight is what was sent and has not left in one of the
five ways that are counted or tallied; and every frame that was received was
dropped for a reason or matched a request. -/
theorem accounts_balance (channel : Channel σ) (state : σ) (config : Config) (time : Timeline)
    (calls : List Call) :
    let books := audit channel.recorded calls
      ({ client := .ofConfig config, channel := { state }, time }, {})
    let stats := books.1.client.stats
    let tally := books.2
    (stats.requestsSent = books.1.channel.accepted.length ∧
      books.1.channel.accepted = tally.requests.map Message.encode) ∧
    (books.1.client.inFlight : Int) =
      stats.requestsSent - stats.completed - stats.storageFaults - stats.timeouts -
        tally.cancelled - tally.broken ∧
    books.1.channel.received.length =
      stats.malformedDropped + stats.unexpectedDropped + stats.staleDropped +
        (stats.completed + stats.storageFaults + books.1.client.pending.settledCount +
          tally.discarded) := by
  intro books stats tally
  have hbooks : Balanced books.1 tally := by
    refine Balanced.audit channel calls ?_
    exact ⟨rfl, rfl, rfl, rfl⟩
  have hsent : stats.requestsSent = tally.requests.length := hbooks.sent
  have hleft : books.1.client.pending.size + stats.completed + stats.storageFaults +
      stats.timeouts + tally.cancelled + tally.broken = stats.requestsSent := hbooks.left
  have hreceived : books.1.channel.received.length =
      stats.malformedDropped + stats.unexpectedDropped + stats.staleDropped + stats.completed +
        stats.storageFaults + books.1.client.pending.settledCount + tally.discarded :=
    hbooks.received
  refine ⟨⟨?_, hbooks.accepted⟩, ?_, ?_⟩
  · rw [hbooks.accepted, List.length_map]
    exact hsent
  · show (books.1.client.pending.size : Int) = _
    omega
  · omega

end Session
end BlockBridge

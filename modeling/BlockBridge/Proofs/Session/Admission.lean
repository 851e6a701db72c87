import BlockBridge.Channel.Replay
import BlockBridge.Proofs.Pending.Registry
import BlockBridge.Proofs.Session.Clock

/-!
# A submission is made or leaves no trace

Before anything else a submission gives up what has expired, and what it does then depends
on the table that this leaves.  A busy block and a full table are found before the channel
is touched.  Otherwise one frame goes to the channel, and if that does not take it, the
entry of the request is removed from the end of the table, where it was put, so that the
others keep their order.

Once the time allowed is over since the last frame that the channel accepted, all that is
in flight has expired, and no submission finds its block busy or the table full.

Main statement: `Session.submission_up_to_expiry`.
-/

namespace BlockBridge

/-! ## What the table refuses -/

namespace Pending.Table

/-- A request is refused for its block just if the block is busy, and for the table just
if that is full. -/
theorem register_eq_error_iff {table : Table} {block : Address} {operation : Operation}
    {now : Nat} :
    (table.register block operation now = .error (.addressBusy block) ↔
      table.contains block = true) ∧
    (table.register block operation now = .error .tableFull ↔
      table.contains block = false ∧ table.size = table.limit) := by
  cases hbusy : table.contains block with
  | true =>
    rw [register_of_contains hbusy]
    simp
  | false =>
    rcases Nat.lt_or_eq_of_le table.length_le with hroom | hfull
    · obtain ⟨table', hregister⟩ :=
        exists_register (contains_eq_false_iff.mp hbusy) hroom operation now
      have hroom : table.size < table.limit := hroom
      rw [hregister]
      simp [Nat.ne_of_lt hroom]
    · have hfull : table.size = table.limit := hfull
      rw [register_of_full hbusy (Nat.le_of_eq hfull.symm)]
      simp [hfull]

/-- Nothing is left of a table in which all has expired. -/
theorem entries_evict_of_expired {table : Table} {now timeout : Nat}
    (h : table.Each fun _ entry => timeout ≤ now - entry.issuedAt) :
    (table.evict now timeout).2.entries = [] := by
  have hnone : (table.entries.filter fun entry => now - entry.2.issuedAt < timeout) = [] := by
    rw [List.filter_eq_nil_iff]
    rintro ⟨block, entry⟩ hmem
    simpa using h block entry (mem_entries_iff.mp hmem)
  exact List.Perm.eq_nil (hnone ▸ table.entries_evict_perm now timeout)

end Pending.Table

namespace Session

variable {σ : Type} {channel : Channel σ}

/-! ## Submissions over a timed channel -/

/-- Submit a request. -/
def ask (channel : Channel σ) (request : Request) (session : Session σ) :
    Except Fault Unit × Session σ :=
  match request with
  | .read block => session.submitRead channel block
  | .write block data => session.submitWrite channel block data

/-- How a submission ends for a client that has given up what has expired. -/
inductive Admission (request : Request) (client : Client) (link : Timed σ) (now : Nat) :
    Except Fault Unit → Session (Timed σ) → Prop where
  /-- The table does not take the request, and the channel is not touched. -/
  | refused {fault : RequestFault} {after : Session (Timed σ)}
      (hregister : client.pending.register request.block request.operation now = .error fault)
      (hclient : after.client = client) (hchannel : after.channel = link)
      (hnow : after.time.now = now) :
      Admission request client link now (.error (.request fault)) after
  /-- The channel does not take the frame, and the client is as it was. -/
  | unsent {table : Pending.Table} {fault : ChannelFault} {after : Session (Timed σ)}
      (hregister : client.pending.register request.block request.operation now = .ok table)
      (hclient : after.client = client)
      (hsendings : after.channel.sendings = link.sendings ++
        [{ frame := request.message.encode, began := now, result := .error fault }])
      (hreceipts : after.channel.receipts = link.receipts) :
      Admission request client link now (.error (.channel fault)) after
  /-- The request is in flight. -/
  | sent {table : Pending.Table} {after : Session (Timed σ)}
      (hregister : client.pending.register request.block request.operation now = .ok table)
      (hclient : after.client =
        { client with
          pending := table
          stats := { client.stats with requestsSent := client.stats.requestsSent + 1 } })
      (hsendings : after.channel.sendings = link.sendings ++
        [{ frame := request.message.encode, began := now, result := .ok () }])
      (hreceipts : after.channel.receipts = link.receipts) :
      Admission request client link now (.ok ()) after

namespace Admission

variable {request : Request} {client : Client} {link : Timed σ} {now : Nat}
  {result : Except Fault Unit} {after : Session (Timed σ)}
  (h : Admission request client link now result after)
include h

/-- What the submission reports of the request is what the table says. -/
theorem refused_iff {fault : RequestFault} :
    result = .error (.request fault) ↔
      client.pending.register request.block request.operation now = .error fault := by
  cases h with
  | refused hregister => simp [hregister]
  | unsent hregister => simp [hregister]
  | sent hregister => simp [hregister]

theorem untouched (hrefused : client.pending.contains request.block = true ∨
    client.pending.size = client.pending.limit) :
    after.channel = link ∧ after.time.now = now := by
  cases h with
  | refused _ _ hchannel hnow => exact ⟨hchannel, hnow⟩
  | unsent hregister | sent hregister =>
    obtain ⟨hfree, hroom, _⟩ := Pending.Table.register_eq_ok_iff.mp hregister
    rcases hrefused with hbusy | hfull
    · rw [Pending.Table.contains_eq_false_iff.mpr hfree] at hbusy
      cases hbusy
    · exact absurd hfull (Nat.ne_of_lt hroom)

/-- A request that the table takes goes to the channel once, and the channel decides. -/
theorem sent_once (hfree : client.pending.contains request.block = false)
    (hroom : client.pending.size < client.pending.limit) :
    ∃ sent : Except ChannelFault Unit,
      after.channel.sendings = link.sendings ++
        [{ frame := request.message.encode, began := now, result := sent }] ∧
      after.channel.receipts = link.receipts ∧
      match sent with
      | .ok () => result = .ok ()
      | .error fault => result = .error (.channel fault) := by
  cases h with
  | refused hregister =>
    obtain ⟨table, htaken⟩ := Pending.Table.exists_register
      (Pending.Table.contains_eq_false_iff.mp hfree) hroom request.operation now
    rw [hregister] at htaken
    cases htaken
  | @unsent _ fault _ _ _ hsendings hreceipts => exact ⟨.error fault, hsendings, hreceipts, rfl⟩
  | sent _ _ hsendings hreceipts => exact ⟨.ok (), hsendings, hreceipts, rfl⟩

theorem exists_of_ok (hok : result = .ok ()) :
    ∃ table : Pending.Table, table.limit = client.pending.limit ∧
      table.entries = client.pending.entries ++
        [(request.block, { operation := request.operation, issuedAt := now, outcome := none })] ∧
      after.client =
        { client with
          pending := table
          stats := { client.stats with requestsSent := client.stats.requestsSent + 1 } } := by
  cases h with
  | refused | unsent => cases hok
  | @sent table _ hregister hclient =>
    obtain ⟨_, _, hlimit, hentries⟩ := Pending.Table.register_eq_ok_iff.mp hregister
    exact ⟨table, hlimit, hentries, hclient⟩

theorem client_of_error {fault : Fault} (herror : result = .error fault) :
    after.client = client := by
  cases h with
  | refused _ hclient => exact hclient
  | unsent _ hclient => exact hclient
  | sent => cases herror

end Admission

theorem admission_submit (channel : Channel σ) (request : Request) (session : Session (Timed σ)) :
    Admission request session.evicted.client session.channel session.time.now
      (session.submit channel.timed request.operation request.message).1
      (session.submit channel.timed request.operation request.message).2 := by
  have hsubmission := session.submission channel.timed request.operation request.message
  generalize session.submit channel.timed request.operation request.message = submitted
    at hsubmission ⊢
  rcases submitted with ⟨result, after⟩
  simp only at hsubmission ⊢
  cases hsubmission with
  | refused hregister =>
    rw [request.block_message] at hregister
    exact .refused hregister rfl rfl rfl
  | @unsent table fault link time notes hregister hsend =>
    -- The entry goes again from the end of the table.
    have hsame : table.erase request.message.block = session.evicted.client.pending :=
      Pending.Table.erase_of_register hregister
    rw [request.block_message] at hregister
    obtain ⟨_, hsendings, hreceipts⟩ := Channel.send_of_timed hsend
    refine .unsent hregister ?_ hsendings hreceipts
    simp only [hsame]
  | sent hregister hsend =>
    rw [request.block_message] at hregister
    obtain ⟨_, hsendings, hreceipts⟩ := Channel.send_of_timed hsend
    exact .sent hregister rfl hsendings hreceipts

/-- Every submission ends so.  A write may show its data first, which changes neither the
client nor the channel nor the clock. -/
theorem admission (channel : Channel σ) (request : Request) (session : Session (Timed σ)) :
    Admission request session.evicted.client session.channel session.time.now
      (session.ask channel.timed request).1 (session.ask channel.timed request).2 := by
  cases request with
  | read block => exact admission_submit channel (.read block) session
  | write block data =>
    exact admission_submit channel (.write block data)
      (session.note (session.client.dump block data))

/-- Once the time allowed is over since the last frame that the channel accepted, nothing
is left of what was in flight. -/
theorem entries_evicted_of_quiet (hsteady : channel.Steady) {session : Session (Timed σ)}
    (hreachable : Reachable channel.timed session)
    (hquiet : ∀ last, session.channel.lastAccepted? = some last →
      last.began + session.client.timeout ≤ session.time.now) :
    session.evicted.client.pending.entries = [] := by
  apply Pending.Table.entries_evict_of_expired
  intro block entry hfind
  -- What was issued last was issued when the last frame was sent, if not before.
  obtain ⟨_, last, hlast, hissued⟩ := hreachable.dated hsteady block entry hfind
  have hover := hquiet last hlast
  omega

/-- A submission is made, or leaves no trace but for the requests that it gives up.  Let
`left` be the table without those, each of which is counted as a timeout.  The submission
fails for its block just if that is busy in `left`, else for the table just if `left` is
full, and then the channel is not touched.  Otherwise one frame is sent, the encoding of
the request, and what comes of that decides: with a fault the submission fails for the
channel, and if the frame is accepted the request is last in the table, issued now, and
one more is counted as sent.  Whenever it fails, the table is just `left`, and nothing is
counted but the timeouts.

If the channel is steady and the time allowed is over since the last frame that it
accepted, the submission fails neither for its block nor for the table. -/
theorem submission_up_to_expiry (channel : Channel σ) (request : Request)
    (session : Session (Timed σ)) :
    let now := session.time.now
    let timeout := session.client.timeout
    let left := (session.client.pending.evict now timeout).2
    let counted : ClientCounters :=
      { session.client.stats with
        timeouts := session.client.stats.timeouts +
          (session.client.pending.entries.filter fun entry =>
            timeout ≤ now - entry.2.issuedAt).length }
    let asked := session.ask channel.timed request
    left.limit = session.client.pending.limit ∧
    left.entries.Perm
      (session.client.pending.entries.filter fun entry => now - entry.2.issuedAt < timeout) ∧
    (asked.1 = .error (.request (.addressBusy request.block)) ↔
      left.contains request.block = true) ∧
    (asked.1 = .error (.request .tableFull) ↔
      left.contains request.block = false ∧ left.size = left.limit) ∧
    (left.contains request.block = true ∨ left.size = left.limit →
      asked.2.channel = session.channel ∧ asked.2.time.now = now) ∧
    (left.contains request.block = false → left.size < left.limit →
      ∃ result,
        asked.2.channel.sendings = session.channel.sendings ++
          [{ frame := request.message.encode, began := now, result }] ∧
        asked.2.channel.receipts = session.channel.receipts ∧
        match result with
        | .ok () => asked.1 = .ok ()
        | .error fault => asked.1 = .error (.channel fault)) ∧
    (asked.1 = .ok () → ∃ table : Pending.Table,
      table.limit = left.limit ∧
      table.entries = left.entries ++
        [(request.block, { operation := request.operation, issuedAt := now, outcome := none })] ∧
      asked.2.client =
        { session.client with
          pending := table
          stats := { counted with requestsSent := counted.requestsSent + 1 } }) ∧
    (∀ fault, asked.1 = .error fault →
      asked.2.client = { session.client with pending := left, stats := counted }) ∧
    (channel.Steady → Reachable channel.timed session →
      (∀ last, session.channel.lastAccepted? = some last → last.began + timeout ≤ now) →
      asked.1 ≠ .error (.request (.addressBusy request.block)) ∧
        asked.1 ≠ .error (.request .tableFull)) := by
  intro now timeout left counted asked
  have hevicted : session.evicted.client =
      { session.client with pending := left, stats := counted } := by
    have hexpired : (session.client.pending.expired now timeout).length =
        (session.client.pending.entries.filter fun entry =>
          timeout ≤ now - entry.2.issuedAt).length := List.length_map _
    simp only [counted, ← hexpired]
    rfl
  have hadmission := admission channel request session
  rw [hevicted] at hadmission
  have hbusy : asked.1 = .error (.request (.addressBusy request.block)) ↔
      left.contains request.block = true :=
    hadmission.refused_iff.trans Pending.Table.register_eq_error_iff.1
  have hfull : asked.1 = .error (.request .tableFull) ↔
      left.contains request.block = false ∧ left.size = left.limit :=
    hadmission.refused_iff.trans Pending.Table.register_eq_error_iff.2
  refine ⟨Pending.Table.limit_evict _ _ _, Pending.Table.entries_evict_perm _ _ _, hbusy, hfull,
    hadmission.untouched, hadmission.sent_once, hadmission.exists_of_ok,
    fun _ => hadmission.client_of_error, ?_⟩
  intro hsteady hreachable hquiet
  -- An empty table is neither busy nor full, for it admits one request at least.
  have hempty : left.entries = [] := entries_evicted_of_quiet hsteady hreachable hquiet
  have hfree : left.contains request.block = false := by
    rw [Pending.Table.contains, Pending.Table.find?, hempty]
    rfl
  have hroom : left.size < left.limit := by
    rw [Pending.Table.size, hempty]
    exact left.limit_pos
  refine ⟨fun h => ?_, fun h => ?_⟩
  · rw [hbusy.mp h] at hfree
    cases hfree
  · exact Nat.ne_of_lt hroom (hfull.mp h).2

/-- A session some time after it has asked for eight blocks, and waited for none. -/
def unwaited (duration : Nat) : Session (Timed Replay) :=
  after Replay.channel.timed
    [.submitRead 0, .submitRead 1, .submitRead 2, .submitRead 3, .submitRead 4, .submitRead 5,
      .submitRead 6, .submitRead 7, .sleep duration]
    { client := .ofConfig {}, channel := { state := {} }, time := {} }

/-- A microsecond before the eight requests expire block 3 is busy, and for block 9 the
table is full.  When they expire, block 3 can be asked for again. -/
theorem submission_up_to_expiry_of_unwaited :
    (((unwaited 4999999).ask Replay.channel.timed (.read 3)).1 =
        .error (.request (.addressBusy 3)) ∧
      ((unwaited 4999999).ask Replay.channel.timed (.read 9)).1 = .error (.request .tableFull)) ∧
    Replay.channel.Steady ∧ Reachable Replay.channel.timed (unwaited 5000000) ∧
    (∀ last, (unwaited 5000000).channel.lastAccepted? = some last →
      last.began + (unwaited 5000000).client.timeout ≤ (unwaited 5000000).time.now) ∧
    ((unwaited 5000000).ask Replay.channel.timed (.read 3)).1 ≠
        .error (.request (.addressBusy 3)) ∧
      ((unwaited 5000000).ask Replay.channel.timed (.read 3)).1 ≠ .error (.request .tableFull) := by
  have hreachable : Reachable Replay.channel.timed (unwaited 5000000) := ⟨{}, _, {}, _, rfl⟩
  have hquiet : ∀ last, (unwaited 5000000).channel.lastAccepted? = some last →
      last.began + (unwaited 5000000).client.timeout ≤ (unwaited 5000000).time.now := by
    intro last hlast
    obtain rfl := Option.some.inj hlast
    decide +kernel
  obtain ⟨_, _, hbusy, _⟩ :=
    submission_up_to_expiry Replay.channel (.read 3) (unwaited 4999999)
  obtain ⟨_, _, _, hfull, _⟩ :=
    submission_up_to_expiry Replay.channel (.read 9) (unwaited 4999999)
  obtain ⟨_, _, _, _, _, _, _, _, hagain⟩ :=
    submission_up_to_expiry Replay.channel (.read 3) (unwaited 5000000)
  exact ⟨⟨hbusy.mpr (by decide +kernel), hfull.mpr (by decide +kernel)⟩,
    Replay.punctual.toSteady, hreachable, hquiet,
    hagain Replay.punctual.toSteady hreachable hquiet⟩

end Session
end BlockBridge

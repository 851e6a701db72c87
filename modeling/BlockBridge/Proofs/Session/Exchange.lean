import BlockBridge.Channel.Inline
import BlockBridge.Proofs.Session.Outcome

/-!
# Exchanges

A channel answers a request if the reply is the first thing that is received after the
request was sent, and no time passes until then (`Channel.Answers`).  A session that has
nothing in flight and makes a request over such a channel gets what the reply says, and
has nothing in flight again.

An inline line that is sound and has nothing to hand out answers every request: it is
served while it is sent.  A session over such a line is at rest (`Session.AtRest`).  It
gets what carrying the request out on the server's device comes to, and is at rest again.

Main statements: reading and writing a block over a channel that answers
(`Session.Idle.readBlock`, `Session.Idle.writeBlock`) and over a sound line
(`Session.AtRest.readBlock`, `Session.AtRest.writeBlock`).
-/

namespace BlockBridge

variable {σ δ ε : Type}

/-- In the state `state` of the channel a frame is answered: the next receive after it was
sent gets the reply, and no time passes until then.  The channel is left in the state
`after`. -/
def Channel.Answers (channel : Channel σ) (state : σ) (frame reply : Bytes) (after : σ) : Prop :=
  ∃ asked,
    (∀ time, ∃ time', channel.send frame state time = (.ok (), asked, time') ∧
      time'.now = time.now) ∧
    ∀ timeout time, ∃ time', channel.receive timeout asked time = (.ok (some reply), after, time')

/-- The counters after one more request, which ended in this way. -/
def ClientCounters.concluded (ending : Completion) (c : ClientCounters) : ClientCounters :=
  match ending with
  | .failed _ =>
    { c with requestsSent := c.requestsSent + 1, storageFaults := c.storageFaults + 1 }
  | .read _ | .written =>
    { c with requestsSent := c.requestsSent + 1, completed := c.completed + 1 }

/-- A usable configuration allows some time for a result. -/
theorem Config.responseTimeout_pos {config : Config} (h : config.validate = .ok ()) :
    0 < config.responseTimeout := by
  have hmeets := (config.validate_eq_ok_iff.mp h) .timeoutPositive (by decide)
  have hms : 0 < config.responseTimeoutMs.toNat :=
    UInt32.lt_iff_toNat_lt.mp (of_decide_eq_true hmeets)
  rw [responseTimeout]
  omega

namespace Session

/-! ## Over a channel that answers -/

/-- Nothing is in flight, and a result may be waited for. -/
structure Idle (session : Session σ) : Prop where
  idle : session.client.pending.size = 0
  patient : 0 < session.client.timeout

/-- A session with a usable configuration, in which no request has been made yet. -/
theorem idle_ofConfig {config : Config} (hvalid : config.validate = .ok ()) (channel : σ)
    (time : Timeline) : Idle { client := .ofConfig config, channel, time } where
  idle := rfl
  patient := Config.responseTimeout_pos hvalid

/-- One request is in flight, issued this very moment, and the next thing that is received
is the reply that says how it ended. -/
structure Asked (channel : Channel σ) (session : Session σ) (request : Request)
    (ending : Completion) (after : σ) : Prop where
  single : ∃ table : Pending.Table, table.size = 0 ∧
    table.register request.block request.operation session.time.now = .ok session.client.pending
  patient : 0 < session.client.timeout
  replied : ∃ reply : Message, reply.block = request.block ∧
    reply.outcome? = some (request.operation, ending) ∧
    ∀ timeout time, ∃ time',
      channel.receive timeout session.channel time = (.ok (some reply.encode), after, time')

variable {session : Session σ}

theorem Idle.entries_eq_nil (h : session.Idle) : session.client.pending.entries = [] :=
  List.length_eq_zero_iff.mp h.idle

theorem Idle.find?_eq_none (h : session.Idle) (block : Address) :
    session.client.pending.find? block = none := by
  rw [Pending.Table.find?, h.entries_eq_nil]
  rfl

/-- There is nothing to give up. -/
theorem Idle.client_evicted (h : session.Idle) : session.evicted.client = session.client := by
  have hexpired : session.client.pending.expired session.time.now session.client.timeout = [] := by
    rw [Pending.Table.expired, h.entries_eq_nil]
    rfl
  have hevict := Pending.Table.evict_of_expired_eq_nil hexpired
  show (session.client.evict session.time.now).1 = session.client
  rw [Client.evict, hevict]
  rfl

/-- A session that has nothing in flight can make any request. -/
theorem Idle.submit (h : session.Idle) {channel : Channel σ} (request : Request)
    {reply : Message} {ending : Completion} {after : σ}
    (hanswers : channel.Answers session.channel request.message.encode reply.encode after)
    (hblock : reply.block = request.block)
    (houtcome : reply.outcome? = some (request.operation, ending)) :
    ∃ sent, session.submit channel request.operation request.message = (.ok (), sent) ∧
      Asked channel sent request ending after ∧
      sent.client.stats =
        { session.client.stats with requestsSent := session.client.stats.requestsSent + 1 } := by
  obtain ⟨asked, hsend, hreceive⟩ := hanswers
  obtain ⟨time, hsend, hnow⟩ := hsend session.evicted.time
  have hroom : session.client.pending.size < session.client.pending.limit := by
    rw [h.idle]
    exact session.client.pending.limit_pos
  have hsubmission := session.submission channel request.operation request.message
  generalize session.submit channel request.operation request.message = submitted
    at hsubmission ⊢
  rcases submitted with ⟨result, sent⟩
  simp only at hsubmission ⊢
  cases hsubmission with
  | refused hregister =>
    -- An empty table takes any request.
    obtain ⟨table, hroomy⟩ := Pending.Table.exists_register
      (h.find?_eq_none request.message.block) hroom request.operation session.time.now
    rw [h.client_evicted, hroomy] at hregister
    cases hregister
  | unsent _ hunsent => cases hsend.symm.trans hunsent
  | sent hregister hsent =>
    cases hsend.symm.trans hsent
    rw [h.client_evicted, Request.block_message] at hregister
    refine ⟨_, rfl, ?_, by rw [h.client_evicted]⟩
    constructor
    case single =>
      refine ⟨session.client.pending, h.idle, ?_⟩
      -- Sending took no time, so the entry is as old as the session.
      have hthen : time.now = session.time.now := hnow
      show session.client.pending.register _ _ time.now = _
      rw [hthen]
      exact hregister
    case patient =>
      rw [h.client_evicted]
      exact h.patient
    case replied => exact ⟨reply, hblock, houtcome, hreceive⟩

theorem Asked.find?_eq {channel : Channel σ} {request : Request} {ending : Completion} {after : σ}
    (h : Asked channel session request ending after) :
    session.client.pending.find? request.block =
      some { operation := request.operation, issuedAt := session.time.now } := by
  obtain ⟨table, _, hregister⟩ := h.single
  rw [Pending.Table.find?_of_register hregister, if_pos rfl]

/-- A receive takes in the reply, which settles the request. -/
theorem Asked.pump {channel : Channel σ} {request : Request} {ending : Completion} {after : σ}
    (h : Asked channel session request ending after) (timeout : Nat) :
    ∃ next,
      session.pump channel timeout = (.ok true, next) ∧
      next.client =
        { session.client with
          pending := session.client.pending.settle request.block ending } ∧
      next.channel = after := by
  obtain ⟨reply, hblock, houtcome, hreceive⟩ := h.replied
  obtain ⟨time, hreceive⟩ := hreceive timeout session.time
  have hfind := h.find?_eq
  rw [← hblock] at hfind ⊢
  have hclient : (session.client.accept reply.encode).1 =
      { session.client with
        pending := session.client.pending.settle reply.block ending } := by
    rw [Client.accept_of_result reply.decode_encode houtcome,
      Pending.Table.deliver_of_awaits houtcome hfind (Pending.Table.awaits_iff.mpr ⟨rfl, rfl⟩)]
  rw [Session.pump, hreceive]
  exact ⟨_, rfl, hclient, rfl⟩

/-- The wait for a request receives its reply, and nothing is left in flight. -/
theorem Asked.wait {channel : Channel σ} {request : Request} {ending : Completion} {after : σ}
    (h : Asked channel session request ending after) :
    ∃ last, session.wait channel request.block = (ending.verdict request.block, last) ∧
      last.Idle ∧ last.channel = after ∧
      last.client.stats =
        (session.client.settle request.block request.operation ending
          session.client.pending).2.1.stats := by
  obtain ⟨table, hempty, hregister⟩ := h.single
  have hfind := h.find?_eq
  -- No time has passed since the request was issued, so the wait receives.
  have hearly : session.time.now - session.time.now < session.client.timeout := by
    rw [Nat.sub_self]
    exact h.patient
  obtain ⟨next, hpump, hclient, hchannel⟩ :=
    h.pump (session.client.timeout - (session.time.now - session.time.now))
  have hpending : next.client.pending = session.client.pending.settle request.block ending :=
    congrArg Client.pending hclient
  have hsettled : next.client.pending.find? request.block =
      some ⟨request.operation, session.time.now, some ending⟩ := by
    rw [hpending, Pending.Table.find?_settle, hfind]
    simp
  rw [wait_of_received hfind rfl hearly hpump, wait_of_settled hsettled rfl]
  refine ⟨_, rfl, ⟨?_, ?_⟩, hchannel, ?_⟩
  · show (Client.settle ..).2.1.pending.size = 0
    rw [Client.pending_settle]
    have herase := Pending.Table.size_erase hsettled
    rw [hpending, Pending.Table.size_settle, Pending.Table.size_register hregister, hempty,
      ← hpending] at herase
    omega
  · show 0 < (Client.settle ..).2.1.timeout
    rw [Client.timeout_settle, hclient]
    exact h.patient
  · show (Client.settle ..).2.1.stats = _
    rw [hclient]
    cases ending <;> rfl

/-- Reading a block over a channel that answers. -/
theorem Idle.readBlock (h : session.Idle) {channel : Channel σ} {block : Address}
    {reply : Message} {ending : Completion} {after : σ} {result : Except Fault Block}
    (hanswers : channel.Answers session.channel (Message.readRequest block).encode reply.encode
      after)
    (hblock : reply.block = block) (houtcome : reply.outcome? = some (.read, ending))
    (hresult : ending.verdict block = result.map .read) :
    ∃ last, session.readBlock channel block = (result, last) ∧ last.Idle ∧
      last.channel = after ∧ last.client.stats = session.client.stats.concluded ending := by
  obtain ⟨sent, hsubmit, hasked, hcounted⟩ := h.submit (.read block) hanswers hblock
    houtcome
  obtain ⟨last, hwait, hidle, hafter, hstats⟩ := hasked.wait
  have hsubmit : session.submitRead channel block = (.ok (), sent) := hsubmit
  have hwait : sent.wait channel block = (result.map .read, last) := hresult ▸ hwait
  refine ⟨last, ?_, hidle, hafter, ?_⟩
  · rw [Session.readBlock, hsubmit]
    simp only [hwait]
    rcases result with fault | data
    · rfl
    · rfl
  · rw [hstats]
    cases ending <;> simp [Client.settle, hcounted, ClientCounters.concluded]

/-- Writing a block over a channel that answers. -/
theorem Idle.writeBlock (h : session.Idle) {channel : Channel σ} {block : Address} {data : Block}
    {reply : Message} {ending : Completion} {after : σ} {result : Except Fault Unit}
    (hanswers : channel.Answers session.channel (Message.writeRequest block data).encode
      reply.encode after)
    (hblock : reply.block = block) (houtcome : reply.outcome? = some (.write, ending))
    (hresult : ending.verdict block = result.map fun _ => .written) :
    ∃ last, session.writeBlock channel block data = (result, last) ∧ last.Idle ∧
      last.channel = after ∧ last.client.stats = session.client.stats.concluded ending := by
  -- The note that shows the data is made before the submission.
  have hnoted : (session.note (session.client.dump block data)).Idle := ⟨h.idle, h.patient⟩
  obtain ⟨sent, hsubmit, hasked, hcounted⟩ := hnoted.submit (.write block data) hanswers
    hblock houtcome
  obtain ⟨last, hwait, hidle, hafter, hstats⟩ := hasked.wait
  have hsubmit : session.submitWrite channel block data = (.ok (), sent) := hsubmit
  have hwait : sent.wait channel block = (result.map fun _ => .written, last) := hresult ▸ hwait
  refine ⟨last, ?_, hidle, hafter, ?_⟩
  · rw [Session.writeBlock, hsubmit]
    simp only [hwait]
    rcases result with fault | ⟨⟩
    · rfl
    · rfl
  · rw [hstats]
    cases ending <;> simp [Client.settle, hcounted, ClientCounters.concluded, Session.note]

end Session

/-! ## Over a sound line -/

/-- A sound line that has nothing to hand out answers every request: the request is
carried out, and the reply says how it ended. -/
theorem Inline.exists_answer (kind : Device δ ε) (request : Request) {line : Inline δ}
    (hsound : line.plan = []) (hheard : line.replies = []) :
    ∃ reply after,
      (Inline.channel kind).Answers line request.message.encode (Message.encode reply) after ∧
      reply.block = request.block ∧
      reply.outcome? = some (request.operation, (request.execute kind line.server.device).1) ∧
      after.replies = [] ∧ after.plan = [] ∧
      after.server.device = (request.execute kind line.server.device).2 := by
  obtain ⟨reply, server, notes, hserved, hblock, houtcome, hdevice, _, _⟩ :=
    line.server.handleFrame_of_request kind request.message.decode_encode
  let asked : Inline δ :=
    { line with
      server
      replies := [reply.encode]
      sent := line.sent ++ [request.message.encode] }
  have hsend (time : Timeline) : Inline.send kind request.message.encode line time =
      (.ok (), asked, time.note Server.logTarget notes) := by
    simp [Inline.send, Inline.serve, hsound, hheard, hserved, Fate.queued, asked]
  exact ⟨reply, { asked with replies := [] },
    ⟨asked, fun time => ⟨_, hsend time, rfl⟩, fun timeout time => ⟨time, rfl⟩⟩, hblock, houtcome,
    rfl, hsound, hdevice⟩

namespace Session

/-- Nothing is in flight, and the line is sound and has nothing to hand out. -/
structure AtRest (session : Session (Inline δ)) : Prop where
  idle : session.client.pending.size = 0
  patient : 0 < session.client.timeout
  heard : session.channel.replies = []
  sound : session.channel.plan = []

variable {session : Session (Inline δ)}

/-- Reading a block is reading it on the device as its server lets it be seen. -/
theorem AtRest.readBlock (h : session.AtRest) (kind : Device δ ε) (block : Address) :
    ∃ last,
      session.readBlock (Inline.channel kind) block =
        ((kind.served.read block session.channel.server.device).1, last) ∧
      last.AtRest ∧
      last.channel.server.device = (kind.served.read block session.channel.server.device).2 := by
  obtain ⟨reply, after, hanswers, hblock, houtcome, hheard, hsound, hdevice⟩ :=
    Inline.exists_answer kind (.read block) h.sound h.heard
  obtain ⟨hverdict, hexecuted⟩ := kind.execute_read block session.channel.server.device
  have hidle : session.Idle := ⟨h.idle, h.patient⟩
  obtain ⟨last, hread, hrest, hafter, _⟩ := hidle.readBlock hanswers hblock houtcome hverdict
  rw [← hafter] at hheard hsound hdevice
  exact ⟨last, hread, ⟨hrest.idle, hrest.patient, hheard, hsound⟩, hdevice.trans hexecuted⟩

/-- Writing a block is writing it on the device as its server lets it be seen. -/
theorem AtRest.writeBlock (h : session.AtRest) (kind : Device δ ε) (block : Address)
    (data : Block) :
    ∃ last,
      session.writeBlock (Inline.channel kind) block data =
        ((kind.served.write block data session.channel.server.device).1, last) ∧
      last.AtRest ∧
      last.channel.server.device =
        (kind.served.write block data session.channel.server.device).2 := by
  obtain ⟨reply, after, hanswers, hblock, houtcome, hheard, hsound, hdevice⟩ :=
    Inline.exists_answer kind (.write block data) h.sound h.heard
  obtain ⟨hverdict, hexecuted⟩ := kind.execute_write block data session.channel.server.device
  have hidle : session.Idle := ⟨h.idle, h.patient⟩
  obtain ⟨last, hwrite, hrest, hafter, _⟩ := hidle.writeBlock hanswers hblock houtcome hverdict
  rw [← hafter] at hheard hsound hdevice
  exact ⟨last, hwrite, ⟨hrest.idle, hrest.patient, hheard, hsound⟩, hdevice.trans hexecuted⟩

end Session
end BlockBridge

import BlockBridge.Channel.Replay
import BlockBridge.Proofs.Session.Call

/-!
# Junk on the channel

A client drops the frames that are no message and the requests that reach it.
Whoever calls its operations does not notice: a history of the other end and one
littered with such frames, each of them there at once, give every call the same
result and leave the same clock, the same requests in flight, the same frames
sent and the same counters, but for the two that count what was dropped.

The two runs go out of step inside a wait, where the littered one makes a receive
for every frame that it drops.  So a receive of the littered run either drops junk
and leaves the other run where it is, or both receive the same
(`Session.Alike.pump`); and a wait goes on until they do (`Session.Alike.wait`).

Main statement: `Session.run_littered`.
-/

namespace BlockBridge

/-! ## Junk -/

/-- Whether a client drops a frame, whatever it waits for: the frame is no message,
or a request. -/
def Bytes.isJunk (frame : Bytes) : Bool :=
  match Message.decode frame with
  | .ok message => message.kind.isRequest
  | .error _ => true

/-- That the second history is the first with junk put in, anywhere and with no delay. -/
inductive Littered : List Scheduled → List Scheduled → Prop where
  | nil : Littered [] []
  | keep (item : Scheduled) {plain littered : List Scheduled} (h : Littered plain littered) :
      Littered (item :: plain) (item :: littered)
  | junk {frame : Bytes} {plain littered : List Scheduled} (hjunk : frame.isJunk = true)
      (h : Littered plain littered) : Littered plain (⟨.frame frame, 0⟩ :: littered)

/-- The counters, without those of the junk that was dropped. -/
def ClientCounters.withoutDropped (stats : ClientCounters) : ClientCounters :=
  { stats with malformedDropped := 0, unexpectedDropped := 0 }

/-- What there is to see of a session from the outside, junk apart. -/
structure Session.Sight where
  now : Nat
  /-- The frames that were sent. -/
  sent : List Bytes
  pending : Pending.Table
  stats : ClientCounters

/-- What there is to see of this session. -/
def Session.sight (session : Session Replay) : Sight where
  now := session.time.now
  sent := session.channel.sent
  pending := session.client.pending
  stats := session.client.stats.withoutDropped

/-! ## Clients that differ in what they dropped -/

/-- That two clients are the same but for what they dropped and what they note. -/
structure Client.Alike (plain littered : Client) : Prop where
  pending_eq : plain.pending = littered.pending
  timeout_eq : plain.timeout = littered.timeout
  stats_eq : plain.stats.withoutDropped = littered.stats.withoutDropped

namespace Client.Alike

variable {plain littered : Client} (h : plain.Alike littered)
include h

/-- The same table for both. -/
theorem setPending (pending : Pending.Table) :
    Client.Alike { plain with pending } { littered with pending } :=
  ⟨rfl, h.timeout_eq, h.stats_eq⟩

/-- The same change of the counters for both, which does not look at what was dropped. -/
theorem mapStats (change : ClientCounters → ClientCounters)
    (hchange : ∀ stats, (change stats).withoutDropped = change stats.withoutDropped) :
    Client.Alike { plain with stats := change plain.stats }
      { littered with stats := change littered.stats } :=
  ⟨h.pending_eq, h.timeout_eq, by rw [hchange, hchange, h.stats_eq]⟩

theorem erase (block : Address) :
    Client.Alike { plain with pending := plain.pending.erase block }
      { littered with pending := littered.pending.erase block } := by
  rw [← h.pending_eq]
  exact h.setPending _

theorem evict (now : Nat) : (plain.evict now).1.Alike (littered.evict now).1 := by
  have hevict : littered.pending.evict now littered.timeout =
      plain.pending.evict now plain.timeout := by rw [h.pending_eq, h.timeout_eq]
  unfold Client.evict
  rw [hevict]
  exact (h.setPending _).mapStats (fun stats =>
    { stats with timeouts := stats.timeouts + (plain.pending.evict now plain.timeout).1.length })
    fun _ => rfl

theorem giveUp (block : Address) (elapsed : Nat) :
    (plain.giveUp block elapsed).1.Alike (littered.giveUp block elapsed).1 :=
  (h.erase block).mapStats (fun stats => { stats with timeouts := stats.timeouts + 1 })
    fun _ => rfl

theorem settle (block : Address) (operation : Operation) (outcome : Completion)
    (pending : Pending.Table) :
    (plain.settle block operation outcome pending).2.1.Alike
      (littered.settle block operation outcome pending).2.1 := by
  cases outcome with
  | failed code =>
    exact (h.setPending pending).mapStats
      (fun stats => { stats with storageFaults := stats.storageFaults + 1 }) fun _ => rfl
  | read | written =>
    exact (h.setPending pending).mapStats
      (fun stats => { stats with completed := stats.completed + 1 }) fun _ => rfl

/-- Taking in the same frame, whatever it is. -/
theorem accept (frame : Bytes) : (plain.accept frame).1.Alike (littered.accept frame).1 := by
  unfold Client.accept
  cases Message.decode frame with
  | error fault => exact ⟨h.pending_eq, h.timeout_eq, h.stats_eq⟩
  | ok message =>
    simp only [Client.acceptMessage]
    cases message.kind.isRequest with
    | true => exact ⟨h.pending_eq, h.timeout_eq, h.stats_eq⟩
    | false =>
      rw [← h.pending_eq]
      rcases plain.pending.deliver message with ⟨_ | _, pending⟩
      · exact h.setPending pending
      · exact (h.setPending pending).mapStats
          (fun stats => { stats with staleDropped := stats.staleDropped + 1 }) fun _ => rfl

/-- Taking in junk is dropping it. -/
theorem accept_junk {frame : Bytes} (hjunk : frame.isJunk = true) :
    plain.Alike (littered.accept frame).1 := by
  unfold Client.accept
  unfold Bytes.isJunk at hjunk
  cases hdecode : Message.decode frame with
  | error fault => exact ⟨h.pending_eq, h.timeout_eq, h.stats_eq⟩
  | ok message =>
    rw [hdecode] at hjunk
    simp only [Client.acceptMessage, hjunk, if_true]
    exact ⟨h.pending_eq, h.timeout_eq, h.stats_eq⟩

end Client.Alike

/-! ## Channels of which one is littered -/

/-- That two channels are the same but for junk in the one's history. -/
structure Replay.Alike (plain littered : Replay) : Prop where
  inbound : Littered plain.inbound littered.inbound
  hungUp_eq : plain.hungUp = littered.hungUp
  sendFaults_eq : plain.sendFaults = littered.sendFaults
  sent_eq : plain.sent = littered.sent

namespace Replay.Alike

variable {plain littered : Replay} (h : plain.Alike littered)
include h

/-- Both send the same. -/
theorem send (frame : Bytes) (time time' : Timeline) :
    ∃ result next next', channel.send frame plain time = (result, next, time) ∧
      channel.send frame littered time' = (result, next', time') ∧ next.Alike next' := by
  have hsend {replay : Replay} {time : Timeline} :
      channel.send frame replay time = Replay.send frame replay time := rfl
  rw [hsend, hsend, Replay.send, Replay.send, ← h.sendFaults_eq, ← h.sent_eq]
  rcases plain.sendFaults with _ | ⟨_ | fault, rest⟩
  · exact ⟨_, _, _, rfl, rfl, h.inbound, h.hungUp_eq, rfl, rfl⟩
  · exact ⟨_, _, _, rfl, rfl, h.inbound, h.hungUp_eq, rfl, rfl⟩
  · exact ⟨_, _, _, rfl, rfl, h.inbound, h.hungUp_eq, rfl, rfl⟩

/-- The littered channel hands out junk in no time, or both receive the same. -/
theorem receive (timeout : Nat) {time time' : Timeline} (hnow : time.now = time'.now) :
    (∃ frame next end', channel.receive timeout littered time' = (.ok (some frame), next, end') ∧
      frame.isJunk = true ∧ plain.Alike next ∧ time.now = end'.now) ∨
    ∃ result next next' ended ended',
      channel.receive timeout plain time = (result, next, ended) ∧
      channel.receive timeout littered time' = (result, next', ended') ∧
      next.Alike next' ∧ ended.now = ended'.now := by
  have hinbound := h.inbound
  generalize hplain : plain.inbound = inbound at hinbound
  generalize hlittered : littered.inbound = inbound' at hinbound
  cases hinbound with
  | nil =>
    right
    cases hhung : plain.hungUp with
    | true =>
      have hhung' : littered.hungUp = true := h.hungUp_eq.symm.trans hhung
      exact ⟨_, _, _, _, _, receive_of_hungUp hplain hhung timeout time,
        receive_of_hungUp hlittered hhung' timeout time',
        ⟨h.inbound, h.hungUp_eq, h.sendFaults_eq, h.sent_eq⟩, hnow⟩
    | false =>
      have hhung' : littered.hungUp = false := h.hungUp_eq.symm.trans hhung
      exact ⟨_, _, _, _, _, receive_of_over hplain hhung timeout time,
        receive_of_over hlittered hhung' timeout time',
        ⟨h.inbound, h.hungUp_eq, h.sendFaults_eq, h.sent_eq⟩, congrArg (· + timeout) hnow⟩
  | keep item hrest =>
    right
    rcases Nat.lt_or_ge timeout item.after with hearly | hdue
    · exact ⟨_, _, _, _, _, receive_of_lt hplain hearly time, receive_of_lt hlittered hearly time',
        ⟨.keep _ hrest, h.hungUp_eq, h.sendFaults_eq, h.sent_eq⟩, congrArg (· + timeout) hnow⟩
    · exact ⟨_, _, _, _, _, receive_of_le hplain hdue time, receive_of_le hlittered hdue time',
        ⟨hrest, h.hungUp_eq, h.sendFaults_eq, h.sent_eq⟩, congrArg (· + item.after) hnow⟩
  | junk hjunk hrest =>
    left
    rw [← hplain] at hrest
    exact ⟨_, _, _, receive_of_le hlittered (Nat.zero_le timeout) time', hjunk,
      ⟨hrest, h.hungUp_eq, h.sendFaults_eq, h.sent_eq⟩, hnow⟩

end Replay.Alike

/-! ## Sessions of which one is littered -/

/-- That two sessions are the same but for junk, ahead of the one or dropped by it. -/
structure Session.Alike (plain littered : Session Replay) : Prop where
  client : plain.client.Alike littered.client
  channel : plain.channel.Alike littered.channel
  now_eq : plain.time.now = littered.time.now

/-- That two calls returned the same and left such sessions. -/
structure Session.Agree {α : Type} (plain littered : α × Session Replay) : Prop where
  result_eq : plain.1 = littered.1
  alike : plain.2.Alike littered.2

theorem Session.Agree.exists_eq {α : Type} {plain littered : α × Session Replay}
    (h : Agree plain littered) :
    ∃ result next next', plain = (result, next) ∧ littered = (result, next') ∧
      next.Alike next' :=
  ⟨littered.1, plain.2, littered.2, Prod.ext h.result_eq rfl, rfl, h.alike⟩

namespace Session.Alike

variable {plain littered : Session Replay} (h : plain.Alike littered)
include h

theorem sight_eq : plain.sight = littered.sight := by
  unfold sight
  rw [h.now_eq, h.channel.sent_eq, h.client.pending_eq, h.client.stats_eq]

theorem note (notes notes' : List Note) : (plain.note notes).Alike (littered.note notes') :=
  ⟨h.client, h.channel, h.now_eq⟩

theorem sleep (duration : Nat) : (plain.sleep duration).Alike (littered.sleep duration) :=
  ⟨h.client, h.channel, congrArg (· + duration) h.now_eq⟩

theorem cancel (block : Address) : Agree (plain.cancel block) (littered.cancel block) where
  result_eq := by
    show plain.client.pending.contains block = littered.client.pending.contains block
    rw [h.client.pending_eq]
  alike := ⟨h.client.erase block, h.channel, h.now_eq⟩

theorem submit (operation : Operation) (message : Message) :
    Agree (plain.submit Replay.channel operation message)
      (littered.submit Replay.channel operation message) := by
  have hclient := h.client.evict plain.time.now
  unfold Session.submit
  rw [← h.now_eq]
  simp only
  rw [← hclient.pending_eq]
  split
  · exact ⟨rfl, hclient, h.channel, h.now_eq⟩
  · rename_i pending _
    have hregistered := hclient.setPending pending
    obtain ⟨result, next, next', hsend, hsend', hchannel⟩ := h.channel.send message.encode
      (plain.time.note Client.logTarget (plain.client.evict plain.time.now).2)
      (littered.time.note Client.logTarget (littered.client.evict plain.time.now).2)
    simp only [Session.note, hsend, hsend']
    cases result with
    | error fault => exact ⟨rfl, hregistered.erase message.block, hchannel, h.now_eq⟩
    | ok =>
      have hcounted := hregistered.mapStats
        (fun stats => { stats with requestsSent := stats.requestsSent + 1 }) fun _ => rfl
      exact ⟨rfl, hcounted, hchannel, h.now_eq⟩

/-- A receive of the littered session drops junk and is not noticed, or both receive
the same. -/
theorem pump (timeout : Nat) :
    (∃ next, littered.pump Replay.channel timeout = (.ok true, next) ∧ plain.Alike next) ∨
      Agree (plain.pump Replay.channel timeout) (littered.pump Replay.channel timeout) := by
  unfold Session.pump
  rcases h.channel.receive timeout h.now_eq with
    ⟨frame, next, ended, hreceive, hjunk, hchannel, hnow⟩ |
    ⟨result, next, next', ended, ended', hreceive, hreceive', hchannel, hnow⟩
  · left
    rw [hreceive]
    exact ⟨_, rfl, h.client.accept_junk hjunk, hchannel, hnow⟩
  · right
    rw [hreceive, hreceive']
    rcases result with fault | _ | frame
    · exact ⟨rfl, h.client, hchannel, hnow⟩
    · exact ⟨rfl, h.client, hchannel, hnow⟩
    · exact ⟨rfl, h.client.accept frame, hchannel, hnow⟩

end Session.Alike

namespace Session

/-- A wait drops what junk there is and goes on; by recursion as in the wait of the
littered session. -/
theorem Alike.wait {plain littered : Session Replay} (h : plain.Alike littered)
    (block : Address) :
    Agree (plain.wait Replay.channel block) (littered.wait Replay.channel block) := by
  rcases hfind : plain.client.pending.find? block with _ | entry
  · have hfind' : littered.client.pending.find? block = none := by
      rw [← h.client.pending_eq, hfind]
    rw [wait_of_absent hfind, wait_of_absent hfind']
    exact ⟨rfl, h⟩
  have hfind' : littered.client.pending.find? block = some entry := by
    rw [← h.client.pending_eq, hfind]
  rcases houtcome : entry.outcome with _ | outcome
  · have hwait : plain.wait Replay.channel block = _ := wait_of_unsettled hfind houtcome
    rw [h.now_eq, h.client.timeout_eq] at hwait
    rw [wait_of_unsettled hfind' houtcome]
    by_cases hearly : littered.time.now - entry.issuedAt < littered.client.timeout
    · have hissued : littered.client.pending.issuedAt block = some entry.issuedAt := by
        simp [Pending.Table.issuedAt, hfind']
      rw [if_pos hearly] at hwait ⊢
      generalize htimeout : littered.client.timeout - (littered.time.now - entry.issuedAt) =
        timeout at hwait ⊢
      rcases h.pump timeout with ⟨next, hpump, hnext⟩ | hpumped
      · -- Junk: the littered wait goes on, and the other is still before its receive.
        have hprogress := pump_progress hissued hearly htimeout.symm hpump
        rw [hpump]
        exact hnext.wait block
      · rw [hwait]
        obtain ⟨result, next, next', hplain, hpump, hnext⟩ := hpumped.exists_eq
        rw [hplain, hpump]
        cases result with
        | error fault => exact ⟨rfl, (hnext.cancel block).alike⟩
        | ok received =>
          have hprogress := pump_progress hissued hearly htimeout.symm hpump
          exact hnext.wait block
    · rw [if_neg hearly] at hwait ⊢
      rw [hwait]
      exact ⟨rfl, h.client.giveUp block (littered.time.now - entry.issuedAt), h.channel, h.now_eq⟩
  · rw [wait_of_settled hfind houtcome, wait_of_settled hfind' houtcome, h.client.pending_eq]
    exact ⟨rfl, h.client.settle block entry.operation outcome _, h.channel, h.now_eq⟩
termination_by (Replay.channel.backlog littered.channel, littered.timeLeft block)
decreasing_by all_goals exact hprogress

variable {plain littered : Session Replay}

theorem Alike.submitWrite (h : plain.Alike littered) (block : Address) (data : Block) :
    Agree (plain.submitWrite Replay.channel block data)
      (littered.submitWrite Replay.channel block data) :=
  (h.note _ _).submit _ _

theorem Alike.readBlock (h : plain.Alike littered) (block : Address) :
    Agree (plain.readBlock Replay.channel block) (littered.readBlock Replay.channel block) := by
  have hsubmitted : Agree (plain.submitRead Replay.channel block)
      (littered.submitRead Replay.channel block) := h.submit _ _
  obtain ⟨result, next, next', hplain, hlittered, hnext⟩ := hsubmitted.exists_eq
  rw [Session.readBlock, Session.readBlock, hplain, hlittered]
  cases result with
  | error fault => exact ⟨rfl, hnext⟩
  | ok =>
    obtain ⟨result, last, last', hwait, hwait', hlast⟩ := (hnext.wait block).exists_eq
    simp only [hwait, hwait']
    rcases result with _ | _ | _ | _ <;> exact ⟨rfl, hlast⟩

theorem Alike.writeBlock (h : plain.Alike littered) (block : Address) (data : Block) :
    Agree (plain.writeBlock Replay.channel block data)
      (littered.writeBlock Replay.channel block data) := by
  obtain ⟨result, next, next', hplain, hlittered, hnext⟩ := (h.submitWrite block data).exists_eq
  rw [Session.writeBlock, Session.writeBlock, hplain, hlittered]
  cases result with
  | error fault => exact ⟨rfl, hnext⟩
  | ok =>
    obtain ⟨result, last, last', hwait, hwait', hlast⟩ := (hnext.wait block).exists_eq
    simp only [hwait, hwait']
    rcases result with _ | _ <;> exact ⟨rfl, hlast⟩

theorem Agree.map {α β : Type} {step step' : α × Session Replay} (h : Agree step step')
    (answer : α → β) : Agree (step.map answer id) (step'.map answer id) :=
  ⟨congrArg answer h.result_eq, h.alike⟩

/-- Every call but a bare receive agrees. -/
theorem Alike.call (h : plain.Alike littered) {call : Call}
    (hcall : ∀ timeout, call ≠ .pump timeout) :
    Agree (plain.call Replay.channel call) (littered.call Replay.channel call) := by
  cases call with
  | submitRead block => exact (h.submit _ _).map _
  | submitWrite block data => exact (h.submitWrite block data).map _
  | readBlock block => exact (h.readBlock block).map _
  | writeBlock block data => exact (h.writeBlock block data).map _
  | writeBytes block bytes =>
    simp only [Session.call, Session.writeBytes]
    cases Block.ofBytes? bytes with
    | none => exact ⟨rfl, h⟩
    | some data => exact (h.writeBlock block data).map _
  | wait block => exact (h.wait block).map _
  | pump timeout => exact absurd rfl (hcall timeout)
  | cancel block => exact (h.cancel block).map _
  | sleep duration => exact ⟨rfl, h.sleep duration⟩

/-! ## Runs -/

/-- Every run without a bare receive shows the same, by induction on its calls. -/
theorem Alike.run (h : plain.Alike littered) {calls : List Call}
    (hcalls : ∀ call ∈ calls, ∀ timeout, call ≠ .pump timeout) :
    (plain.run Replay.channel calls).map (Prod.map id sight) =
      (littered.run Replay.channel calls).map (Prod.map id sight) := by
  induction calls generalizing plain littered with
  | nil => rfl
  | cons call rest ih =>
    have hagree := h.call (hcalls call List.mem_cons_self)
    have hrest := ih hagree.alike fun later hmem => hcalls later (List.mem_cons_of_mem _ hmem)
    simp only [Session.run, List.map_cons]
    rw [hrest]
    congr 1
    exact Prod.ext hagree.result_eq hagree.alike.sight_eq

/-- Junk on the channel is not noticed.  Let the history of the other end be littered
with frames that are no message or a request, anywhere and with no delay.  Then every
call but a bare receive returns what it would have returned, and leaves the same
clock, the same frames sent, the same requests in flight and the same counters, but
for those of what was dropped as malformed or unexpected. -/
theorem run_littered (session : Session Replay) {littered : List Scheduled}
    (hlittered : Littered session.channel.inbound littered) {calls : List Call}
    (hcalls : ∀ call ∈ calls, ∀ timeout, call ≠ .pump timeout) :
    let junky := { session with channel := { session.channel with inbound := littered } }
    (junky.run Replay.channel calls).map (Prod.map id sight) =
      (session.run Replay.channel calls).map (Prod.map id sight) := by
  intro junky
  have halike : session.Alike junky :=
    ⟨⟨rfl, rfl, rfl⟩, ⟨hlittered, rfl, rfl, rfl⟩, rfl⟩
  exact (halike.run hcalls).symm

/-- The answer to a read is late and comes behind a frame without a tag and a request. -/
theorem run_littered_read :
    let answer : Scheduled := ⟨.frame (Message.readFailed 8 (-1)).encode, 3⟩
    let littered : List Scheduled := [⟨.frame [], 0⟩, ⟨.frame (Message.readRequest 8).encode, 0⟩,
      answer]
    let session : Session Replay :=
      { client := .ofConfig {}, channel := { inbound := [answer] }, time := {} }
    let junky := { session with channel := { session.channel with inbound := littered } }
    let calls : List Call := [.submitRead 8, .wait 8]
    Littered session.channel.inbound littered ∧
    (∀ call ∈ calls, ∀ timeout, call ≠ .pump timeout) ∧
    (junky.run Replay.channel calls).map (Prod.map id sight) =
      (session.run Replay.channel calls).map (Prod.map id sight) := by
  intro answer littered session junky calls
  have hlittered : Littered session.channel.inbound littered :=
    .junk rfl (.junk rfl (.keep answer .nil))
  have hcalls : ∀ call ∈ calls, ∀ timeout, call ≠ .pump timeout := by
    simp [calls]
  exact ⟨hlittered, hcalls, run_littered session hlittered hcalls⟩

end Session
end BlockBridge

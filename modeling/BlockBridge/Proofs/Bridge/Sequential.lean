import BlockBridge.Device.RamDisk
import BlockBridge.Proofs.Bridge.Tracks

/-!
# A bridge as a sequential device

As long as no request is abandoned, nobody can tell a bridge from a device that
carries out every request the moment it is accepted and keeps the outcome until
someone waits for it.  Requests may be in flight together, replies may be taken
in during the wait for another block, and the server may act at any time: the
outcomes are those of carrying out the accepted requests in the order of their
submission.

The invariant (`Bridge.InStep`) holds after every action and inside a wait after
every receive.  It says what each of the two sides knows of the requests that
were accepted, and that nothing was ever dropped.

Main statements: every action keeps the invariant (`Bridge.InStep.act`), and
what follows for a whole run (`Bridge.sequential_of_keeps`).
-/

namespace BlockBridge

/-- A device that carries out requests at once and keeps how they ended. -/
structure Sequential (δ : Type) where
  device : δ
  /-- How the last request for a block ended, until someone has waited for it. -/
  ending : Address → Option Completion := fun _ => none

namespace Sequential

variable {δ ε : Type}

/-- Accept a request. -/
def submit (kind : Device δ ε) (request : Request) (machine : Sequential δ) : Sequential δ where
  device := (request.execute kind machine.device).2
  ending := Function.update machine.ending request.block
    (some (request.execute kind machine.device).1)

/-- Forget how the request for a block ended. -/
def forget (block : Address) (machine : Sequential δ) : Sequential δ :=
  { machine with ending := Function.update machine.ending block none }

/-- What a wait for a block is to return. -/
def answer (block : Address) (machine : Sequential δ) : Except Fault Completion :=
  match machine.ending block with
  | none => .error (.request (.notPending block))
  | some ending => ending.verdict block

/-- What an action of a bridge means here: only requests that were accepted and
waits make a difference. -/
def step (kind : Device δ ε) (machine : Sequential δ) :
    Bridge.Action × Session.Answer → Sequential δ
  | (.submit request, .done (.ok ())) => machine.submit kind request
  | (.wait block _, _) => machine.forget block
  | _ => machine

/-- The device after everything that was done in a run of a bridge. -/
def after (kind : Device δ ε) (device : δ) (history : Bridge.History) : Sequential δ :=
  history.foldl (step kind) { device }

theorem after_concat (kind : Device δ ε) (device : δ) (past : Bridge.History)
    (last : Bridge.Action × Session.Answer) :
    after kind device (past ++ [last]) = (after kind device past).step kind last :=
  List.foldl_append

end Sequential

/-! ## The invariant -/

/-- The frames that a client has dropped, for whatever reason. -/
def ClientCounters.dropped (stats : ClientCounters) : Nat :=
  stats.malformedDropped + stats.unexpectedDropped + stats.staleDropped

namespace Bridge

variable {δ ε : Type}

/-- A bridge is in step with a sequential device.  Exactly the given requests were
accepted, nothing was dropped, and no queue has been full since `time`. -/
structure InStep (kind : Device δ ε) (start : δ) (time : Timeline) (requests : List Request)
    (machine : Sequential δ) (traffic : Traffic) (bridge : Bridge δ) : Prop where
  carries : Attended.Carries kind start traffic bridge.channel
  sent : traffic.requests = requests
  device : machine.device = Request.carryOut kind requests start
  tracks : Tracks bridge.client.pending (traffic.onTheWay kind start) machine.ending
  quiet : ∀ side, Loopback.overflows side bridge.time = Loopback.overflows side time
  clean : bridge.client.stats.dropped = 0

namespace InStep

variable {kind : Device δ ε} {start : δ} {time : Timeline} {requests : List Request}
  {machine : Sequential δ} {traffic : Traffic} {bridge : Bridge δ}

/-- All that is on its way has room in one queue. -/
theorem roomy (h : InStep kind start time requests machine traffic bridge) :
    (traffic.onTheWay kind start).length ≤ Loopback.depth := by
  obtain ⟨hsize, hlimit, hdepth⟩ := h.tracks.length_le_depth
  omega

/-- The server's turns change nothing about what is on its way. -/
theorem same_of_serves (h : InStep kind start time requests machine traffic bridge)
    {after : Traffic} {time' : Timeline}
    (hserves : Traffic.Serves kind start traffic after bridge.time time') :
    after.requests = requests ∧ after.onTheWay kind start = traffic.onTheWay kind start ∧
      ∀ side, Loopback.overflows side time' = Loopback.overflows side time := by
  have hrt := hserves.roomy h.roomy
  refine ⟨hserves.requests.trans h.sent, hserves.lossless hrt, ?_⟩
  intro side
  cases side with
  | hl => exact hserves.hl.trans (h.quiet .hl)
  | rt => exact hrt.trans (h.quiet .rt)

theorem schedule (h : InStep kind start time requests machine traffic bridge)
    (turns : List Nat) :
    InStep kind start time requests machine traffic (bridge.schedule turns) where
  carries := carries_schedule h.carries turns
  sent := h.sent
  device := h.device
  tracks := h.tracks
  quiet := h.quiet
  clean := h.clean

theorem note (h : InStep kind start time requests machine traffic bridge) (notes : List Note) :
    InStep kind start time requests machine traffic (bridge.note notes) where
  carries := h.carries
  sent := h.sent
  device := h.device
  tracks := h.tracks
  quiet side := (Loopback.overflows_note_client side notes bridge.time).trans (h.quiet side)
  clean := h.clean

theorem sleep (h : InStep kind start time requests machine traffic bridge) (duration : Nat) :
    InStep kind start time requests machine traffic (bridge.sleep duration) where
  carries := h.carries
  sent := h.sent
  device := h.device
  tracks := h.tracks
  quiet := h.quiet
  clean := h.clean

theorem serveNext (h : InStep kind start time requests machine traffic bridge)
    (timeout : Nat) :
    ∃ after, InStep kind start time requests machine after (bridge.serveNext kind timeout).2 := by
  obtain ⟨after, hcarries, hserves⟩ := h.carries.serveNext timeout bridge.time
  obtain ⟨hsent, hway, hquiet⟩ := h.same_of_serves hserves
  refine ⟨after, hcarries, hsent, h.device, ?_, hquiet, ?_⟩
  · rw [client_serveNext, hway]
    exact h.tracks
  · rw [client_serveNext]
    exact h.clean

/-- A receive of the client.  Whatever comes is the reply to a request that waits. -/
theorem pump (h : InStep kind start time requests machine traffic bridge) (timeout : Nat) :
    ∃ after received next,
      bridge.pump (Attended.channel kind) timeout = (.ok received, next) ∧
      InStep kind start time requests machine after next := by
  obtain ⟨after, received, next, hpump, hserves, hcame⟩ := pump_of_carries h.carries timeout
  obtain ⟨hsent, hway, hquiet⟩ := h.same_of_serves hserves
  have htracks := h.tracks
  rw [← hway] at htracks
  rcases hcame with ⟨hclient, hcarries⟩ |
    ⟨exchange, rest, frame, hreplied, hframe, _, hclient, hcarries⟩
  · refine ⟨after, received, next, hpump, hcarries, hsent, h.device, ?_, hquiet, ?_⟩
    · rw [hclient]
      exact htracks
    · rw [hclient]
      exact h.clean
  · have hcons : after.onTheWay kind start =
        exchange :: { after with replied := rest }.onTheWay kind start := by
      rw [Traffic.onTheWay, hreplied]
      rfl
    rw [hcons] at htracks
    rcases Client.accept_of_reportedBy hframe bridge.client with
      ⟨_, _, _, haccept⟩ | ⟨hdeaf, _⟩
    · rw [haccept] at hclient
      refine ⟨{ after with replied := rest }, received, next, hpump, hcarries, hsent, h.device,
        ?_, hquiet, ?_⟩
      · rw [hclient]
        exact htracks.deliver
      · rw [hclient]
        exact h.clean
    · obtain ⟨entry, hfind, hawaits, _⟩ := htracks.awaited exchange List.mem_cons_self
      rw [hdeaf entry hfind] at hawaits
      exact absurd hawaits Bool.false_ne_true

/-- Without late requests, a submission leaves the table as it is but for the
new request. -/
theorem evicted (h : InStep kind start time requests machine traffic bridge)
    (hfresh : bridge.client.pending.expired bridge.time.now bridge.client.timeout = []) :
    InStep kind start time requests machine traffic (Session.evicted bridge) ∧
      (Session.evicted bridge).client = bridge.client ∧
      (Session.evicted bridge).time.now = bridge.time.now := by
  have hclient : (bridge.client.evict bridge.time.now).1 = bridge.client := by
    simp only [Client.evict, Pending.Table.evict_of_expired_eq_nil hfresh]
    rfl
  have hevicted : Session.evicted bridge =
      bridge.note (bridge.client.evict bridge.time.now).2 := by
    simp only [Session.evicted, Session.note, hclient]
  rw [hevicted]
  exact ⟨h.note _, rfl, rfl⟩

/-- When the table has room for a request, fewer frames are on their way than a
queue holds, and so the queue has room too. -/
theorem waiting_lt_of_register (h : InStep kind start time requests machine traffic bridge)
    {block : Address} {operation : Operation} {now : Nat} {pending : Pending.Table}
    (hregister : bridge.client.pending.register block operation now = .ok pending) :
    traffic.waiting.length < Loopback.depth := by
  obtain ⟨_, hroom, _, _⟩ := Pending.Table.register_eq_ok_iff.mp hregister
  obtain ⟨hsize, _, hdepth⟩ := h.tracks.length_le_depth
  rw [Traffic.length_onTheWay] at hsize
  omega

/-- A submission is refused by the table or accepted, and never waits for room. -/
theorem submit (h : InStep kind start time requests machine traffic bridge)
    (hfresh : bridge.client.pending.expired bridge.time.now bridge.client.timeout = [])
    (request : Request) :
    ∃ result next, bridge.submit kind request = (result, next) ∧
      next.time.now = bridge.time.now ∧
      ((∃ fault, result = .error (.request fault) ∧
          InStep kind start time requests machine traffic next) ∨
        result = .ok () ∧
          InStep kind start time (requests ++ [request]) (machine.submit kind request)
            (traffic.push request) next) := by
  obtain ⟨notes, hsubmit⟩ := submit_eq kind request bridge
  obtain ⟨hevicted, hclient, hnow⟩ := (h.note notes).evicted hfresh
  have hsubmission := (bridge.note notes).submission (Attended.channel kind) request.operation
    request.message
  rw [← hsubmit] at hsubmission
  rcases hsubmitted : bridge.submit kind request with ⟨result, next⟩
  rw [hsubmitted] at hsubmission
  cases hsubmission with
  | @refused fault hregister =>
    exact ⟨_, _, rfl, hnow, .inl ⟨fault, rfl, hevicted⟩⟩
  | unsent hregister hsend =>
    obtain ⟨hfull, _⟩ := hevicted.carries.of_send_error hsend
    have hroom := hevicted.waiting_lt_of_register hregister
    omega
  | @sent pending state time' said hregister hsend =>
    obtain ⟨hcarries, rfl⟩ := hevicted.carries.of_send_ok hsend
    refine ⟨_, _, rfl, hnow, .inr ⟨rfl, hcarries, ?_, ?_, ?_, ?_, ?_⟩⟩
    · rw [Traffic.requests_push, h.sent]
    · show (request.execute kind machine.device).2 = _
      rw [h.device, Request.carryOut_append]
      rfl
    · rw [Traffic.onTheWay_push]
      have hending : (traffic.exchange kind start request).ending =
          (request.execute kind machine.device).1 := by
        rw [h.device, ← h.sent]
        rfl
      rw [request.block_message] at hregister
      have htracks : Tracks pending
          (traffic.onTheWay kind start ++ [traffic.exchange kind start request])
          (Function.update machine.ending request.block
            (some (traffic.exchange kind start request).ending)) :=
        hevicted.tracks.register hregister
      rw [hending] at htracks
      exact htracks
    · intro side
      rw [Loopback.overflows_note_client]
      exact hevicted.quiet side
    · exact hevicted.clean

/-- A wait that does not give up returns what a sequential device answers. -/
theorem wait (h : InStep kind start time requests machine traffic bridge) (block : Address) :
    ∃ result next, bridge.wait (Attended.channel kind) block = (result, next) ∧
      (result = .error (.timeout block) ∨
        result = machine.answer block ∧
          ∃ after, InStep kind start time requests (machine.forget block) after next) := by
  obtain ⟨last, hpumped, hending⟩ := bridge.wait_ends (Attended.channel kind) block
  have hlast : ∃ after, InStep kind start time requests machine after last := by
    refine Session.Pumped.preserves (P := fun bridge : Bridge δ =>
      ∃ after, InStep kind start time requests machine after bridge) ?_ hpumped ⟨traffic, h⟩
    rintro before next timeout received hpump ⟨traffic, hbefore⟩
    obtain ⟨after, _, _, hpump', hnext⟩ := hbefore.pump timeout
    rw [hpump'] at hpump
    obtain ⟨_, rfl⟩ := Prod.mk.inj hpump
    exact ⟨after, hnext⟩
  obtain ⟨after, hlast⟩ := hlast
  rcases hwait : bridge.wait (Attended.channel kind) block with ⟨result, next⟩
  rw [hwait] at hending
  simp only at hending
  cases hending with
  | @settled entry outcome hfind hsettled =>
    refine ⟨_, _, rfl, .inr ⟨?_, after, ?_⟩⟩
    · rw [Sequential.answer, hlast.tracks.settled block entry outcome hfind hsettled]
    · have htracks : Tracks (last.client.pending.erase block) (after.onTheWay kind start)
          (machine.forget block).ending := hlast.tracks.erase (by simp [hfind, hsettled])
      refine InStep.note ?_ _
      cases outcome with
      | read | written | failed =>
        exact ⟨hlast.carries, hlast.sent, hlast.device, htracks, hlast.quiet, hlast.clean⟩
  | absent hfind =>
    refine ⟨_, _, rfl, .inr ⟨?_, after, ?_⟩⟩
    · rw [Sequential.answer, hlast.tracks.absent block hfind]
    · have htracks : Tracks (last.client.pending.erase block) (after.onTheWay kind start)
          (machine.forget block).ending := hlast.tracks.erase (by simp [hfind])
      rw [Pending.Table.erase_of_absent hfind] at htracks
      exact ⟨hlast.carries, hlast.sent, hlast.device, htracks, hlast.quiet, hlast.clean⟩
  | late => exact ⟨_, _, rfl, .inl rfl⟩
  | broken _ _ _ hpump =>
    obtain ⟨_, _, _, hpump', _⟩ := hlast.pump
      (last.client.timeout - (last.time.now - _))
    rw [hpump'] at hpump
    exact absurd (Prod.mk.inj hpump).1 nofun

/-- Every action that abandons no request keeps a bridge in step. -/
theorem act (h : InStep kind start time requests machine traffic bridge) {action : Action}
    (hkept : ¬Abandons kind bridge action) :
    ∃ after, InStep kind start time
      (requests ++ accepted [(action, (Bridge.act kind action bridge).1)])
      (machine.step kind (action, (Bridge.act kind action bridge).1)) after
      (Bridge.act kind action bridge).2 := by
  cases action with
  | submit request =>
    obtain ⟨result, next, hsubmit, _, hcases⟩ := h.submit (Decidable.not_not.mp hkept) request
    simp only [Bridge.act, hsubmit]
    rcases hcases with ⟨fault, rfl, hnext⟩ | ⟨rfl, hnext⟩
    · refine ⟨traffic, ?_⟩
      rw [show accepted [_] = [] from rfl, List.append_nil]
      exact hnext
    · exact ⟨traffic.push request, hnext⟩
  | wait block turns =>
    obtain ⟨result, next, hwait, hcases⟩ := (h.schedule turns).wait block
    simp only [Abandons, Bridge.act, hwait] at hkept ⊢
    rcases hcases with rfl | ⟨rfl, after, hnext⟩
    · exact absurd rfl hkept
    · refine ⟨after, ?_⟩
      rw [show accepted [_] = [] from rfl, List.append_nil]
      exact hnext
  | pump timeout turns =>
    obtain ⟨after, received, next, hpump, hnext⟩ := (h.schedule turns).pump timeout
    refine ⟨after, ?_⟩
    simp only [Bridge.act, hpump]
    rw [show accepted [_] = [] from rfl, List.append_nil]
    exact hnext
  | cancel block =>
    have habsent : bridge.client.pending.find? block = none := by
      simpa [Abandons, Pending.Table.contains] using hkept
    have hsame : (Session.cancel block bridge).2 = bridge := by
      simp only [Session.cancel, Client.cancel, Pending.Table.cancel,
        Pending.Table.erase_of_absent habsent]
    refine ⟨traffic, ?_⟩
    show InStep kind start time (requests ++ []) machine traffic (Session.cancel block bridge).2
    rw [List.append_nil, hsame]
    exact h
  | serve timeout =>
    obtain ⟨after, hnext⟩ := h.serveNext timeout
    refine ⟨after, ?_⟩
    show InStep kind start time (requests ++ []) machine after (bridge.serveNext kind timeout).2
    rw [List.append_nil]
    exact hnext
  | sleep duration =>
    refine ⟨traffic, ?_⟩
    show InStep kind start time (requests ++ []) machine traffic (bridge.sleep duration)
    rw [List.append_nil]
    exact h.sleep duration

/-- A bridge over which nothing has been sent yet is in step. -/
theorem ofConfig (kind : Device δ ε) (config : Config) (device : δ) (time : Timeline) :
    InStep kind device time [] { device } {} (Bridge.ofConfig config device time) where
  carries := carries_ofConfig kind config device time
  sent := rfl
  device := rfl
  tracks := ⟨List.nodup_nil, nofun, nofun, nofun, fun _ _ => rfl⟩
  quiet _ := rfl
  clean := rfl

/-- And so it is after every run that abandons no request. -/
theorem play {config : Config} {device : δ} {actions : List Action}
    (hkeeps : Keeps kind actions (Bridge.ofConfig config device time)) :
    ∃ traffic, InStep kind device time
      (accepted (Bridge.play kind actions (Bridge.ofConfig config device time)).1)
      (Sequential.after kind device
        (Bridge.play kind actions (Bridge.ofConfig config device time)).1)
      traffic (Bridge.play kind actions (Bridge.ofConfig config device time)).2 := by
  refine Keeps.preserves (P := fun past bridge => ∃ traffic, InStep kind device time
    (accepted past) (Sequential.after kind device past) traffic bridge) ?_ hkeeps []
    ⟨{}, InStep.ofConfig kind config device time⟩
  rintro past bridge action hkept ⟨traffic, h⟩
  rw [accepted_append, Sequential.after_concat]
  exact h.act hkept

end InStep

/-! ## Runs -/

/-- A wait for a result that is here does not give up. -/
theorem not_abandons_wait_of_settled {kind : Device δ ε} {bridge : Bridge δ} {block : Address}
    {entry : Pending.Entry} {outcome : Completion}
    (hfind : bridge.client.pending.find? block = some entry)
    (hsettled : entry.outcome = some outcome) (turns : List Nat) :
    ¬Abandons kind bridge (.wait block turns) := by
  have hwait : (bridge.schedule turns).wait (Attended.channel kind) block = _ :=
    Session.wait_of_settled hfind hsettled
  simp only [Abandons, act, hwait]
  cases outcome <;> simp [Completion.verdict]

/-- In every run that abandons no request, every wait returns what a sequential
device answers after what was done before; the device has been through a first
part of the accepted requests, in their order; and neither side has dropped
anything. -/
theorem sequential_of_keeps (kind : Device δ ε) (config : Config) (device : δ) (time : Timeline)
    (actions : List Action) (hkeeps : Keeps kind actions (ofConfig config device time)) :
    let played := play kind actions (ofConfig config device time)
    (∀ earlier later block turns answer,
      played.1 = earlier ++ (.wait block turns, answer) :: later →
        answer = .completion ((Sequential.after kind device earlier).answer block)) ∧
    (∃ served waiting, accepted played.1 = served ++ waiting ∧
      played.2.server.device = Request.carryOut kind served device) ∧
    (played.2.client.stats.staleDropped = 0 ∧ played.2.client.stats.malformedDropped = 0 ∧
      played.2.client.stats.unexpectedDropped = 0) ∧
    (played.2.server.stats.malformedDropped = 0 ∧
      played.2.server.stats.unexpectedDropped = 0) := by
  intro played
  obtain ⟨traffic, h⟩ := InStep.play hkeeps
  refine ⟨?_, ⟨traffic.served, traffic.waiting, h.sent.symm, h.carries.device⟩, ?_,
    h.carries.malformed, h.carries.unexpected⟩
  · intro earlier later block turns answer hsplit
    obtain ⟨before, after, rfl, hbefore, hanswer⟩ := exists_split_of_play hsplit
    obtain ⟨hkept, hwaits, _⟩ := keeps_append.mp hkeeps
    -- The wait is the next action in the state that the run had reached.
    obtain ⟨traffic, h⟩ := InStep.play hkept
    obtain ⟨result, next, hwait, hcases⟩ := (h.schedule turns).wait block
    simp only [Abandons, act, hwait] at hwaits hanswer
    rcases hcases with rfl | ⟨rfl, _⟩
    · exact absurd rfl hwaits
    · rw [← hanswer, ← hbefore]
      rfl
  · have hclean : played.2.client.stats.malformedDropped +
        played.2.client.stats.unexpectedDropped + played.2.client.stats.staleDropped = 0 := h.clean
    omega

/-- The write and the read are in flight together, and the read is waited for
while the outcome of the write is there, too. -/
theorem sequential_write_and_read :
    let actions : List Action :=
      [.submit (.write 0 .zero), .submit (.read 1), .serve 0, .serve 0, .pump 0 [], .pump 0 [],
        .wait 1 []]
    let disk : RamDisk := { blocks := [.zero, .zero] }
    let played := play RamDisk.device actions (ofConfig {} disk {})
    Keeps RamDisk.device actions (ofConfig {} disk {}) ∧
      ∀ earlier later block turns answer,
        played.1 = earlier ++ (.wait block turns, answer) :: later →
          answer = .completion
            ((Sequential.after RamDisk.device disk earlier).answer block) := by
  intro actions disk played
  have hkeeps : Keeps RamDisk.device actions (ofConfig {} disk {}) := by
    refine ⟨?_, ?_, id, id, id, id, ?_, trivial⟩
    · exact not_not.mpr (by decide +kernel)
    · exact not_not.mpr (by decide +kernel)
    · refine not_abandons_wait_of_settled (?_ : _ =
        some { operation := .read, issuedAt := 0, outcome := some (.read .zero) }) rfl []
      decide +kernel
  exact ⟨hkeeps, (sequential_of_keeps RamDisk.device {} disk {} actions hkeeps).1⟩

end Bridge
end BlockBridge

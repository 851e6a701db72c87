import BlockBridge.Proofs.Bridge.Run
import BlockBridge.Proofs.Bridge.Traffic
import Mathlib.Data.List.Forall2

/-!
# The loopback and its server as the traffic says

What the queues hold and what the server has done is settled by the traffic
(`Attended.Carries`): the queue to the server holds the frames of the requests
that wait, the queue to the client the frames that report the replies, and the
device has been through the requests that were served.

A server that is in step with the traffic stays so whatever turns it gets
(`Attended.Carries.attend`), and loses a reply only when the queue to the client
is full.  At the client's end a receive never fails (`Bridge.pump_of_carries`),
and a send fails only when the queue to the server is full
(`Attended.Carries.send`).
-/

namespace BlockBridge

/-- A frame reports an exchange: the block, the operation and how the request ended. -/
def Exchange.ReportedBy (exchange : Exchange) (frame : Bytes) : Prop :=
  ∃ message, Message.decode frame = .ok message ∧ message.block = exchange.request.block ∧
    message.outcome? = some (exchange.request.operation, exchange.ending)

namespace Attended

variable {δ ε : Type}

/-- The loopback and the server are as the traffic says.  The device started out
as `start`, and every reply reports an exchange that took place. -/
structure Carries (kind : Device δ ε) (start : δ) (traffic : Traffic)
    (attended : Attended δ) : Prop where
  opened : attended.link.closed = false
  device : attended.server.device = Request.carryOut kind traffic.served start
  waiting : attended.link.toRt = traffic.waiting.map fun request => request.message.encode
  replied : List.Forall₂ Exchange.ReportedBy traffic.replied attended.link.toHl
  known : traffic.replied.Sublist (Request.transcript kind 0 traffic.served start)
  malformed : attended.server.stats.malformedDropped = 0
  unexpected : attended.server.stats.unexpectedDropped = 0

variable {kind : Device δ ε} {start : δ} {traffic : Traffic} {attended : Attended δ}

/-- The queues hold as many frames as there are exchanges on their way. -/
theorem Carries.traffic_eq (h : Carries kind start traffic attended) :
    attended.traffic = (traffic.onTheWay kind start).length := by
  rw [Traffic.length_onTheWay, Attended.traffic, h.waiting, List.length_map, h.replied.length_eq]
  exact Nat.add_comm _ _

/-- A reply on its way is about a request that the server has carried out. -/
theorem Carries.number_lt (h : Carries kind start traffic attended) {exchange : Exchange}
    (hmem : exchange ∈ traffic.replied) : exchange.number < traffic.served.length := by
  obtain ⟨earlier, later, hserved, hnumber, _⟩ :=
    Request.split_of_mem_transcript (h.known.subset hmem)
  rw [hserved, List.length_append, List.length_cons]
  omega

/-- A server at an open loopback without requests has nothing to do. -/
theorem serveNext_of_nil (hopen : attended.link.closed = false) (hqueue : attended.link.toRt = [])
    (kind : Device δ ε) (timeout : Nat) (time : Timeline) :
    attended.serveNext kind timeout time = (.ok false, attended, time.sleep timeout) := by
  have hempty : attended.link.queue .rt = [] := hqueue
  have hreceive := Loopback.receive_of_open hempty hopen timeout time
  simp only [serveNext, Service.serveNext, Loopback.channel]
  rw [hreceive]

/-- A server that takes the frame of a request carries it out and sends the
reply, or finds no room for the reply. -/
theorem serveNext_of_cons (hopen : attended.link.closed = false) {request : Request}
    {rest : List Bytes} (hqueue : attended.link.toRt = request.message.encode :: rest)
    (kind : Device δ ε) (timeout : Nat) (time : Timeline) :
    ∃ reply server notes,
      Exchange.ReportedBy
        ⟨0, request, (request.execute kind attended.server.device).1⟩ reply ∧
      server.device = (request.execute kind attended.server.device).2 ∧
      server.stats.malformedDropped = attended.server.stats.malformedDropped ∧
      server.stats.unexpectedDropped = attended.server.stats.unexpectedDropped ∧
      attended.serveNext kind timeout time =
        if attended.link.toHl.length < Loopback.depth then
          (.ok true,
            { attended with
              server
              link := { attended.link with toRt := rest, toHl := attended.link.toHl ++ [reply] } },
            time.note Server.logTarget notes)
        else
          (.error (.channel .queueFull),
            { attended with server, link := { attended.link with toRt := rest } },
            ((time.note Server.logTarget notes).sleep Loopback.sendBound).note Loopback.logTarget
              [Loopback.overflow .rt]) := by
  have hthere : attended.link.queue .rt = request.message.encode :: rest := hqueue
  have hreceive := Loopback.receive_of_cons hthere timeout time
  obtain ⟨reply, server, notes, hhandle, hblock, houtcome, hdevice, hmalformed, hunexpected⟩ :=
    Server.handleFrame_of_request kind request.message.decode_encode attended.server
  refine ⟨reply.encode, server, notes, ⟨reply, reply.decode_encode, hblock, houtcome⟩, hdevice,
    hmalformed, hunexpected, ?_⟩
  have hsize := Loopback.length_encode_le reply
  simp only [serveNext, Service.serveNext, Loopback.channel]
  rw [hreceive]
  simp only
  rw [hhandle]
  simp only
  have hopen' : (attended.link.setQueue rest .rt).closed = false := hopen
  by_cases hroom : attended.link.toHl.length < Loopback.depth
  · have hroom' : ((attended.link.setQueue rest .rt).queue Loopback.End.rt.peer).length <
        Loopback.depth := hroom
    rw [if_pos hroom, Loopback.send_of_room hopen' hsize hroom']
    rfl
  · have hfull : Loopback.depth ≤
        ((attended.link.setQueue rest .rt).queue Loopback.End.rt.peer).length :=
      Nat.le_of_not_lt hroom
    rw [if_neg hroom, Loopback.send_of_full hopen' hsize hfull]
    rfl

/-- The device has carried out the request that is served next. -/
theorem Carries.device_perform (h : Carries kind start traffic attended) (request : Request) :
    (request.execute kind attended.server.device).2 =
      Request.carryOut kind (traffic.served ++ [request]) start := by
  rw [Request.carryOut_append, ← h.device]
  rfl

/-- One step of the server. -/
theorem Carries.serveNext (h : Carries kind start traffic attended) (timeout : Nat)
    (time : Timeline) :
    ∃ after, Carries kind start after (attended.serveNext kind timeout time).2.1 ∧
      Traffic.Serves kind start traffic after time
        (attended.serveNext kind timeout time).2.2 := by
  rcases hwaiting : traffic.waiting with _ | ⟨request, rest⟩
  · have hqueue : attended.link.toRt = [] := by
      rw [h.waiting, hwaiting]
      rfl
    rw [serveNext_of_nil h.opened hqueue]
    exact ⟨traffic, h, .of_overflows_eq traffic fun side => Loopback.overflows_sleep side _ _⟩
  have hqueue : attended.link.toRt =
      request.message.encode :: rest.map fun request => request.message.encode := by
    rw [h.waiting, hwaiting]
    rfl
  obtain ⟨reply, server, notes, hreply, hdevice, hmalformed, hunexpected, hserved⟩ :=
    serveNext_of_cons h.opened hqueue kind timeout time
  have htranscript := Traffic.transcript_perform kind start request rest traffic
  rw [hserved]
  by_cases hroom : attended.link.toHl.length < Loopback.depth
  · -- The reply follows the others, so what is on its way stays the same.
    rw [if_pos hroom]
    rw [h.device] at hreply
    refine ⟨(traffic.perform request rest).reply (traffic.made kind start request), ?_,
      .reply hwaiting fun side => Loopback.overflows_note_server side _ _⟩
    refine ⟨h.opened, hdevice.trans (h.device_perform request), rfl, ?_, ?_,
      hmalformed.trans h.malformed, hunexpected.trans h.unexpected⟩
    · exact List.rel_append h.replied (.cons hreply .nil)
    · show (traffic.replied ++ _).Sublist
        (Request.transcript kind 0 (traffic.perform request rest).served start)
      rw [htranscript]
      exact h.known.append (List.Sublist.refl _)
  · -- The reply is lost, and with it the exchange.
    rw [if_neg hroom]
    rw [← h.replied.length_eq] at hroom
    have hcounted (side : Loopback.End) :
        Loopback.overflows side (((time.note Server.logTarget notes).sleep
            Loopback.sendBound).note Loopback.logTarget [Loopback.overflow .rt]) =
          Loopback.overflows side time + if .rt = side then 1 else 0 := by
      rw [Loopback.overflows_note_overflow, Loopback.overflows_sleep,
        Loopback.overflows_note_server]
    refine ⟨traffic.perform request rest, ?_,
      .lose hwaiting (Nat.le_of_not_lt hroom) (hcounted .hl) (hcounted .rt)⟩
    refine ⟨h.opened, hdevice.trans (h.device_perform request), rfl, h.replied, ?_,
      hmalformed.trans h.malformed, hunexpected.trans h.unexpected⟩
    rw [htranscript]
    exact h.known.trans (List.sublist_append_left _ _)

/-- A server whose loopback has room for everything on its way serves a frame
if there is one, and takes no time for it. -/
theorem Carries.serveNext_eq_ok (h : Carries kind start traffic attended)
    (hroom : (traffic.onTheWay kind start).length ≤ Loopback.depth) (timeout : Nat)
    (time : Timeline) :
    (attended.serveNext kind timeout time).1 = .ok (!attended.link.toRt.isEmpty) ∧
      (attended.link.toRt ≠ [] → (attended.serveNext kind timeout time).2.2.now = time.now) := by
  rcases hwaiting : traffic.waiting with _ | ⟨request, rest⟩
  · have hqueue : attended.link.toRt = [] := by
      rw [h.waiting, hwaiting]
      rfl
    rw [serveNext_of_nil h.opened hqueue, hqueue]
    exact ⟨rfl, fun hsome => absurd rfl hsome⟩
  · have hqueue : attended.link.toRt =
        request.message.encode :: rest.map fun request => request.message.encode := by
      rw [h.waiting, hwaiting]
      rfl
    obtain ⟨reply, server, notes, _, _, _, _, hserved⟩ :=
      serveNext_of_cons h.opened hqueue kind timeout time
    have hfree : attended.link.toHl.length < Loopback.depth := by
      rw [Traffic.length_onTheWay, hwaiting, List.length_cons, h.replied.length_eq] at hroom
      omega
    rw [hserved, if_pos hfree, hqueue]
    exact ⟨rfl, fun _ => rfl⟩

/-- Any number of turns of the server. -/
theorem Carries.attend (h : Carries kind start traffic attended) (turns : Nat)
    (time : Timeline) :
    ∃ after, Carries kind start after (attended.attend kind turns time).1 ∧
      Traffic.Serves kind start traffic after time (attended.attend kind turns time).2 := by
  induction turns generalizing traffic attended time with
  | zero => exact ⟨traffic, h, .of_overflows_eq traffic fun _ => rfl⟩
  | succ turns ih =>
    obtain ⟨middle, hmiddle, hfirst⟩ := h.serveNext 0 time
    obtain ⟨after, hafter, hrest⟩ := ih hmiddle (attended.turn kind time).2
    exact ⟨after, hafter, hfirst.trans hrest⟩

/-- A receive at the client's end, after the turns of the server: the first
reply, or nothing because there is none.  The channel does not fail. -/
theorem Carries.receive (h : Carries kind start traffic attended) (timeout : Nat)
    (time : Timeline) :
    ∃ after, Traffic.Serves kind start traffic after time
        (attended.receive kind timeout time).2.2 ∧
      ((after.replied = [] ∧ (attended.receive kind timeout time).1 = .ok none ∧
          Carries kind start after (attended.receive kind timeout time).2.1) ∨
        ∃ exchange rest frame, after.replied = exchange :: rest ∧
          (attended.receive kind timeout time).1 = .ok (some frame) ∧
          exchange.ReportedBy frame ∧ exchange.number < after.served.length ∧
          Carries kind start { after with replied := rest }
            (attended.receive kind timeout time).2.1) := by
  have hcarries : Carries kind start traffic { attended with turns := attended.turns.tail } :=
    ⟨h.opened, h.device, h.waiting, h.replied, h.known, h.malformed, h.unexpected⟩
  obtain ⟨after, hafter, hserves⟩ := hcarries.attend (attended.turns.headD 0) time
  refine ⟨after, ?_⟩
  unfold Attended.receive prepare
  generalize hprepared : Attended.attend kind (attended.turns.headD 0)
    { attended with turns := attended.turns.tail } time = prepared at hafter hserves ⊢
  obtain ⟨ready, late⟩ := prepared
  simp only at hafter hserves ⊢
  unfold collect
  rcases hreplied : after.replied with _ | ⟨exchange, rest⟩
  · have hqueue : ready.link.queue .hl = [] := by
      have hreported := hafter.replied
      rw [hreplied] at hreported
      exact List.forall₂_nil_left_iff.mp hreported
    rw [Loopback.receive_of_open hqueue hafter.opened]
    refine ⟨?_, .inl ⟨rfl, rfl, hafter⟩⟩
    exact hserves.trans (.of_overflows_eq after fun side => Loopback.overflows_sleep side _ _)
  · have hreported := hafter.replied
    rw [hreplied] at hreported
    obtain ⟨frame, frames, hframe, hframes, hlink⟩ := List.forall₂_cons_left_iff.mp hreported
    have hqueue : ready.link.queue .hl = frame :: frames := hlink
    rw [Loopback.receive_of_cons hqueue]
    have hserved : exchange.number < after.served.length := by
      apply hafter.number_lt
      rw [hreplied]
      exact List.mem_cons_self
    refine ⟨hserves, .inr ⟨exchange, rest, frame, rfl, rfl, hframe, hserved, ?_⟩⟩
    have hknown := hafter.known
    rw [hreplied] at hknown
    exact ⟨hafter.opened, hafter.device, hafter.waiting, hframes,
      (List.sublist_cons_self _ _).trans hknown, hafter.malformed, hafter.unexpected⟩

/-- A send at the client's end puts the request behind the others, unless there
is no room. -/
theorem Carries.send (h : Carries kind start traffic attended) (request : Request)
    (time : Timeline) :
    if traffic.waiting.length < Loopback.depth then
      ∃ after, attended.send request.message.encode time = (.ok (), after, time) ∧
        Carries kind start (traffic.push request) after
    else
      attended.send request.message.encode time =
        (.error .queueFull, attended,
          (time.sleep Loopback.sendBound).note Loopback.logTarget [Loopback.overflow .hl]) := by
  have hsize := Loopback.length_encode_le request.message
  have hlength : (attended.link.queue Loopback.End.hl.peer).length = traffic.waiting.length := by
    show attended.link.toRt.length = _
    rw [h.waiting, List.length_map]
  by_cases hroom : traffic.waiting.length < Loopback.depth
  · rw [if_pos hroom]
    rw [← hlength] at hroom
    unfold Attended.send
    rw [Loopback.send_of_room h.opened hsize hroom]
    refine ⟨_, rfl, h.opened, h.device, ?_, h.replied, h.known, h.malformed, h.unexpected⟩
    show attended.link.toRt ++ [request.message.encode] = _
    rw [h.waiting, Traffic.push, List.map_append]
    rfl
  · rw [if_neg hroom]
    rw [← hlength] at hroom
    unfold Attended.send
    rw [Loopback.send_of_full h.opened hsize (Nat.le_of_not_lt hroom)]
    rfl

/-- Whatever comes of a send at the client's end, it is none of the server's. -/
theorem overflows_rt_of_send {frame : Bytes} {after : Attended δ} {time time' : Timeline}
    {result : Except ChannelFault Unit}
    (h : attended.send frame time = (result, after, time')) :
    Loopback.overflows .rt time' = Loopback.overflows .rt time := by
  unfold send at h
  rcases hsend : Loopback.send .hl frame attended.link time with ⟨sent, link, late⟩
  rw [hsend] at h
  cases h
  exact Loopback.overflows_send_of_ne hsend nofun

/-- A send that fails found no room, and leaves everything where it is. -/
theorem Carries.of_send_error {request : Request} {fault : ChannelFault} {after : Attended δ}
    {time time' : Timeline} (h : Carries kind start traffic attended)
    (hsend : attended.send request.message.encode time = (.error fault, after, time')) :
    Loopback.depth ≤ traffic.waiting.length ∧ after = attended := by
  have hsent := h.send request time
  by_cases hroom : traffic.waiting.length < Loopback.depth
  · rw [if_pos hroom] at hsent
    obtain ⟨_, hsent, _⟩ := hsent
    exact absurd (Prod.mk.inj (hsent.symm.trans hsend)).1 nofun
  · rw [if_neg hroom] at hsent
    obtain ⟨_, hstate⟩ := Prod.mk.inj (hsent.symm.trans hsend)
    exact ⟨Nat.le_of_not_lt hroom, (Prod.mk.inj hstate).1.symm⟩

/-- A send that succeeds takes no time. -/
theorem Carries.of_send_ok {request : Request} {after : Attended δ} {time time' : Timeline}
    (h : Carries kind start traffic attended)
    (hsend : attended.send request.message.encode time = (.ok (), after, time')) :
    Carries kind start (traffic.push request) after ∧ time' = time := by
  have hsent := h.send request time
  by_cases hroom : traffic.waiting.length < Loopback.depth
  · rw [if_pos hroom] at hsent
    obtain ⟨_, hsent, hcarries⟩ := hsent
    obtain ⟨_, hstate⟩ := Prod.mk.inj (hsent.symm.trans hsend)
    obtain ⟨rfl, rfl⟩ := Prod.mk.inj hstate
    exact ⟨hcarries, rfl⟩
  · rw [if_neg hroom] at hsent
    exact absurd (Prod.mk.inj (hsent.symm.trans hsend)).1 nofun

end Attended

/-! ## The client's end -/

/-- A reply settles the request that waits for it, and is stale if none does. -/
theorem Client.accept_of_reportedBy {exchange : Exchange} {frame : Bytes}
    (h : exchange.ReportedBy frame) (client : Client) :
    (∃ entry, client.pending.find? exchange.request.block = some entry ∧
        entry.awaits exchange.request.operation = true ∧
        (client.accept frame).1 =
          { client with
            pending := client.pending.settle exchange.request.block exchange.ending }) ∨
      ((∀ entry, client.pending.find? exchange.request.block = some entry →
          entry.awaits exchange.request.operation = false) ∧
        (client.accept frame).1 =
          { client with
            stats := { client.stats with staleDropped := client.stats.staleDropped + 1 } }) := by
  obtain ⟨message, hdecode, hblock, houtcome⟩ := h
  rw [accept_of_result hdecode houtcome, ← hblock]
  rcases hfind : client.pending.find? message.block with _ | entry
  · rw [Pending.Table.deliver_of_absent hfind]
    exact .inr ⟨nofun, rfl⟩
  · cases hawaits : entry.awaits exchange.request.operation with
    | true =>
      rw [Pending.Table.deliver_of_awaits houtcome hfind hawaits]
      exact .inl ⟨entry, rfl, hawaits, rfl⟩
    | false =>
      rw [Pending.Table.deliver_of_deaf houtcome hfind hawaits]
      refine .inr ⟨?_, rfl⟩
      intro found hfound
      rw [← Option.some.inj hfound]
      exact hawaits

namespace Bridge

variable {δ ε : Type} {kind : Device δ ε} {start : δ} {traffic : Traffic} {bridge : Bridge δ}

/-- A bridge over which nothing has been sent yet has no traffic. -/
theorem carries_ofConfig (kind : Device δ ε) (config : Config) (device : δ) (time : Timeline) :
    Attended.Carries kind device {} (ofConfig config device time).channel :=
  ⟨rfl, rfl, rfl, .nil, List.Sublist.refl _, rfl, rfl⟩

theorem carries_schedule (h : Attended.Carries kind start traffic bridge.channel)
    (turns : List Nat) : Attended.Carries kind start traffic (bridge.schedule turns).channel :=
  ⟨h.opened, h.device, h.waiting, h.replied, h.known, h.malformed, h.unexpected⟩

/-- A receive of the client, after the turns of the server: nothing came, or the
first reply did.  It does not fail. -/
theorem pump_of_carries (h : Attended.Carries kind start traffic bridge.channel)
    (timeout : Nat) :
    ∃ after received next,
      bridge.pump (Attended.channel kind) timeout = (.ok received, next) ∧
      Traffic.Serves kind start traffic after bridge.time next.time ∧
      ((next.client = bridge.client ∧ Attended.Carries kind start after next.channel) ∨
        ∃ exchange rest frame, after.replied = exchange :: rest ∧
          exchange.ReportedBy frame ∧ exchange.number < after.served.length ∧
          next.client = (bridge.client.accept frame).1 ∧
          Attended.Carries kind start { after with replied := rest } next.channel) := by
  obtain ⟨after, hserves, hreceived⟩ := h.receive timeout bridge.time
  have hreception := bridge.reception (Attended.channel kind) timeout
  rcases hpump : bridge.pump (Attended.channel kind) timeout with ⟨result, next⟩
  rw [hpump] at hreception
  cases hreception with
  | broken hreceive =>
    have hreceive' : bridge.channel.receive kind timeout bridge.time = _ := hreceive
    rw [hreceive'] at hreceived
    rcases hreceived with ⟨_, hok, _⟩ | ⟨_, _, _, _, hok, _⟩
    · exact absurd hok nofun
    · exact absurd hok nofun
  | idle hreceive =>
    have hreceive' : bridge.channel.receive kind timeout bridge.time = _ := hreceive
    rw [hreceive'] at hreceived hserves
    rcases hreceived with ⟨_, _, hcarries⟩ | ⟨_, _, _, _, hok, _⟩
    · exact ⟨after, false, _, rfl, hserves, .inl ⟨rfl, hcarries⟩⟩
    · exact absurd hok nofun
  | @frame bytes state time notes hreceive =>
    have hreceive' : bridge.channel.receive kind timeout bridge.time = _ := hreceive
    rw [hreceive'] at hreceived hserves
    rcases hreceived with ⟨_, hok, _⟩ |
      ⟨exchange, rest, frame, hreplied, hok, hframe, hserved, hcarries⟩
    · exact absurd hok nofun
    · obtain rfl : bytes = frame := by simpa using hok
      refine ⟨after, true, _, rfl, ?_,
        .inr ⟨exchange, rest, bytes, hreplied, hframe, hserved, rfl, ?_⟩⟩
      · exact hserves.trans
          (.of_overflows_eq after fun side => Loopback.overflows_note_client side _ _)
      · exact hcarries

end Bridge
end BlockBridge

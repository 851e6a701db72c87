import BlockBridge.Channel.Replay
import BlockBridge.Device.RamDisk
import BlockBridge.Proofs.Server.Frames
import BlockBridge.Server.Service
import Mathlib.Data.List.ReduceOption

/-!
# Serving until told to stop

A run takes turns: it looks at the stop flag, receives once, and sends the reply if there
is one.  It ends between two turns, with the flag set, or within one, with a fault of the
channel.  The request of the turn it ends in has been carried out even if its reply did not
get through.

To say which uses a run makes of its feed, the feed is replaced by one that keeps a note of
each, in order, and otherwise does the same (`Service.run_observed`).

Main statement: `Service.run_until_stop_or_fault`.
-/

namespace BlockBridge

/-! ## Observed feeds -/

namespace Feed

/-- A use of a feed, and what came of it. -/
inductive Use where
  /-- A receive, and whether the stop flag was set when it was begun. -/
  | received (stopped : Bool) (result : Except ChannelFault (Option Bytes))
  /-- A send. -/
  | sent (frame : Bytes) (result : Except ChannelFault Unit)

namespace Use

/-- The frame that was received. -/
def arrived? : Use → Option Bytes
  | received _ (.ok frame?) => frame?
  | received _ (.error _) | sent .. => none

/-- The frame that was to be sent. -/
def offered? : Use → Option Bytes
  | sent frame _ => some frame
  | received .. => none

/-- The frame that was sent. -/
def accepted? : Use → Option Bytes
  | sent frame (.ok ()) => some frame
  | sent _ (.error _) | received .. => none

/-- The fault that a use failed with. -/
def fault? : Use → Option ChannelFault
  | received _ (.error fault) | sent _ (.error fault) => some fault
  | received _ (.ok _) | sent _ (.ok ()) => none

/-- The frame that was not sent, if that is how it ended. -/
def lost (uses : List Use) : List Bytes :=
  match uses.getLast? with
  | some (sent frame (.error _)) => [frame]
  | some (sent _ (.ok ())) | some (received ..) | none => []

/-- If no use but the last failed, all frames that were to be sent were sent, except for the
one that is lost. -/
theorem accepted_append_lost {uses : List Use} (h : ∀ use ∈ uses.dropLast, use.fault? = none) :
    uses.filterMap accepted? ++ lost uses = uses.filterMap offered? := by
  rcases List.eq_nil_or_concat uses with rfl | ⟨earlier, last, rfl⟩
  · rfl
  rw [List.concat_eq_append] at h ⊢
  have hearlier : earlier.filterMap accepted? = earlier.filterMap offered? := by
    apply List.filterMap_congr
    intro use huse
    have hfine : use.fault? = none := h use (by rwa [List.dropLast_concat])
    cases use with
    | received stopped result => rfl
    | sent frame result =>
      cases result with
      | ok => rfl
      | error fault => cases hfine
  rw [List.filterMap_append, List.filterMap_append, hearlier, List.append_assoc, lost,
    List.getLast?_concat]
  cases last with
  | received stopped result => rfl
  | sent frame result => cases result <;> rfl

end Use

/-- A feed's state and the uses that were made of it, oldest first. -/
structure Observed (σ : Type) where
  state : σ
  uses : List Use := []

variable {σ : Type}

/-- A feed that does as another one does and notes each use. -/
def observed (feed : Feed σ) : Feed (Observed σ) where
  send frame link time :=
    let (result, state, time) := feed.send frame link.state time
    (result, { state, uses := link.uses ++ [.sent frame result] }, time)
  receive timeout link time :=
    let (result, state, time) := feed.receive timeout link.state time
    (result, { state, uses := link.uses ++ [.received (feed.stopped link.state) result] }, time)
  backlog link := feed.backlog link.state
  backlog_lt h := by
    simp only [Prod.mk.injEq] at h
    obtain ⟨hresult, rfl, rfl⟩ := h
    exact feed.backlog_lt (Prod.ext hresult rfl)
  idle h := by
    simp only [Prod.mk.injEq] at h
    obtain ⟨hresult, rfl, rfl⟩ := h
    exact feed.idle (Prod.ext hresult rfl)
  stopped link := feed.stopped link.state
  work link := feed.work link.state
  work_lt hstopped h := by
    simp only [Prod.mk.injEq] at h
    obtain ⟨hresult, rfl, rfl⟩ := h
    exact feed.work_lt hstopped (Prod.ext hresult rfl)
  work_send_le frame link time := feed.work_send_le frame link.state time

theorem receive_observed (feed : Feed σ) (timeout : Nat) (link : Observed σ) (time : Timeline) :
    feed.observed.receive timeout link time =
      ((feed.receive timeout link.state time).1,
        { state := (feed.receive timeout link.state time).2.1
          uses := link.uses ++
            [.received (feed.stopped link.state) (feed.receive timeout link.state time).1] },
        (feed.receive timeout link.state time).2.2) := rfl

theorem send_observed (feed : Feed σ) (frame : Bytes) (link : Observed σ) (time : Timeline) :
    feed.observed.send frame link time =
      ((feed.send frame link.state time).1,
        { state := (feed.send frame link.state time).2.1
          uses := link.uses ++ [.sent frame (feed.send frame link.state time).1] },
        (feed.send frame link.state time).2.2) := rfl

end Feed

open Feed (Use Observed)

variable {δ ε σ : Type}

/-! ## What the server makes of a feed -/

/-- That a server, when these uses were made of its feed, has dealt with each frame in order
and offered each reply, has not received with the stop flag set, and has gone no further
after a fault. -/
structure Server.Serves (kind : Device δ ε) (server : Server δ) (uses : List Use)
    (after : Server δ) : Prop where
  handled : after = (server.handleFrames kind (uses.filterMap Use.arrived?)).2
  replied : uses.filterMap Use.offered? =
    (server.handleFrames kind (uses.filterMap Use.arrived?)).1.reduceOption
  unstopped : ∀ result, .received true result ∉ uses
  fine : ∀ use ∈ uses.dropLast, use.fault? = none

theorem Server.handleFrames_singleton {kind : Device δ ε} {server after : Server δ}
    {frame : Bytes} {reply? : Option Bytes} {notes : List Note}
    (h : server.handleFrame kind frame = (reply?, after, notes)) :
    server.handleFrames kind [frame] = ([reply?], after) := by
  rw [handleFrames, h]
  rfl

namespace Server.Serves

variable {kind : Device δ ε} {server between after : Server δ} {uses more : List Use}

theorem nil (kind : Device δ ε) (server : Server δ) : Serves kind server [] server where
  handled := rfl
  replied := rfl
  unstopped _ := List.not_mem_nil
  fine _ huse := absurd huse List.not_mem_nil

/-- After uses of which none failed a server may go on. -/
theorem append (h : Serves kind server uses between) (hfine : ∀ use ∈ uses, use.fault? = none)
    (hmore : Serves kind between more after) : Serves kind server (uses ++ more) after where
  handled := by
    rw [List.filterMap_append, handleFrames_append, ← h.handled]
    exact hmore.handled
  replied := by
    rw [List.filterMap_append, List.filterMap_append, handleFrames_append,
      List.reduceOption_append, ← h.handled, h.replied, hmore.replied]
  unstopped result huse := by
    rcases List.mem_append.mp huse with huse | huse
    · exact h.unstopped result huse
    · exact hmore.unstopped result huse
  fine use huse := by
    -- If there are no more uses the last one is still the last, else it is one of those before.
    cases more with
    | nil =>
      rw [List.append_nil] at huse
      exact h.fine use huse
    | cons first rest =>
      rw [List.dropLast_append_cons] at huse
      rcases List.mem_append.mp huse with huse | huse
      · exact hfine use huse
      · exact hmore.fine use huse

/-- A receive that brings no frame leaves the server as it is. -/
theorem no_frame (kind : Device δ ε) (server : Server δ)
    {result : Except ChannelFault (Option Bytes)}
    (h : (Use.received false result).arrived? = none) :
    Serves kind server [.received false result] server where
  handled := by
    rw [List.filterMap_cons_none h]
    rfl
  replied := by
    rw [List.filterMap_cons_none h]
    rfl
  unstopped _ huse := by cases List.mem_singleton.mp huse
  fine _ huse := absurd huse List.not_mem_nil

/-- A frame without a reply. -/
theorem no_reply {frame : Bytes} {notes : List Note}
    (h : server.handleFrame kind frame = (none, after, notes)) :
    Serves kind server [.received false (.ok (some frame))] after where
  handled := congrArg Prod.snd (handleFrames_singleton h).symm
  replied := congrArg (List.reduceOption ∘ Prod.fst) (handleFrames_singleton h).symm
  unstopped _ huse := by cases List.mem_singleton.mp huse
  fine _ huse := absurd huse List.not_mem_nil

/-- A frame with a reply, whatever comes of sending it. -/
theorem reply {frame reply : Bytes} {notes : List Note}
    (h : server.handleFrame kind frame = (some reply, after, notes))
    (result : Except ChannelFault Unit) :
    Serves kind server [.received false (.ok (some frame)), .sent reply result] after where
  handled := congrArg Prod.snd (handleFrames_singleton h).symm
  replied := congrArg (List.reduceOption ∘ Prod.fst) (handleFrames_singleton h).symm
  unstopped _ huse := by simp at huse
  fine use huse := by
    rw [List.mem_singleton.mp huse]
    rfl

end Server.Serves

namespace Service

/-- What a run comes to if the channel fails with this fault, or does not fail. -/
def outcome : Option ChannelFault → Except Fault Unit
  | none | some .disconnected => .ok ()
  | some fault => .error (.channel fault)

/-- The service without the notes of how its feed was used. -/
def unobserved (service : Service δ (Observed σ)) : Service δ σ where
  server := service.server
  channel := service.channel.state
  time := service.time

/-! ## One turn -/

/-- Being observed makes no difference to a turn. -/
theorem serveNext_observed (kind : Device δ ε) (feed : Feed σ) (timeout : Nat)
    (service : Service δ (Observed σ)) :
    service.unobserved.serveNext kind feed.toChannel timeout =
      ((service.serveNext kind feed.observed.toChannel timeout).1,
        (service.serveNext kind feed.observed.toChannel timeout).2.unobserved) := by
  obtain ⟨server, ⟨state, uses⟩, time⟩ := service
  simp only [serveNext, unobserved, Feed.receive_observed]
  rcases feed.receive timeout state time with ⟨received, state, time⟩
  rcases received with fault | (_ | frame)
  · rfl
  · rfl
  simp only
  rcases server.handleFrame kind frame with ⟨reply?, server, notes⟩
  cases reply? with
  | none => rfl
  | some reply =>
    simp only [Feed.send_observed]
    rcases feed.send reply state (time.note Server.logTarget notes) with ⟨sent, state, time⟩
    cases sent <;> rfl

theorem serveNext_unobserved {kind : Device δ ε} {feed : Feed σ} {timeout : Nat}
    {service service' : Service δ (Observed σ)} {result : Except Fault Bool}
    (hserve : service.serveNext kind feed.observed.toChannel timeout = (result, service')) :
    service.unobserved.serveNext kind feed.toChannel timeout = (result, service'.unobserved) := by
  rw [serveNext_observed, hserve]

/-- A turn is one receive and no more than one send; it fails if one of them does. -/
theorem serves_serveNext {kind : Device δ ε} {feed : Feed σ} {timeout : Nat}
    {service service' : Service δ (Observed σ)} {result : Except Fault Bool}
    (hgoing : feed.stopped service.channel.state = false)
    (hserve : service.serveNext kind feed.observed.toChannel timeout = (result, service')) :
    ∃ turn,
      service'.channel.uses = service.channel.uses ++ turn ∧
      Server.Serves kind service.server turn service'.server ∧
      match result with
      | .ok _ => ∀ use ∈ turn, use.fault? = none
      | .error fault => ∃ cause, fault = .channel cause ∧
          turn.findSome? Use.fault? = some cause := by
  obtain ⟨server, ⟨state, uses⟩, time⟩ := service
  have hflag : feed.stopped state = false := hgoing
  -- The turn ends with the receive, with the frame, or with the reply; what it used is noted.
  simp only [serveNext, Feed.receive_observed, hflag] at hserve
  rcases hreceive : feed.receive timeout state time with ⟨received, state, time⟩
  rw [hreceive] at hserve
  rcases received with fault | (_ | frame)
  · cases hserve
    exact ⟨_, rfl, .no_frame kind server rfl, fault, rfl, rfl⟩
  · cases hserve
    exact ⟨_, rfl, .no_frame kind server rfl, by simp [Use.fault?]⟩
  simp only at hserve
  rcases hhandle : server.handleFrame kind frame with ⟨reply?, after, notes⟩
  rw [hhandle] at hserve
  cases reply? with
  | none =>
    cases hserve
    exact ⟨_, rfl, .no_reply hhandle, by simp [Use.fault?]⟩
  | some reply =>
    simp only [Feed.send_observed] at hserve
    rcases hsend : feed.send reply state (time.note Server.logTarget notes) with
      ⟨sent, state, time⟩
    rw [hsend] at hserve
    have hserves := Server.Serves.reply hhandle sent
    cases sent with
    | ok =>
      cases hserve
      exact ⟨_, List.append_assoc .., hserves, by simp [Use.fault?]⟩
    | error fault =>
      cases hserve
      exact ⟨_, List.append_assoc .., hserves, fault, rfl, rfl⟩

/-! ## The whole run -/

section

variable {kind : Device δ ε} {feed : Feed σ} {service service' : Service δ σ}

theorem serveAll_of_stopped (h : feed.stopped service.channel = true) :
    service.serveAll kind feed = (.ok (), service) := by
  rw [serveAll, dif_neg (by rw [h]; decide)]

theorem serveAll_of_ok (h : feed.stopped service.channel = false) {received : Bool}
    (hserve : service.serveNext kind feed.toChannel servePoll = (.ok received, service')) :
    service.serveAll kind feed = service'.serveAll kind feed := by
  rw [serveAll, dif_pos h]
  split <;> simp_all

theorem serveAll_of_disconnected (h : feed.stopped service.channel = false)
    (hserve : service.serveNext kind feed.toChannel servePoll =
      (.error (.channel .disconnected), service')) :
    service.serveAll kind feed = (.ok (), service'.note [.info "server: peer disconnected"]) := by
  rw [serveAll, dif_pos h]
  split <;> simp_all

theorem serveAll_of_fault (h : feed.stopped service.channel = false) {fault : Fault}
    (hother : fault ≠ .channel .disconnected)
    (hserve : service.serveNext kind feed.toChannel servePoll = (.error fault, service')) :
    service.serveAll kind feed = (.error fault, service') := by
  rw [serveAll, dif_pos h]
  split <;> simp_all

end

/-- Being observed makes no difference to a run. -/
theorem serveAll_observed (kind : Device δ ε) (feed : Feed σ) (service : Service δ (Observed σ)) :
    service.unobserved.serveAll kind feed =
      ((service.serveAll kind feed.observed).1,
        (service.serveAll kind feed.observed).2.unobserved) := by
  induction service using serveAll.induct kind feed.observed with
  | case1 service hgoing received service' hserve ih =>
    have hplain := serveNext_unobserved hserve
    rw [serveAll_of_ok hgoing hserve, serveAll_of_ok (by exact hgoing) hplain, ih]
  | case2 service hgoing service' hserve =>
    have hplain := serveNext_unobserved hserve
    rw [serveAll_of_disconnected hgoing hserve, serveAll_of_disconnected (by exact hgoing) hplain]
    rfl
  | case3 service hgoing fault service' hother hserve =>
    have hplain := serveNext_unobserved hserve
    rw [serveAll_of_fault hgoing hother hserve,
      serveAll_of_fault (by exact hgoing) hother hplain]
  | case4 service hstopped =>
    have hset : feed.observed.stopped service.channel = true := by simpa using hstopped
    have hset' : feed.stopped service.unobserved.channel = true := hset
    rw [serveAll_of_stopped hset, serveAll_of_stopped hset']

/-- What a turn does, the turns of a run do, up to the one that fails. -/
theorem serves_serveAll (kind : Device δ ε) (feed : Feed σ) (service : Service δ (Observed σ)) :
    ∃ turns,
      (service.serveAll kind feed.observed).2.channel.uses = service.channel.uses ++ turns ∧
      Server.Serves kind service.server turns (service.serveAll kind feed.observed).2.server ∧
      (service.serveAll kind feed.observed).1 = outcome (turns.findSome? Use.fault?) ∧
      (turns.findSome? Use.fault? = none →
        feed.stopped (service.serveAll kind feed.observed).2.channel.state = true) := by
  induction service using serveAll.induct kind feed.observed with
  | case1 service hgoing received service' hserve ih =>
    obtain ⟨turn, huses, hserves, hfine⟩ := serves_serveNext hgoing hserve
    obtain ⟨turns, hmore, hrest, houtcome, hstopped⟩ := ih
    -- The turn did not fail, so the first fault of them all is that of the turns after it.
    have hnone : turn.findSome? Use.fault? = none := List.findSome?_eq_none_iff.mpr hfine
    rw [serveAll_of_ok hgoing hserve]
    refine ⟨turn ++ turns, ?_, hserves.append hfine hrest, ?_, ?_⟩
    · rw [hmore, huses, List.append_assoc]
    · rw [houtcome, List.findSome?_append, hnone, Option.none_or]
    · rwa [List.findSome?_append, hnone, Option.none_or]
  | case2 service hgoing service' hserve =>
    obtain ⟨turn, huses, hserves, cause, hfault, hcause⟩ := serves_serveNext hgoing hserve
    cases hfault
    rw [serveAll_of_disconnected hgoing hserve]
    refine ⟨turn, huses, hserves, ?_, fun hnone => ?_⟩
    · rw [hcause]
      rfl
    · exact absurd (hcause.symm.trans hnone) (Option.some_ne_none _)
  | case3 service hgoing fault service' hother hserve =>
    obtain ⟨turn, huses, hserves, cause, rfl, hcause⟩ := serves_serveNext hgoing hserve
    rw [serveAll_of_fault hgoing hother hserve]
    refine ⟨turn, huses, hserves, ?_, fun hnone => ?_⟩
    · rw [hcause]
      cases cause with
      | disconnected => exact absurd rfl hother
      | queueFull | frameTooLarge | transport => rfl
    · exact absurd (hcause.symm.trans hnone) (Option.some_ne_none _)
  | case4 service hstopped =>
    have hset : feed.observed.stopped service.channel = true := by simpa using hstopped
    rw [serveAll_of_stopped hset]
    exact ⟨[], (List.append_nil _).symm, .nil kind service.server, rfl, fun _ => hset⟩

/-- Apart from its notes a run is its turns. -/
theorem run_eq_serveAll (kind : Device δ ε) (feed : Feed σ) (service : Service δ σ) :
    (service.run kind feed).1 = ((service.begin kind).serveAll kind feed).1 ∧
      (service.run kind feed).2.server = ((service.begin kind).serveAll kind feed).2.server ∧
      (service.run kind feed).2.channel = ((service.begin kind).serveAll kind feed).2.channel := by
  rw [run]
  rcases (service.begin kind).serveAll kind feed with ⟨result, ended⟩
  cases result <;> exact ⟨rfl, rfl, rfl⟩

/-- The service with an empty list of how its feed was used. -/
def observed (service : Service δ σ) : Service δ (Observed σ) where
  server := service.server
  channel := { state := service.channel }
  time := service.time

/-- The uses that a run makes of its feed, in order. -/
def usesOfRun (kind : Device δ ε) (feed : Feed σ) (service : Service δ σ) : List Use :=
  (service.observed.run kind feed.observed).2.channel.uses

/-- The run whose uses are listed is the run itself. -/
theorem run_observed (kind : Device δ ε) (feed : Feed σ) (service : Service δ σ) :
    service.run kind feed =
      ((service.observed.run kind feed.observed).1,
        (service.observed.run kind feed.observed).2.unobserved) := by
  have hplain : (service.begin kind).serveAll kind feed = _ :=
    serveAll_observed kind feed (service.observed.begin kind)
  rw [run, hplain, run]
  rcases (service.observed.begin kind).serveAll kind feed.observed with ⟨result, ended⟩
  cases result <;> rfl

/-- Over any device and any feed a run never receives with the stop flag set.  It deals with
each frame that it receives, in order, and sends each reply, in order, save the one that it
ends on not getting through.  It goes no further after a fault of the channel, and comes to
that fault, but that the other end is gone is a good end; without a fault it ends well, and
then it is the stop flag that has ended it, whatever was received. -/
theorem run_until_stop_or_fault (kind : Device δ ε) (feed : Feed σ) (service : Service δ σ) :
    let uses := service.usesOfRun kind feed
    let handled := service.server.handleFrames kind (uses.filterMap Use.arrived?)
    (∀ result, .received true result ∉ uses) ∧
      (service.run kind feed).2.server = handled.2 ∧
      uses.filterMap Use.accepted? ++ Use.lost uses = handled.1.reduceOption ∧
      (∀ use ∈ uses.dropLast, use.fault? = none) ∧
      (service.run kind feed).1 = outcome (uses.findSome? Use.fault?) ∧
      (uses.findSome? Use.fault? = none →
        feed.stopped (service.run kind feed).2.channel = true) := by
  obtain ⟨turns, huses, hserves, houtcome, hstopped⟩ :=
    serves_serveAll kind feed (service.observed.begin kind)
  obtain ⟨hresult, hserver, hchannel⟩ := run_eq_serveAll kind feed.observed service.observed
  have hturns : service.usesOfRun kind feed = turns := by
    rw [usesOfRun, hchannel, huses]
    rfl
  rw [run_observed, hturns]
  refine ⟨hserves.unstopped, hserver.trans hserves.handled, ?_, hserves.fine,
    hresult.trans houtcome, fun hfine => ?_⟩
  · exact (Use.accepted_append_lost hserves.fine).trans hserves.replied
  · show feed.stopped (service.observed.run kind feed.observed).2.channel.state = true
    rw [hchannel]
    exact hstopped hfine

/-- A frame that is no message is dropped, the reply to a read finds the queue full, and
the frame behind it is left where it is. -/
example :
    let script : Replay :=
      { inbound := [⟨.frame [], 0⟩, ⟨.frame (Message.readRequest 0).encode, 0⟩, ⟨.frame [], 0⟩]
        sendFaults := [some .queueFull] }
    let service : Service RamDisk Replay :=
      { server := { device := { blocks := [.zero] } }, channel := script, time := {} }
    let ended := service.run RamDisk.device Replay.feed
    ended.1 = .error (.channel .queueFull) ∧
      ended.2.server.stats = { reads := 1, malformedDropped := 1 } ∧
      ended.2.channel.inbound = [⟨.frame [], 0⟩] := by
  decide +kernel

end Service
end BlockBridge

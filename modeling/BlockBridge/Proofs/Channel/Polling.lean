import BlockBridge.Proofs.Channel.Overflow
import BlockBridge.Proofs.Session.Outcome

/-!
# Waiting by polling

An end of a loopback that has to wait looks at the queue, at the other end and at the clock,
naps for a poll or for what is left of its time, and looks again.  Here these loops are told
as they run, look by look: `Polls` relates a loop to the naps it makes and to what it ends
with, and nothing but its naps moves the clock.  So that a loop ends at all is part of what
is proved.

The clock may count in any unit.  A wait for `rest` units makes the naps of
`Nap.schedule milli start rest`, with a millisecond of `milli` units: `rest / milli` of them,
rounded up, each a millisecond long but the last, which is what is left
(`Loopback.receives_iff_of_idle`, `Loopback.sends_iff_of_full`).  With a thousand units to the
millisecond the loops come to what `Loopback.receive` and `Loopback.send` return
(`Loopback.exists_receives`, `Loopback.exists_sends`).

Main statement: `Loopback.waits_end_on_time`.
-/

namespace BlockBridge

/-! ## Loops that poll -/

/-- What a look comes to: the loop is over, or it naps and then looks again. -/
inductive Look (α : Type) where
  | ended (result : α)
  | nap (duration : Nat)

/-- A nap: when it was begun, and how long it is. -/
structure Nap where
  began : Nat
  duration : Nat
  deriving DecidableEq

/-- That a loop makes these naps, one after the other, and then is over with this result. -/
inductive Polls {α : Type} (look : Timeline → Look α) : Timeline → List Nap → α → Prop where
  | ended {time : Timeline} {result : α} (hlook : look time = .ended result) :
      Polls look time [] result
  | nap {time : Timeline} {duration : Nat} {naps : List Nap} {result : α}
      (hlook : look time = .nap duration)
      (hrest : Polls look (time.sleep duration) naps result) :
      Polls look time (⟨time.now, duration⟩ :: naps) result

/-- A loop ends in one way only. -/
theorem Polls.unique {α : Type} {look : Timeline → Look α} {time : Timeline}
    {naps otherNaps : List Nap} {result other : α} (h : Polls look time naps result)
    (hother : Polls look time otherNaps other) : otherNaps = naps ∧ other = result := by
  induction h generalizing otherNaps other with
  | ended hlook =>
    cases hother with
    | ended hsame =>
      rw [hlook] at hsame
      cases hsame
      exact ⟨rfl, rfl⟩
    | nap hnap => rw [hlook] at hnap; cases hnap
  | nap hlook _ ih =>
    cases hother with
    | ended hended => rw [hlook] at hended; cases hended
    | nap hnap hrest =>
      rw [hlook] at hnap
      cases hnap
      obtain ⟨rfl, rfl⟩ := ih hrest
      exact ⟨rfl, rfl⟩

theorem Polls.iff {α : Type} {look : Timeline → Look α} {time : Timeline} {naps : List Nap}
    {result : α} (h : Polls look time naps result) (otherNaps : List Nap) (other : α) :
    Polls look time otherNaps other ↔ otherNaps = naps ∧ other = result := by
  constructor
  · exact h.unique
  · rintro ⟨rfl, rfl⟩
    exact h

/-! ## Schedules of naps -/

namespace Nap

/-- The naps of a wait of `rest` that begins at `start`: a millisecond each, and at the end
what is left. -/
def schedule (milli start rest : Nat) : List Nap :=
  (List.range ((rest + milli - 1) / milli)).map fun i =>
    { began := start + milli * i, duration := min milli (rest - milli * i) }

variable {milli : Nat}

theorem length_schedule (milli start rest : Nat) :
    (schedule milli start rest).length = (rest + milli - 1) / milli := by
  rw [schedule, List.length_map, List.length_range]

theorem schedule_zero (hmilli : 0 < milli) (start : Nat) : schedule milli start 0 = [] := by
  rw [schedule, Nat.div_eq_of_lt (by omega)]
  rfl

/-- The first nap, and the naps of what is left after it. -/
theorem schedule_of_pos (hmilli : 0 < milli) {rest : Nat} (hrest : 0 < rest) (start : Nat) :
    schedule milli start rest =
      ⟨start, min milli rest⟩ ::
        schedule milli (start + min milli rest) (rest - min milli rest) := by
  rcases Nat.lt_or_ge rest milli with hlast | hmore
  · -- The nap is the last one.
    have hone : (rest + milli - 1) / milli = 1 := by
      rw [Nat.div_eq_iff hmilli]
      omega
    rw [Nat.min_eq_right (Nat.le_of_lt hlast), Nat.sub_self, schedule_zero hmilli, schedule, hone]
    simp [Nat.min_eq_right (Nat.le_of_lt hlast)]
  · have hcount : (rest + milli - 1) / milli = (rest - milli + milli - 1) / milli + 1 := by
      rw [← Nat.add_div_right _ hmilli]
      congr 1
      omega
    rw [Nat.min_eq_left hmore, schedule, hcount, List.range_succ_eq_map, List.map_cons,
      List.map_map, schedule]
    congr 1
    · simp [Nat.min_eq_left hmore]
    · apply List.map_congr_left
      intro i _
      simp only [Function.comp_apply, mk.injEq, Nat.mul_succ]
      omega

/-- Each nap is begun in time, and is no longer than a millisecond and than what is left. -/
theorem of_mem_schedule (hmilli : 0 < milli) {start rest : Nat} {nap : Nap}
    (h : nap ∈ schedule milli start rest) :
    start ≤ nap.began ∧ nap.began - start < rest ∧ 0 < nap.duration ∧
      nap.duration = min milli (rest - (nap.began - start)) := by
  obtain ⟨i, hi, rfl⟩ := List.mem_map.mp h
  -- Rounded up, the number of naps is still such that the last one is begun in time.
  have hcount : (i + 1) * milli ≤ rest + milli - 1 :=
    (Nat.le_div_iff_mul_le hmilli).mp (List.mem_range.mp hi)
  rw [Nat.succ_mul, Nat.mul_comm] at hcount
  simp only
  omega

/-- The loopback's own naps are as long as these. -/
theorem map_duration_schedule (start rest : Nat) :
    (schedule Loopback.poll start rest).map duration = Loopback.naps rest := by
  have hpoll : 0 < Loopback.poll := by decide
  induction rest using Nat.strongRecOn generalizing start with
  | ind rest ih =>
    rw [Loopback.naps]
    rcases Nat.eq_zero_or_pos rest with rfl | hpos
    · rw [schedule_zero hpoll, if_pos rfl]
      rfl
    · rw [schedule_of_pos hpoll hpos, List.map_cons, if_neg (Nat.ne_of_gt hpos),
        ih _ (by omega)]

end Nap

namespace Loopback

/-! ## The two loops -/

/-- A look of an end that receives and began at `began`: a frame is taken if there is one,
and else the wait is over if the other end is gone or the time is up. -/
def receiveLook (milli : Nat) (side : End) (timeout began : Nat) (link : Loopback)
    (time : Timeline) : Look (Channel.Result Loopback (Option Bytes)) :=
  match link.queue side with
  | frame :: rest => .ended (.ok (some frame), link.setQueue rest side, time)
  | [] =>
    let elapsed := time.now - began
    if link.closed then .ended (.error .disconnected, link, time)
    else if timeout ≤ elapsed then .ended (.ok none, link, time)
    else .nap (min milli (timeout - elapsed))

/-- A look of an end that sends and began at `began`: the frame is queued if there is room,
and else the wait is over if the other end is gone or 500 milliseconds are up. -/
def sendLook (milli : Nat) (side : End) (frame : Bytes) (began : Nat) (link : Loopback)
    (time : Timeline) : Look (Channel.Result Loopback Unit) :=
  if (link.queue side.peer).length < depth then
    .ended (.ok (), link.setQueue (link.queue side.peer ++ [frame]) side.peer, time)
  else if link.closed then .ended (.error .disconnected, link, time)
  else if 500 * milli ≤ time.now - began then
    .ended (.error .queueFull, link, time.note logTarget [overflow side])
  else .nap milli

/-- That a receive makes these naps and comes to this result. -/
def Receives (milli : Nat) (side : End) (timeout : Nat) (link : Loopback) (time : Timeline)
    (naps : List Nap) (result : Channel.Result Loopback (Option Bytes)) : Prop :=
  Polls (receiveLook milli side timeout time.now link) time naps result

/-- That a send makes these naps and comes to this result.  Whether the other end is gone and
whether the frame is too long is looked at before anything else. -/
inductive Sends (milli : Nat) (side : End) (frame : Bytes) (link : Loopback) (time : Timeline) :
    List Nap → Channel.Result Loopback Unit → Prop where
  | closed (hclosed : link.closed = true) :
      Sends milli side frame link time [] (.error .disconnected, link, time)
  | oversize (hopen : link.closed = false) (hsize : frameLimit < frame.length) :
      Sends milli side frame link time [] (.error .frameTooLarge, link, time)
  | polls {naps : List Nap} {result : Channel.Result Loopback Unit}
      (hopen : link.closed = false) (hsize : frame.length ≤ frameLimit)
      (hpolls : Polls (sendLook milli side frame time.now link) time naps result) :
      Sends milli side frame link time naps result

variable {milli : Nat} {side : End} {link : Loopback}

/-! ## Receiving -/

/-- Whoever finds an empty queue naps for the whole time that is left; by induction on it. -/
theorem polls_receiveLook (hmilli : 0 < milli) (hqueue : link.queue side = [])
    (hopen : link.closed = false) {timeout began rest : Nat} {time : Timeline}
    (hrest : time.now - began + rest = timeout) (hbegan : began ≤ time.now) :
    Polls (receiveLook milli side timeout began link) time
      (Nap.schedule milli time.now rest) (.ok none, link, time.sleep rest) := by
  induction rest using Nat.strongRecOn generalizing time with
  | ind rest ih =>
    rcases Nat.eq_zero_or_pos rest with rfl | hpos
    · rw [Nap.schedule_zero hmilli]
      apply Polls.ended
      simp only [receiveLook, hqueue, hopen]
      rw [if_neg Bool.false_ne_true, if_pos (by omega)]
      rfl
    · have hlook : receiveLook milli side timeout began link time = .nap (min milli rest) := by
        simp only [receiveLook, hqueue, hopen]
        rw [if_neg Bool.false_ne_true, if_neg (by omega), ← hrest, Nat.add_sub_cancel_left]
      -- After the nap less is left of the same wait.
      have hlater : Polls (receiveLook milli side timeout began link)
          (time.sleep (min milli rest))
          (Nap.schedule milli (time.now + min milli rest) (rest - min milli rest))
          (.ok none, link, (time.sleep (min milli rest)).sleep (rest - min milli rest)) := by
        apply ih
        · omega
        · rw [Timeline.now_sleep]
          omega
        · rw [Timeline.now_sleep]
          omega
      have hwhole : (time.sleep (min milli rest)).sleep (rest - min milli rest) =
          time.sleep rest := by
        simp only [Timeline.sleep, Timeline.mk.injEq, and_true]
        omega
      rw [Nap.schedule_of_pos hmilli hpos, ← hwhole]
      exact .nap hlook hlater

theorem receives_iff_of_idle (hmilli : 0 < milli) (hqueue : link.queue side = [])
    (hopen : link.closed = false) (timeout : Nat) (time : Timeline) (naps : List Nap)
    (result : Channel.Result Loopback (Option Bytes)) :
    Receives milli side timeout link time naps result ↔
      naps = Nap.schedule milli time.now timeout ∧
        result = (.ok none, link, time.sleep timeout) := by
  have hrest : time.now - time.now + timeout = timeout := by omega
  exact (polls_receiveLook hmilli hqueue hopen hrest (Nat.le_refl time.now)).iff naps result

theorem receives_iff_of_cons {frame : Bytes} {rest : List Bytes}
    (hqueue : link.queue side = frame :: rest) (timeout : Nat) (time : Timeline)
    (naps : List Nap) (result : Channel.Result Loopback (Option Bytes)) :
    Receives milli side timeout link time naps result ↔
      naps = [] ∧ result = (.ok (some frame), link.setQueue rest side, time) := by
  have hlook : receiveLook milli side timeout time.now link time =
      .ended (.ok (some frame), link.setQueue rest side, time) := by
    simp only [receiveLook, hqueue]
  exact (Polls.ended hlook).iff naps result

/-- What a receive returns is what its loop comes to, whatever the unit of the clock. -/
theorem exists_receives (hmilli : 0 < milli) (side : End) (timeout : Nat) (link : Loopback)
    (time : Timeline) :
    ∃ naps, Receives milli side timeout link time naps (receive side timeout link time) := by
  cases hqueue : link.queue side with
  | cons frame rest =>
    rw [receive_of_cons hqueue]
    exact ⟨[], (receives_iff_of_cons hqueue timeout time _ _).mpr ⟨rfl, rfl⟩⟩
  | nil =>
    cases hclosed : link.closed with
    | true =>
      rw [receive_of_closed hqueue hclosed]
      refine ⟨[], .ended ?_⟩
      simp only [receiveLook, hqueue, hclosed, if_true]
    | false =>
      rw [receive_of_open hqueue hclosed]
      exact ⟨_, (receives_iff_of_idle hmilli hqueue hclosed timeout time _ _).mpr ⟨rfl, rfl⟩⟩

/-! ## Sending -/

/-- Whoever finds a full queue naps until 500 milliseconds are up; by induction on the naps
that are left. -/
theorem polls_sendLook (hmilli : 0 < milli) (hopen : link.closed = false)
    (hfull : depth ≤ (link.queue side.peer).length) (frame : Bytes) {began left : Nat}
    {time : Timeline} (hleft : time.now - began + milli * left = 500 * milli)
    (hbegan : began ≤ time.now) :
    Polls (sendLook milli side frame began link) time
      (Nap.schedule milli time.now (milli * left))
      (.error .queueFull, link,
        (time.sleep (milli * left)).note logTarget [overflow side]) := by
  induction left generalizing time with
  | zero =>
    rw [Nat.mul_zero, Nap.schedule_zero hmilli]
    apply Polls.ended
    rw [sendLook, if_neg (Nat.not_lt.mpr hfull), hopen, if_neg Bool.false_ne_true,
      if_pos (by omega)]
    rfl
  | succ left ih =>
    rw [Nat.mul_succ] at hleft ⊢
    have hlook : sendLook milli side frame began link time = .nap milli := by
      rw [sendLook, if_neg (Nat.not_lt.mpr hfull), hopen, if_neg Bool.false_ne_true,
        if_neg (by omega)]
    have hlater : Polls (sendLook milli side frame began link) (time.sleep milli)
        (Nap.schedule milli (time.now + milli) (milli * left))
        (.error .queueFull, link,
          ((time.sleep milli).sleep (milli * left)).note logTarget [overflow side]) := by
      apply ih
      · rw [Timeline.now_sleep]
        omega
      · rw [Timeline.now_sleep]
        omega
    have hwhole : (time.sleep milli).sleep (milli * left) = time.sleep (milli * left + milli) := by
      simp only [Timeline.sleep, Timeline.mk.injEq, and_true]
      omega
    rw [Nap.schedule_of_pos hmilli (by omega), Nat.min_eq_left (by omega), Nat.add_sub_cancel,
      ← hwhole]
    exact .nap hlook hlater

theorem sends_iff_of_full (hmilli : 0 < milli) (hopen : link.closed = false) {frame : Bytes}
    (hsize : frame.length ≤ frameLimit) (hfull : depth ≤ (link.queue side.peer).length)
    (time : Timeline) (naps : List Nap) (result : Channel.Result Loopback Unit) :
    Sends milli side frame link time naps result ↔
      naps = Nap.schedule milli time.now (500 * milli) ∧
        result = (.error .queueFull, link,
          (time.sleep (500 * milli)).note logTarget [overflow side]) := by
  have hleft : time.now - time.now + milli * 500 = 500 * milli := by omega
  have hpolls := polls_sendLook hmilli hopen hfull frame hleft (Nat.le_refl time.now)
  rw [Nat.mul_comm milli] at hpolls
  rw [← hpolls.iff]
  -- What is looked at before the loop stops neither an open loopback nor such a frame.
  constructor
  · intro hsends
    cases hsends with
    | closed hclosed => rw [hopen] at hclosed; cases hclosed
    | oversize _ hlong => exact absurd hsize (Nat.not_le.mpr hlong)
    | polls _ _ hloop => exact hloop
  · exact .polls hopen hsize

/-- A send that does not find a full queue is over at once. -/
theorem sends_of_not_full {frame : Bytes}
    (h : ¬(link.closed = false ∧ frame.length ≤ frameLimit ∧
      depth ≤ (link.queue side.peer).length)) (time : Timeline) :
    Sends milli side frame link time [] (send side frame link time) ∧
      (send side frame link time).2.2 = time := by
  cases hclosed : link.closed with
  | true =>
    rw [send_of_closed hclosed]
    exact ⟨.closed hclosed, rfl⟩
  | false =>
    rcases Nat.lt_or_ge frameLimit frame.length with hlong | hsize
    · rw [send_of_oversize hclosed hlong]
      exact ⟨.oversize hclosed hlong, rfl⟩
    · have hroom : (link.queue side.peer).length < depth :=
        Nat.not_le.mp fun hfull => h ⟨hclosed, hsize, hfull⟩
      rw [send_of_room hclosed hsize hroom]
      exact ⟨.polls hclosed hsize (.ended (if_pos hroom)), rfl⟩

theorem sends_iff_of_not_full {frame : Bytes}
    (h : ¬(link.closed = false ∧ frame.length ≤ frameLimit ∧
      depth ≤ (link.queue side.peer).length)) (time : Timeline) (naps : List Nap)
    (result : Channel.Result Loopback Unit) :
    Sends milli side frame link time naps result ↔
      naps = [] ∧ result = send side frame link time ∧ result.2.2 = time := by
  obtain ⟨hsent, htime⟩ : Sends milli side frame link time [] _ ∧ _ = time :=
    sends_of_not_full h time
  constructor
  · intro hsends
    have hsame : naps = [] ∧ result = send side frame link time := by
      cases hsends with
      | closed hclosed => exact ⟨rfl, (send_of_closed hclosed side frame time).symm⟩
      | oversize hopen hsize => exact ⟨rfl, (send_of_oversize hopen hsize side time).symm⟩
      | polls hopen hsize hpolls =>
        have hroom : (link.queue side.peer).length < depth :=
          Nat.not_le.mp fun hfull => h ⟨hopen, hsize, hfull⟩
        have hlook : Polls (sendLook milli side frame time.now link) time []
            (.ok (), link.setQueue (link.queue side.peer ++ [frame]) side.peer, time) :=
          .ended (if_pos hroom)
        rw [send_of_room hopen hsize hroom]
        exact hlook.unique hpolls
    exact ⟨hsame.1, hsame.2, hsame.2 ▸ htime⟩
  · rintro ⟨rfl, rfl, _⟩
    exact hsent

/-- What a send returns is what its loop comes to, the clock counting microseconds. -/
theorem exists_sends (side : End) (frame : Bytes) (link : Loopback) (time : Timeline) :
    ∃ naps, Sends poll side frame link time naps (send side frame link time) := by
  by_cases hfull : link.closed = false ∧ frame.length ≤ frameLimit ∧
      depth ≤ (link.queue side.peer).length
  · obtain ⟨hopen, hsize, hfull⟩ := hfull
    rw [send_of_full hopen hsize hfull]
    exact ⟨_, (sends_iff_of_full (by decide) hopen hsize hfull time _ _).mpr ⟨rfl, rfl⟩⟩
  · exact ⟨[], (sends_of_not_full hfull time).1⟩

end Loopback

/-! ## Waiting for a result -/

/-- A wait over an open loopback with nothing in the queue gives up at the deadline of its
request, or at once if that is past. -/
theorem Session.wait_of_idle {session : Session Loopback} {side : Loopback.End}
    {block : Address} {entry : Pending.Entry} (hqueue : session.channel.queue side = [])
    (hopen : session.channel.closed = false)
    (hfind : session.client.pending.find? block = some entry) (hunsettled : entry.outcome = none)
    (hissued : entry.issuedAt ≤ session.time.now) :
    let waited := session.wait (Loopback.channel side) block
    waited.1 = .error (.timeout block) ∧
      waited.2.time.now = max session.time.now (entry.issuedAt + session.client.timeout) ∧
      waited.2.channel = session.channel := by
  intro waited
  -- A session past the deadline gives up without a receive.
  have hlate (last : Session Loopback)
      (hlast : last.client.pending.find? block = some entry)
      (hexpired : last.client.timeout ≤ last.time.now - entry.issuedAt) :
      (last.wait (Loopback.channel side) block).1 = .error (.timeout block) ∧
        (last.wait (Loopback.channel side) block).2.time.now = last.time.now ∧
        (last.wait (Loopback.channel side) block).2.channel = last.channel := by
    rw [wait_of_unsettled hlast hunsettled, if_neg (Nat.not_lt.mpr hexpired)]
    exact ⟨rfl, rfl, rfl⟩
  rcases Nat.lt_or_ge (session.time.now - entry.issuedAt) session.client.timeout with
    hearly | hexpired
  · -- The one receive is given all of the time that is left, and takes it.
    let rest := session.client.timeout - (session.time.now - entry.issuedAt)
    let next : Session Loopback := { session with time := session.time.sleep rest }
    have hpump : session.pump (Loopback.channel side) rest = (.ok false, next) := by
      simp only [pump, Loopback.channel, Loopback.receive_of_open hqueue hopen]
      rfl
    have hwait : waited = next.wait (Loopback.channel side) block :=
      wait_of_received hfind hunsettled hearly hpump
    have hnow : next.time.now = session.time.now + rest := rfl
    obtain ⟨hresult, hclock, hchannel⟩ :=
      hlate next hfind (by show session.client.timeout ≤ _; omega)
    rw [hwait]
    refine ⟨hresult, ?_, hchannel⟩
    rw [hclock, hnow]
    omega
  · obtain ⟨hresult, hclock, hchannel⟩ := hlate session hfind hexpired
    refine ⟨hresult, ?_, hchannel⟩
    show (session.wait (Loopback.channel side) block).2.time.now = _
    rw [hclock]
    omega

namespace Loopback

/-! ## The law -/

/-- An end of a loopback that has to wait does so for exactly its time, whatever the unit of
the clock, as long as nobody else acts.  At an empty queue with the other end held, a receive
comes back with nothing when its time is up, after a nap for each millisecond or part of one;
each nap is begun before that time, so that some is left, and is a millisecond or what is left.
With a frame there it does not nap.  At a full queue, a send is refused after 500 milliseconds
of such naps, and leaves the queue as it is; any other send does not nap.  These are the naps
behind what `receive` and `send` return.  And so a client that waits for a result while nothing
comes gives up at the deadline of its request, or at once if that is past. -/
theorem waits_end_on_time {milli : Nat} (hmilli : 0 < milli) (side : End) (link : Loopback)
    (time : Timeline) :
    (link.closed = false → link.queue side = [] → ∀ timeout naps result,
      Receives milli side timeout link time naps result ↔
        naps = Nap.schedule milli time.now timeout ∧
          result = (.ok none, link, time.sleep timeout)) ∧
    (∀ frame rest, link.queue side = frame :: rest → ∀ timeout naps result,
      Receives milli side timeout link time naps result ↔
        naps = [] ∧ result = (.ok (some frame), link.setQueue rest side, time)) ∧
    (∀ rest, (Nap.schedule milli time.now rest).length = (rest + milli - 1) / milli ∧
      ∀ nap ∈ Nap.schedule milli time.now rest,
        time.now ≤ nap.began ∧ nap.began - time.now < rest ∧ 0 < nap.duration ∧
          nap.duration = min milli (rest - (nap.began - time.now))) ∧
    (∀ frame, link.closed = false → frame.length ≤ 517 → 8 ≤ (link.queue side.peer).length →
      ∀ naps result, Sends milli side frame link time naps result ↔
        naps = Nap.schedule milli time.now (500 * milli) ∧
          result = (.error .queueFull, link,
            (time.sleep (500 * milli)).note logTarget [overflow side])) ∧
    (∀ frame,
      ¬(link.closed = false ∧ frame.length ≤ 517 ∧ 8 ≤ (link.queue side.peer).length) →
      ∀ naps result, Sends milli side frame link time naps result ↔
        naps = [] ∧ result = send side frame link time ∧ result.2.2 = time) ∧
    (∀ timeout, ∃ naps,
      Receives milli side timeout link time naps (receive side timeout link time)) ∧
    (∀ frame, ∃ naps, Sends poll side frame link time naps (send side frame link time)) ∧
    (∀ rest, (Nap.schedule poll time.now rest).map Nap.duration = naps rest) ∧
    ∀ (session : Session Loopback) (block : Address) (entry : Pending.Entry),
      session.channel.closed = false → session.channel.queue side = [] →
      session.client.pending.find? block = some entry → entry.outcome = none →
      entry.issuedAt ≤ session.time.now →
      let waited := session.wait (channel side) block
      waited.1 = .error (.timeout block) ∧
        waited.2.time.now = max session.time.now (entry.issuedAt + session.client.timeout) ∧
        waited.2.channel = session.channel := by
  refine ⟨fun hopen hqueue timeout => receives_iff_of_idle hmilli hqueue hopen timeout time,
    fun frame rest hqueue timeout => receives_iff_of_cons hqueue timeout time, ?_, ?_,
    fun frame hother => sends_iff_of_not_full hother time,
    fun timeout => exists_receives hmilli side timeout link time,
    fun frame => exists_sends side frame link time,
    fun rest => Nap.map_duration_schedule time.now rest, ?_⟩
  · exact fun rest => ⟨Nap.length_schedule milli time.now rest, fun nap hnap =>
      Nap.of_mem_schedule hmilli hnap⟩
  · exact fun frame hopen hsize hfull => sends_iff_of_full hmilli hopen hsize hfull time
  · exact fun session block entry hopen hqueue hfind hunsettled hissued =>
      Session.wait_of_idle hqueue hopen hfind hunsettled hissued

/-- With a clock that counts nanoseconds, a receive of two and a half milliseconds naps three
times, and a send to a full queue is refused after half a second.  A read of block 1 that is
asked for at the start, with 5 seconds for its result, is given up after 5 seconds. -/
theorem waits_end_on_time_in_nanoseconds :
    let full : Loopback := { toRt := List.replicate 8 [2] }
    let fresh : Session Loopback := { client := .ofConfig {}, channel := {}, time := {} }
    let asked := (fresh.submitRead (channel .hl) 1).2
    (0 < 1000000 ∧ ({} : Loopback).closed = false ∧ ({} : Loopback).queue .hl = [] ∧
      Receives 1000000 .hl 2500000 {} {} [⟨0, 1000000⟩, ⟨1000000, 1000000⟩, ⟨2000000, 500000⟩]
        (.ok none, {}, { now := 2500000 })) ∧
    (full.closed = false ∧ ([2] : Bytes).length ≤ 517 ∧ 8 ≤ (full.queue End.hl.peer).length ∧
      Sends 1000000 .hl [2] full {} (Nap.schedule 1000000 0 500000000)
        (.error .queueFull, full,
          ({ now := 500000000 } : Timeline).note logTarget [overflow .hl])) ∧
    asked.channel.closed = false ∧ asked.channel.queue .hl = [] ∧
      asked.client.pending.find? 1 = some ⟨.read, 0, none⟩ ∧ 0 ≤ asked.time.now ∧
      (asked.wait (channel .hl) 1).1 = .error (.timeout 1) ∧
      (asked.wait (channel .hl) 1).2.time.now = 5000000 := by
  intro full fresh asked
  have hnanos : 0 < 1000000 := by decide
  obtain ⟨hreceive, _⟩ := waits_end_on_time hnanos .hl {} {}
  obtain ⟨_, _, _, hsend, _⟩ := waits_end_on_time hnanos .hl full {}
  obtain ⟨_, _, _, _, _, _, _, _, hwait⟩ := waits_end_on_time hnanos .hl {} {}
  have hopen : asked.channel.closed = false := by decide +kernel
  have hqueue : asked.channel.queue .hl = [] := by decide +kernel
  have hfind : asked.client.pending.find? 1 = some ⟨.read, 0, none⟩ := by decide +kernel
  obtain ⟨hresult, hclock, _⟩ := hwait asked 1 _ hopen hqueue hfind rfl (Nat.zero_le _)
  refine ⟨⟨hnanos, rfl, rfl, ?_⟩, ⟨rfl, by decide, by decide, ?_⟩, hopen, hqueue, hfind,
    Nat.zero_le _, hresult, hclock.trans (by decide +kernel)⟩
  · exact (hreceive rfl rfl 2500000 _ _).mpr ⟨by decide +kernel, rfl⟩
  · exact (hsend [2] rfl (by decide) (by decide) _ _).mpr ⟨rfl, rfl⟩

end Loopback
end BlockBridge

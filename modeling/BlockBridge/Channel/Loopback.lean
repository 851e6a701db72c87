import BlockBridge.Channel

/-!
# Loopback

Two ends in one process, joined by a bounded queue in each direction.  When
either end is dropped both directions close: the other end can still take what
is queued for it, and then finds itself disconnected.

An end that has to wait naps for a millisecond at a time and looks again.
Nobody else acts while it naps, so looking once, before the first nap, is enough.

Main statements: a wait takes exactly its time (`Loopback.nap_eq_sleep`), by
naps (`Loopback.nap_eq_foldl_naps`) of which none is longer than a poll
(`Loopback.le_poll_of_mem_naps`).  A send either changes nothing or puts its
frame behind the others (`Loopback.send_state`).
-/

namespace BlockBridge

/-- The two ends of a loopback: `hl` asks, `rt` serves. -/
inductive Loopback.End where
  | hl
  | rt
  deriving DecidableEq

/-- Two queues and who still holds an end of them. -/
structure Loopback where
  /-- Frames waiting at the `hl` end. -/
  toHl : List Bytes := []
  /-- Frames waiting at the `rt` end. -/
  toRt : List Bytes := []
  hlHeld : Bool := true
  rtHeld : Bool := true
  deriving DecidableEq

namespace Loopback

/-- Frames that each direction holds. -/
def depth : Nat := 8

/-- The longest frame that a queue takes. -/
def frameLimit : Nat := 517

/-- The longest nap of an end that waits, in microseconds. -/
def poll : Nat := 1000

/-- How long a send waits for room, in microseconds. -/
def sendBound : Nat := 500000

/-- The name of the part that these records come from. -/
def logTarget : String := "sdbridge::adapters::loopback"

/-- An end's name. -/
def End.name : End → String
  | .hl => "hl"
  | .rt => "rt"

/-- The other end. -/
def End.peer : End → End
  | .hl => .rt
  | .rt => .hl

/-- Sleep for `rest` microseconds, one nap after the other: whole polls, then
what is left. -/
def nap (rest : Nat) (time : Timeline) : Timeline :=
  if rest = 0 then time else nap (rest - min poll rest) (time.sleep (min poll rest))
termination_by rest
decreasing_by
  unfold poll
  omega

/-- The lengths of the naps of a wait of `rest` microseconds. -/
def naps (rest : Nat) : List Nat :=
  if rest = 0 then [] else min poll rest :: naps (rest - min poll rest)
termination_by rest
decreasing_by
  unfold poll
  omega

theorem nap_eq_foldl_naps (rest : Nat) (time : Timeline) :
    nap rest time = (naps rest).foldl (fun time duration => time.sleep duration) time := by
  fun_induction nap rest time with
  | case1 time => simp [naps]
  | case2 rest time hrest ih =>
    rw [naps, if_neg hrest, List.foldl_cons, ih]

theorem sum_naps (rest : Nat) : (naps rest).foldr (· + ·) 0 = rest := by
  fun_induction naps rest with
  | case1 => rfl
  | case2 rest hrest ih =>
    rw [List.foldr_cons, ih]
    omega

theorem le_poll_of_mem_naps {rest duration : Nat} (h : duration ∈ naps rest) :
    duration ≤ poll := by
  fun_induction naps rest with
  | case1 => simp at h
  | case2 rest hrest ih =>
    rcases List.mem_cons.mp h with rfl | hmem
    · exact Nat.min_le_left _ _
    · exact ih hmem

theorem nap_eq_sleep (rest : Nat) (time : Timeline) : nap rest time = time.sleep rest := by
  fun_induction nap rest time with
  | case1 time => rfl
  | case2 rest time hrest ih =>
    rw [ih]
    simp only [Timeline.sleep, Timeline.mk.injEq, and_true]
    omega

/-- Whether either end has been dropped. -/
def closed (link : Loopback) : Bool := !(link.hlHeld && link.rtHeld)

/-- The frames that wait at an end. -/
def queue (link : Loopback) : End → List Bytes
  | .hl => link.toHl
  | .rt => link.toRt

/-- The link with other frames waiting at an end. -/
def setQueue (link : Loopback) (frames : List Bytes) : End → Loopback
  | .hl => { link with toHl := frames }
  | .rt => { link with toRt := frames }

/-- Whether an end is still held. -/
def held (link : Loopback) : End → Bool
  | .hl => link.hlHeld
  | .rt => link.rtHeld

/-- The link with nobody holding an end. -/
def release (link : Loopback) : End → Loopback
  | .hl => { link with hlHeld := false }
  | .rt => { link with rtHeld := false }

/-- Drop an end.  An end that nobody holds any more cannot be dropped again. -/
def drop (side : End) (link : Loopback) (time : Timeline) : Loopback × Timeline :=
  if link.held side then
    (link.release side, time.note logTarget [.debug s!"loopback[{side.name}]: closed"])
  else (link, time)

/-- Send a frame from an end.  A full queue is waited for, up to a bound. -/
def send (side : End) (frame : Bytes) (link : Loopback) (time : Timeline) :
    Channel.Result Loopback Unit :=
  if link.closed then (.error .disconnected, link, time)
  else if frameLimit < frame.length then (.error .frameTooLarge, link, time)
  else if (link.queue side.peer).length < depth then
    (.ok (), link.setQueue (link.queue side.peer ++ [frame]) side.peer, time)
  else
    -- The queue is still full after the naps, for nobody took a frame out of it.
    (.error .queueFull, link, (nap sendBound time).note logTarget
      [.warn s!"loopback[{side.name}]: queue full, dropping frame"])

/-- Receive at an end.  An empty queue is waited for while the other end is held. -/
def receive (side : End) (timeout : Nat) (link : Loopback) (time : Timeline) :
    Channel.Result Loopback (Option Bytes) :=
  match link.queue side with
  | frame :: rest => (.ok (some frame), link.setQueue rest side, time)
  | [] =>
    if link.closed then (.error .disconnected, link, time)
    else (.ok none, link, nap timeout time)

/-! ## What sending and receiving do -/

@[simp]
theorem queue_setQueue (link : Loopback) (frames : List Bytes) (side : End) :
    (link.setQueue frames side).queue side = frames := by
  cases side <;> rfl

@[simp]
theorem queue_peer_setQueue (link : Loopback) (frames : List Bytes) (side : End) :
    (link.setQueue frames side).queue side.peer = link.queue side.peer := by
  cases side <;> rfl

theorem send_of_closed {link : Loopback} (hclosed : link.closed = true) (side : End)
    (frame : Bytes) (time : Timeline) :
    send side frame link time = (.error .disconnected, link, time) := by
  simp [send, hclosed]

theorem send_of_oversize {link : Loopback} (hopen : link.closed = false) {frame : Bytes}
    (hsize : frameLimit < frame.length) (side : End) (time : Timeline) :
    send side frame link time = (.error .frameTooLarge, link, time) := by
  simp [send, hopen, hsize]

theorem send_of_room {link : Loopback} (hopen : link.closed = false) {frame : Bytes}
    (hsize : frame.length ≤ frameLimit) {side : End}
    (hroom : (link.queue side.peer).length < depth) (time : Timeline) :
    send side frame link time =
      (.ok (), link.setQueue (link.queue side.peer ++ [frame]) side.peer, time) := by
  simp [send, hopen, Nat.not_lt.mpr hsize, hroom]

theorem send_of_full {link : Loopback} (hopen : link.closed = false) {frame : Bytes}
    (hsize : frame.length ≤ frameLimit) {side : End}
    (hfull : depth ≤ (link.queue side.peer).length) (time : Timeline) :
    send side frame link time =
      (.error .queueFull, link, (time.sleep sendBound).note logTarget
        [.warn s!"loopback[{side.name}]: queue full, dropping frame"]) := by
  simp [send, hopen, Nat.not_lt.mpr hsize, Nat.not_lt.mpr hfull, nap_eq_sleep]

theorem receive_of_cons {link : Loopback} {side : End} {frame : Bytes} {rest : List Bytes}
    (hqueue : link.queue side = frame :: rest) (timeout : Nat) (time : Timeline) :
    receive side timeout link time = (.ok (some frame), link.setQueue rest side, time) := by
  simp [receive, hqueue]

theorem receive_of_closed {link : Loopback} {side : End} (hqueue : link.queue side = [])
    (hclosed : link.closed = true) (timeout : Nat) (time : Timeline) :
    receive side timeout link time = (.error .disconnected, link, time) := by
  simp [receive, hqueue, hclosed]

theorem receive_of_open {link : Loopback} {side : End} (hqueue : link.queue side = [])
    (hopen : link.closed = false) (timeout : Nat) (time : Timeline) :
    receive side timeout link time = (.ok none, link, time.sleep timeout) := by
  simp [receive, hqueue, hopen, nap_eq_sleep]

/-- What a send leaves behind: either nothing has changed, or the frame is the
last one in the peer's queue. -/
theorem send_state (side : End) (frame : Bytes) (link : Loopback) (time : Timeline) :
    (send side frame link time).2.1 = link ∨
      (send side frame link time).2.1 =
        link.setQueue (link.queue side.peer ++ [frame]) side.peer := by
  cases hclosed : link.closed with
  | true => exact .inl (by rw [send_of_closed hclosed])
  | false =>
    rcases Nat.lt_or_ge frameLimit frame.length with hlong | hsize
    · exact .inl (by rw [send_of_oversize hclosed hlong])
    · rcases Nat.lt_or_ge (link.queue side.peer).length depth with hroom | hfull
      · exact .inr (by rw [send_of_room hclosed hsize hroom])
      · exact .inl (by rw [send_of_full hclosed hsize hfull])

/-- After a drop nobody holds the end. -/
theorem held_drop (side : End) (link : Loopback) (time : Timeline) :
    (drop side link time).1.held side = false := by
  unfold drop
  cases hheld : link.held side with
  | true =>
    rw [if_pos rfl]
    cases side <;> rfl
  | false =>
    rw [if_neg Bool.false_ne_true]
    exact hheld

theorem drop_of_not_held {link : Loopback} {side : End} (h : link.held side = false)
    (time : Timeline) : drop side link time = (link, time) := by
  simp [drop, h]

/-! ## Progress -/

theorem queue_length_lt {side : End} {timeout : Nat} {link link' : Loopback}
    {time time' : Timeline} {frame : Bytes}
    (h : receive side timeout link time = (.ok (some frame), link', time')) :
    (link'.queue side).length < (link.queue side).length := by
  cases hqueue : link.queue side with
  | nil =>
    -- An empty queue hands out nothing, whether or not it is closed.
    cases hclosed : link.closed with
    | true => simp [receive_of_closed hqueue hclosed] at h
    | false => simp [receive_of_open hqueue hclosed] at h
  | cons first rest =>
    rw [receive_of_cons hqueue] at h
    simp only [Prod.mk.injEq] at h
    obtain ⟨_, rfl, _⟩ := h
    rw [queue_setQueue]
    exact Nat.lt_succ_self rest.length

theorem idle {side : End} {timeout : Nat} {link link' : Loopback} {time time' : Timeline}
    (h : receive side timeout link time = (.ok none, link', time')) :
    link' = link ∧ time' = time.sleep timeout := by
  cases hqueue : link.queue side with
  | nil =>
    cases hclosed : link.closed with
    | true => simp [receive_of_closed hqueue hclosed] at h
    | false =>
      rw [receive_of_open hqueue hclosed] at h
      simp only [Prod.mk.injEq, true_and] at h
      exact ⟨h.1.symm, h.2.symm⟩
  | cons first rest => simp [receive_of_cons hqueue] at h

theorem length_send_rt (frame : Bytes) (link : Loopback) (time : Timeline) :
    (send .rt frame link time).2.1.toRt.length = link.toRt.length ∧
      (send .rt frame link time).2.1.toHl.length ≤ link.toHl.length + 1 := by
  rcases send_state .rt frame link time with hsame | happended
  · rw [hsame]
    exact ⟨rfl, Nat.le_succ _⟩
  · rw [happended]
    constructor
    · rfl
    · show (link.toHl ++ [frame]).length ≤ link.toHl.length + 1
      exact Nat.le_of_eq (by rw [List.length_append, List.length_singleton])

theorem length_receive_rt (timeout : Nat) (link : Loopback) (time : Timeline) :
    (receive .rt timeout link time).2.1.toHl.length = link.toHl.length ∧
      (∀ frame, (receive .rt timeout link time).1 = .ok (some frame) →
        (receive .rt timeout link time).2.1.toRt.length + 1 = link.toRt.length) ∧
      (receive .rt timeout link time).2.1.toRt.length ≤ link.toRt.length := by
  cases hqueue : link.queue .rt with
  | nil =>
    cases hclosed : link.closed with
    | true => simp [receive_of_closed hqueue hclosed]
    | false => simp [receive_of_open hqueue hclosed]
  | cons first rest =>
    have htoRt : link.toRt = first :: rest := hqueue
    rw [receive_of_cons hqueue]
    refine ⟨rfl, ?_, ?_⟩
    · intro frame _
      show rest.length + 1 = link.toRt.length
      rw [htoRt, List.length_cons]
    · show rest.length ≤ link.toRt.length
      rw [htoRt, List.length_cons]
      exact Nat.le_succ _

theorem now_send_le (side : End) (frame : Bytes) (link : Loopback) (time : Timeline) :
    time.now ≤ (send side frame link time).2.2.now := by
  cases hclosed : link.closed with
  | true => exact Nat.le_of_eq (by rw [send_of_closed hclosed])
  | false =>
    rcases Nat.lt_or_ge frameLimit frame.length with hlong | hsize
    · exact Nat.le_of_eq (by rw [send_of_oversize hclosed hlong])
    · rcases Nat.lt_or_ge (link.queue side.peer).length depth with hroom | hfull
      · exact Nat.le_of_eq (by rw [send_of_room hclosed hsize hroom])
      · have hlate : (send side frame link time).2.2.now = time.now + sendBound := by
          rw [send_of_full hclosed hsize hfull]
          rfl
        exact hlate ▸ Nat.le_add_right _ _

theorem now_receive_le (side : End) (timeout : Nat) (link : Loopback)
    (time : Timeline) : time.now ≤ (receive side timeout link time).2.2.now := by
  cases hqueue : link.queue side with
  | nil =>
    cases hclosed : link.closed with
    | true => exact Nat.le_of_eq (by rw [receive_of_closed hqueue hclosed])
    | false =>
      have hlate : (receive side timeout link time).2.2.now = time.now + timeout := by
        rw [receive_of_open hqueue hclosed]
        rfl
      exact hlate ▸ Nat.le_add_right _ _
  | cons first rest => exact Nat.le_of_eq (by rw [receive_of_cons hqueue])

/-- One end of a loopback as a channel. -/
def channel (side : End) : Channel Loopback where
  send := send side
  receive := receive side
  backlog link := (link.queue side).length
  backlog_lt := queue_length_lt
  idle h := by
    obtain ⟨rfl, rfl⟩ := idle h
    exact .inr ⟨Nat.le_refl _, Nat.le_refl _⟩

end Loopback
end BlockBridge

import BlockBridge.Channel

/-!
# Replaying an inbound history

A replay channel plays back a list of things that happen at the other end, each
some time after the one before, and keeps what is sent over it.  It lets one
side of the bridge run against any history at all.
-/

namespace BlockBridge

/-- Something that happens at the other end. -/
inductive Occurrence where
  /-- A frame arrives. -/
  | frame (bytes : Bytes)
  /-- Receiving fails. -/
  | fault (fault : ChannelFault)
  /-- Receiving gives up early. -/
  | nothing
  /-- The stop flag is set, and receiving gives up early. -/
  | stop
  deriving DecidableEq

/-- What a receive comes back with when an occurrence happens in its time. -/
def Occurrence.received : Occurrence → Except ChannelFault (Option Bytes)
  | frame bytes => .ok (some bytes)
  | fault cause => .error cause
  | nothing | stop => .ok none

/-- An occurrence and how long it has yet to come. -/
structure Scheduled where
  occurrence : Occurrence
  after : Nat := 0
  deriving DecidableEq

/-- The state of a channel that plays back a history. -/
structure Replay where
  /-- What is still to happen, in order. -/
  inbound : List Scheduled := []
  /-- Whether the channel breaks once the history is over, instead of falling silent. -/
  hungUp : Bool := false
  /-- What becomes of the next frames that are sent; beyond the list all is well. -/
  sendFaults : List (Option ChannelFault) := []
  /-- The stop flag. -/
  stopped : Bool := false
  /-- The frames accepted so far, oldest first. -/
  sent : List Bytes := []
  /-- The time allowed to each receive so far, oldest first. -/
  allowed : List Nat := []
  deriving DecidableEq

namespace Replay

/-- Send a frame, unless it is the turn of a send fault. -/
def send (frame : Bytes) (replay : Replay) (time : Timeline) : Channel.Result Replay Unit :=
  match replay.sendFaults with
  | some fault :: rest => (.error fault, { replay with sendFaults := rest }, time)
  | none :: rest =>
    (.ok (), { replay with sendFaults := rest, sent := replay.sent ++ [frame] }, time)
  | [] => (.ok (), { replay with sent := replay.sent ++ [frame] }, time)

/-- Let the next occurrence happen, if it comes within the time allowed.  A
history that is over sets the stop flag. -/
def receive (timeout : Nat) (replay : Replay) (time : Timeline) :
    Channel.Result Replay (Option Bytes) :=
  let noted := { replay with allowed := replay.allowed ++ [timeout] }
  match replay.inbound with
  | [] =>
    if replay.hungUp then (.error .disconnected, noted, time)
    else (.ok none, { noted with stopped := true }, time.sleep timeout)
  | item :: rest =>
    if timeout < item.after then
      -- The occurrence stays where it is, and has that much less to come.
      let waiting := { item with after := item.after - timeout }
      (.ok none, { noted with inbound := waiting :: rest }, time.sleep timeout)
    else
      (item.occurrence.received,
        { noted with inbound := rest, stopped := replay.stopped || item.occurrence = .stop },
        time.sleep item.after)

/-- A bound on the receives until a history is over: every occurrence takes one,
and each delay no more than its microseconds. -/
def receives : List Scheduled → Nat
  | [] => 0
  | item :: rest => item.after + 1 + receives rest

/-- A bound on the receives until the stop flag is set. -/
def work (replay : Replay) : Nat :=
  receives replay.inbound + if replay.stopped then 0 else 1

/-! ## What a receive does -/

theorem receive_of_hungUp {replay : Replay} (hover : replay.inbound = [])
    (hhung : replay.hungUp = true) (timeout : Nat) (time : Timeline) :
    receive timeout replay time =
      (.error .disconnected, { replay with allowed := replay.allowed ++ [timeout] }, time) := by
  simp [receive, hover, hhung]

theorem receive_of_over {replay : Replay} (hover : replay.inbound = [])
    (hhung : replay.hungUp = false) (timeout : Nat) (time : Timeline) :
    receive timeout replay time =
      (.ok none, { replay with allowed := replay.allowed ++ [timeout], stopped := true },
        time.sleep timeout) := by
  simp [receive, hover, hhung]

theorem receive_of_lt {replay : Replay} {item : Scheduled} {rest : List Scheduled}
    (hnext : replay.inbound = item :: rest) {timeout : Nat} (hearly : timeout < item.after)
    (time : Timeline) :
    receive timeout replay time =
      (.ok none,
        { replay with
          inbound := { item with after := item.after - timeout } :: rest
          allowed := replay.allowed ++ [timeout] },
        time.sleep timeout) := by
  simp [receive, hnext, hearly]

theorem receive_of_le {replay : Replay} {item : Scheduled} {rest : List Scheduled}
    (hnext : replay.inbound = item :: rest) {timeout : Nat} (hdue : item.after ≤ timeout)
    (time : Timeline) :
    receive timeout replay time =
      (item.occurrence.received,
        { replay with
          inbound := rest
          allowed := replay.allowed ++ [timeout]
          stopped := replay.stopped || item.occurrence = .stop },
        time.sleep item.after) := by
  simp [receive, hnext, Nat.not_lt.mpr hdue]

/-! ## Progress -/

theorem backlog_lt {timeout : Nat} {replay replay' : Replay} {time time' : Timeline}
    {frame : Bytes} (h : receive timeout replay time = (.ok (some frame), replay', time')) :
    replay'.inbound.length < replay.inbound.length := by
  cases hnext : replay.inbound with
  | nil =>
    -- A history that is over hands out no frame.
    cases hhung : replay.hungUp with
    | true => simp [receive_of_hungUp hnext hhung] at h
    | false => simp [receive_of_over hnext hhung] at h
  | cons item rest =>
    rcases Nat.lt_or_ge timeout item.after with hearly | hdue
    · simp [receive_of_lt hnext hearly] at h
    · rw [receive_of_le hnext hdue] at h
      have hrest : replay'.inbound = rest := by
        rw [← (Prod.mk.inj (Prod.mk.inj h).2).1]
      rw [hrest]
      exact Nat.lt_succ_self rest.length

theorem idle {timeout : Nat} {replay replay' : Replay} {time time' : Timeline}
    (h : receive timeout replay time = (.ok none, replay', time')) :
    replay'.inbound.length < replay.inbound.length ∨
      replay'.inbound.length ≤ replay.inbound.length ∧ time.now + timeout ≤ time'.now := by
  cases hnext : replay.inbound with
  | nil =>
    cases hhung : replay.hungUp with
    | true => simp [receive_of_hungUp hnext hhung] at h
    | false =>
      rw [receive_of_over hnext hhung] at h
      simp only [Prod.mk.injEq, true_and] at h
      obtain ⟨rfl, rfl⟩ := h
      exact .inr ⟨Nat.le_of_eq (congrArg List.length hnext), Nat.le_refl _⟩
  | cons item rest =>
    rcases Nat.lt_or_ge timeout item.after with hearly | hdue
    · -- All the time allowed passes before the occurrence is due.
      rw [receive_of_lt hnext hearly] at h
      simp only [Prod.mk.injEq, true_and] at h
      obtain ⟨rfl, rfl⟩ := h
      exact .inr ⟨Nat.le_refl _, Nat.le_refl _⟩
    · rw [receive_of_le hnext hdue] at h
      have hrest : replay'.inbound = rest := by
        rw [← (Prod.mk.inj (Prod.mk.inj h).2).1]
      rw [hrest]
      exact .inl (Nat.lt_succ_self rest.length)

theorem work_lt {replay replay' : Replay} {time time' : Timeline} {received : Option Bytes}
    (hstopped : replay.stopped = false)
    (h : receive servePoll replay time = (.ok received, replay', time')) :
    replay'.work < replay.work := by
  have hpoll : 0 < servePoll := by decide
  cases hnext : replay.inbound with
  | nil =>
    cases hhung : replay.hungUp with
    | true => simp [receive_of_hungUp hnext hhung] at h
    | false =>
      rw [receive_of_over hnext hhung] at h
      simp only [Prod.mk.injEq] at h
      obtain ⟨_, rfl, _⟩ := h
      simp [work, hnext, hstopped, receives]
  | cons item rest =>
    rcases Nat.lt_or_ge servePoll item.after with hearly | hdue
    · rw [receive_of_lt hnext hearly] at h
      simp only [Prod.mk.injEq] at h
      obtain ⟨_, rfl, _⟩ := h
      simp only [work, hnext, hstopped, receives]
      omega
    · rw [receive_of_le hnext hdue] at h
      simp only [Prod.mk.injEq] at h
      obtain ⟨_, rfl, _⟩ := h
      -- The flag is worth at most one receive, and so is the occurrence.
      have hflag : (if (replay.stopped || decide (item.occurrence = .stop)) = true then 0 else 1)
          ≤ 1 := by
        split <;> decide
      simp only [work, hnext, hstopped, receives] at hflag ⊢
      simp only [Bool.false_eq_true, if_false]
      omega

theorem work_send (frame : Bytes) (replay : Replay) (time : Timeline) :
    (send frame replay time).2.1.work = replay.work := by
  unfold send
  cases replay.sendFaults with
  | nil => rfl
  | cons planned rest =>
    cases planned with
    | none => rfl
    | some fault => rfl

/-- A replay as something to serve. -/
def feed : Feed Replay where
  send := send
  receive := receive
  backlog replay := replay.inbound.length
  backlog_lt := backlog_lt
  idle := idle
  stopped := Replay.stopped
  work := work
  work_lt := work_lt
  work_send_le frame replay time := Nat.le_of_eq (work_send frame replay time)

/-- A replay as a channel. -/
def channel : Channel Replay := feed.toChannel

end Replay
end BlockBridge

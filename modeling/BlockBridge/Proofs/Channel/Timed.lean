import BlockBridge.Channel.Replay

/-!
# Channels and the clock

A channel is steady if it does not turn the clock back, and punctual if besides it takes
for a receive no more than the time allowed.

To say when a channel was used, what for and how that went, it is replaced by one that
keeps a note of each use and otherwise does the same (`Channel.send_of_timed`,
`Channel.receive_of_timed`).  Unlike a recorded or a logged channel it notes what failed
as well.
-/

namespace BlockBridge

/-! ## Steady and punctual channels -/

/-- That a channel does not turn the clock back. -/
structure Channel.Steady {σ : Type} (channel : Channel σ) : Prop where
  le_send : ∀ frame state (time : Timeline), time.now ≤ (channel.send frame state time).2.2.now
  le_receive : ∀ timeout state (time : Timeline),
    time.now ≤ (channel.receive timeout state time).2.2.now

/-- That a receive takes no longer than it may, whatever comes of it. -/
structure Channel.Punctual {σ : Type} (channel : Channel σ) : Prop extends channel.Steady where
  receive_le : ∀ timeout state (time : Timeline),
    (channel.receive timeout state time).2.2.now ≤ time.now + timeout

namespace Channel

variable {σ : Type} {channel : Channel σ}

theorem Steady.now_le_of_send (h : channel.Steady) {frame : Bytes} {state state' : σ}
    {time time' : Timeline} {result : Except ChannelFault Unit}
    (hsend : channel.send frame state time = (result, state', time')) : time.now ≤ time'.now := by
  have hclock := h.le_send frame state time
  rwa [hsend] at hclock

theorem Steady.now_le_of_receive (h : channel.Steady) {timeout : Nat} {state state' : σ}
    {time time' : Timeline} {result : Except ChannelFault (Option Bytes)}
    (hreceive : channel.receive timeout state time = (result, state', time')) :
    time.now ≤ time'.now := by
  have hclock := h.le_receive timeout state time
  rwa [hreceive] at hclock

theorem Punctual.now_le_add (h : channel.Punctual) {timeout : Nat} {state state' : σ}
    {time time' : Timeline} {result : Except ChannelFault (Option Bytes)}
    (hreceive : channel.receive timeout state time = (result, state', time')) :
    time'.now ≤ time.now + timeout := by
  have hclock := h.receive_le timeout state time
  rwa [hreceive] at hclock

end Channel

/-- A replay is punctual: it lets as much time pass as there is until the next
occurrence, and no more than is allowed. -/
theorem Replay.punctual : Replay.channel.Punctual where
  le_send frame replay time := by
    show time.now ≤ (Replay.send frame replay time).2.2.now
    unfold Replay.send
    split <;> exact Nat.le_refl _
  le_receive timeout replay time := by
    show time.now ≤ (Replay.receive timeout replay time).2.2.now
    unfold Replay.receive
    simp only
    split
    · split
      · exact Nat.le_refl _
      · exact Nat.le_add_right _ _
    · split
      · exact Nat.le_add_right _ _
      · exact Nat.le_add_right _ _
  receive_le timeout replay time := by
    show (Replay.receive timeout replay time).2.2.now ≤ time.now + timeout
    unfold Replay.receive
    simp only
    split
    · split
      · exact Nat.le_add_right _ _
      · exact Nat.le_refl _
    · split
      · exact Nat.le_refl _
      · rename_i hdue
        exact Nat.add_le_add_left (Nat.le_of_not_lt hdue) _

/-! ## Timed channels -/

/-- A send: the frame, when it was begun, and what came of it. -/
structure Sending where
  frame : Bytes
  began : Nat
  result : Except ChannelFault Unit

/-- A receive: the time it was allowed, when it was begun and ended, and what came of it. -/
structure Receipt where
  allowed : Nat
  began : Nat
  ended : Nat
  result : Except ChannelFault (Option Bytes)

/-- A channel's state and the uses that were made of it, oldest first. -/
structure Timed (σ : Type) where
  state : σ
  sendings : List Sending := []
  receipts : List Receipt := []

namespace Channel

variable {σ : Type}

/-- A channel that does as another one does and notes when. -/
def timed (channel : Channel σ) : Channel (Timed σ) where
  send frame link time :=
    let (result, state, time') := channel.send frame link.state time
    (result,
      { link with
        state
        sendings := link.sendings ++ [{ frame, began := time.now, result }] },
      time')
  receive timeout link time :=
    let (result, state, time') := channel.receive timeout link.state time
    (result,
      { link with
        state
        receipts := link.receipts ++
          [{ allowed := timeout, began := time.now, ended := time'.now, result }] },
      time')
  backlog link := channel.backlog link.state
  backlog_lt h := by
    simp only [Prod.mk.injEq] at h
    obtain ⟨hresult, rfl, rfl⟩ := h
    exact channel.backlog_lt (Prod.ext hresult rfl)
  idle h := by
    simp only [Prod.mk.injEq] at h
    obtain ⟨hresult, rfl, rfl⟩ := h
    exact channel.idle (Prod.ext hresult rfl)

variable {channel : Channel σ}

/-- A send over a timed channel is one over the channel, and is noted. -/
theorem send_of_timed {frame : Bytes} {link link' : Timed σ} {time time' : Timeline}
    {result : Except ChannelFault Unit}
    (h : channel.timed.send frame link time = (result, link', time')) :
    channel.send frame link.state time = (result, link'.state, time') ∧
      link'.sendings = link.sendings ++ [{ frame, began := time.now, result }] ∧
      link'.receipts = link.receipts := by
  simp only [timed, Prod.mk.injEq] at h
  obtain ⟨rfl, rfl, rfl⟩ := h
  exact ⟨rfl, rfl, rfl⟩

/-- A receive over a timed channel is one over the channel, and is noted. -/
theorem receive_of_timed {timeout : Nat} {link link' : Timed σ} {time time' : Timeline}
    {result : Except ChannelFault (Option Bytes)}
    (h : channel.timed.receive timeout link time = (result, link', time')) :
    channel.receive timeout link.state time = (result, link'.state, time') ∧
      link'.receipts = link.receipts ++
        [{ allowed := timeout, began := time.now, ended := time'.now, result }] ∧
      link'.sendings = link.sendings := by
  simp only [timed, Prod.mk.injEq] at h
  obtain ⟨rfl, rfl, rfl⟩ := h
  exact ⟨rfl, rfl, rfl⟩

end Channel
end BlockBridge

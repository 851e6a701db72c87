import BlockBridge.Fault
import BlockBridge.Journal

/-!
# Channels

A channel carries whole frames between the two sides, in order.  Its state is a
value of any type `σ`; sending and receiving say what happens to that state and
to the clock.

A channel promises progress.  What it has yet to hand out is counted by
`backlog`: receiving a frame uses some of it up, and coming back with nothing
either uses some up too or takes the whole time allowed.  So whoever receives
until a deadline does not receive for ever.

A `Feed` is a channel that one side serves until it is told to stop, and that
is bound to end: as long as it is not stopped, each receive uses up some of its
`work`.
-/

namespace BlockBridge

/-- What becomes of an operation on a channel whose state is `σ`. -/
abbrev Channel.Result (σ α : Type) : Type := Except ChannelFault α × σ × Timeline

/-- A duplex carrier of frames. -/
structure Channel (σ : Type) where
  /-- Send one frame. -/
  send : Bytes → σ → Timeline → Channel.Result σ Unit
  /-- Wait for one frame, for so many microseconds at most. -/
  receive : Nat → σ → Timeline → Channel.Result σ (Option Bytes)
  /-- A bound on what is yet to be received. -/
  backlog : σ → Nat
  /-- A frame that is received leaves the backlog. -/
  backlog_lt : ∀ {timeout state state' time time' frame},
    receive timeout state time = (.ok (some frame), state', time') →
      backlog state' < backlog state
  /-- Coming back with nothing shortens the backlog or takes all the time allowed. -/
  idle : ∀ {timeout state state' time time'},
    receive timeout state time = (.ok none, state', time') →
      backlog state' < backlog state ∨
        backlog state' ≤ backlog state ∧ time.now + timeout ≤ time'.now

namespace Channel

/-- A channel with nobody at the other end: what is sent is lost, and nothing
ever arrives. -/
def silent : Channel Unit where
  send _ state time := (.ok (), state, time)
  receive timeout state time := (.ok none, state, time.sleep timeout)
  backlog _ := 0
  backlog_lt h := by simp at h
  idle h := by
    simp only [Prod.mk.injEq, true_and] at h
    exact .inr ⟨Nat.le_refl _, by simp [← h]⟩

end Channel

/-- How long a side that serves a feed waits before it looks at the stop flag again. -/
def servePoll : Nat := 50000

/-- A channel to be served until it stops. -/
structure Feed (σ : Type) extends Channel σ where
  /-- Whether the stop flag is set. -/
  stopped : σ → Bool
  /-- A bound on the receives that are left. -/
  work : σ → Nat
  /-- Each receive of a feed that is not stopped uses up some work. -/
  work_lt : ∀ {state state' time time' received},
    stopped state = false → receive servePoll state time = (.ok received, state', time') →
      work state' < work state
  /-- Sending makes no work. -/
  work_send_le : ∀ (frame state time), work (send frame state time).2.1 ≤ work state

end BlockBridge

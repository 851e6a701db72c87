import BlockBridge.Proofs.Session.Outcome

/-!
# Runs of a session

Whoever uses a session calls its operations one after the other, in any order,
and lets time pass in between.  A run is a list of such calls, over any channel.

To say what went over the channel during a run, the channel is replaced by one
that keeps a record of it and otherwise does the same
(`Channel.send_recorded`, `Channel.receive_recorded`).
-/

namespace BlockBridge

/-- One use of a session. -/
inductive Session.Call where
  | submitRead (block : Address)
  | submitWrite (block : Address) (data : Block)
  | readBlock (block : Address)
  | writeBlock (block : Address) (data : Block)
  | writeBytes (block : Address) (bytes : Bytes)
  | wait (block : Address)
  | pump (timeout : Nat)
  | cancel (block : Address)
  /-- Time passes. -/
  | sleep (duration : Nat)

/-- What a call returns. -/
inductive Session.Answer where
  | done (result : Except Fault Unit)
  | contents (result : Except Fault Block)
  | completion (result : Except Fault Completion)
  | received (result : Except Fault Bool)
  | cancelled (found : Bool)
  | slept

namespace Session

variable {σ : Type}

/-- The session some time later. -/
def sleep (duration : Nat) (session : Session σ) : Session σ :=
  { session with time := session.time.sleep duration }

/-- Make one call. -/
def call (channel : Channel σ) : Call → Session σ → Answer × Session σ
  | .submitRead block, session => (session.submitRead channel block).map .done id
  | .submitWrite block data, session => (session.submitWrite channel block data).map .done id
  | .readBlock block, session => (session.readBlock channel block).map .contents id
  | .writeBlock block data, session => (session.writeBlock channel block data).map .done id
  | .writeBytes block bytes, session => (session.writeBytes channel block bytes).map .done id
  | .wait block, session => (session.wait channel block).map .completion id
  | .pump timeout, session => (session.pump channel timeout).map .received id
  | .cancel block, session => (session.cancel block).map .cancelled id
  | .sleep duration, session => (.slept, session.sleep duration)

/-- The session after a wait for what was just submitted, if it was. -/
def waitedIfSent (channel : Channel σ) (block : Address) :
    Except Fault Unit × Session σ → Session σ
  | (.ok (), session) => (session.wait channel block).2
  | (.error _, session) => session

theorem readBlock_session (channel : Channel σ) (block : Address) (session : Session σ) :
    (session.readBlock channel block).2 =
      waitedIfSent channel block (session.submitRead channel block) := by
  unfold readBlock waitedIfSent
  rcases session.submitRead channel block with ⟨_ | ⟨⟩, submitted⟩
  · rfl
  · simp only
    rcases submitted.wait channel block with ⟨_ | _ | _ | _, last⟩ <;> rfl

theorem writeBlock_session (channel : Channel σ) (block : Address) (data : Block)
    (session : Session σ) :
    (session.writeBlock channel block data).2 =
      waitedIfSent channel block (session.submitWrite channel block data) := by
  unfold writeBlock waitedIfSent
  rcases session.submitWrite channel block data with ⟨_ | ⟨⟩, submitted⟩
  · rfl
  · simp only
    rcases submitted.wait channel block with ⟨_ | _, last⟩ <;> rfl

/-- What a read returns once its request is sent. -/
theorem readBlock_result {channel : Channel σ} {block : Address} {session next : Session σ}
    (h : session.submitRead channel block = (.ok (), next)) :
    (session.readBlock channel block).1 =
      match (next.wait channel block).1 with
      | .ok (.read data) => .ok data
      | .ok .written | .ok (.failed _) => .error (.request (.notPending block))
      | .error fault => .error fault := by
  rw [readBlock, h]
  simp only
  rcases next.wait channel block with ⟨_ | _ | _ | _, last⟩ <;> rfl

/-- What a write returns once its request is sent. -/
theorem writeBlock_result {channel : Channel σ} {block : Address} {data : Block}
    {session next : Session σ} (h : session.submitWrite channel block data = (.ok (), next)) :
    (session.writeBlock channel block data).1 = (next.wait channel block).1.map fun _ => () := by
  rw [writeBlock, h]
  simp only
  rcases next.wait channel block with ⟨_ | _, last⟩ <;> rfl

/-- What a read or a write returns if its request is not sent. -/
theorem readBlock_refused {channel : Channel σ} {block : Address} {session next : Session σ}
    {fault : Fault} (h : session.submitRead channel block = (.error fault, next)) :
    (session.readBlock channel block).1 = .error fault := by
  rw [readBlock, h]

theorem writeBlock_refused {channel : Channel σ} {block : Address} {data : Block}
    {session next : Session σ} {fault : Fault}
    (h : session.submitWrite channel block data = (.error fault, next)) :
    (session.writeBlock channel block data).1 = .error fault := by
  rw [writeBlock, h]

/-- Make calls one after the other: what each returns, and the session after it. -/
def run (channel : Channel σ) : List Call → Session σ → List (Answer × Session σ)
  | [], _ => []
  | call :: rest, session =>
    session.call channel call :: run channel rest (session.call channel call).2

/-- The session after a list of calls. -/
def after (channel : Channel σ) (calls : List Call) (session : Session σ) : Session σ :=
  calls.foldl (fun session call => (session.call channel call).2) session

end Session

/-! ## Recorded channels -/

/-- A channel's state and what went over it. -/
structure Recorded (σ : Type) where
  state : σ
  /-- The frames that the channel accepted, oldest first. -/
  accepted : List Bytes := []
  /-- The frames that were received, oldest first. -/
  received : List Bytes := []

namespace Channel

variable {σ : Type}

/-- A channel that does as another one does and keeps a record of it. -/
def recorded (channel : Channel σ) : Channel (Recorded σ) where
  send frame record time :=
    match channel.send frame record.state time with
    | (.ok (), state, time) =>
      (.ok (), { record with state, accepted := record.accepted ++ [frame] }, time)
    | (.error fault, state, time) => (.error fault, { record with state }, time)
  receive timeout record time :=
    match channel.receive timeout record.state time with
    | (.ok (some frame), state, time) =>
      (.ok (some frame), { record with state, received := record.received ++ [frame] }, time)
    | (.ok none, state, time) => (.ok none, { record with state }, time)
    | (.error fault, state, time) => (.error fault, { record with state }, time)
  backlog record := channel.backlog record.state
  backlog_lt h := by
    split at h
    · rename_i hreceive
      simp only [Prod.mk.injEq, Except.ok.injEq, Option.some.injEq] at h
      obtain ⟨rfl, rfl, rfl⟩ := h
      exact channel.backlog_lt hreceive
    · simp at h
    · simp at h
  idle h := by
    split at h
    · simp at h
    · rename_i hreceive
      simp only [Prod.mk.injEq, true_and] at h
      obtain ⟨rfl, rfl⟩ := h
      exact channel.idle hreceive
    · simp at h

/-- Recording changes neither the outcome of a send nor the state or the clock. -/
theorem send_recorded (channel : Channel σ) (frame : Bytes) (record : Recorded σ)
    (time : Timeline) :
    let plain := channel.send frame record.state time
    (channel.recorded.send frame record time).1 = plain.1 ∧
      (channel.recorded.send frame record time).2.1.state = plain.2.1 ∧
      (channel.recorded.send frame record time).2.2 = plain.2.2 := by
  simp only [recorded]
  rcases channel.send frame record.state time with ⟨_ | ⟨⟩, state, time⟩
  · exact ⟨rfl, rfl, rfl⟩
  · exact ⟨rfl, rfl, rfl⟩

/-- Recording changes neither the outcome of a receive nor the state or the clock. -/
theorem receive_recorded (channel : Channel σ) (timeout : Nat) (record : Recorded σ)
    (time : Timeline) :
    let plain := channel.receive timeout record.state time
    (channel.recorded.receive timeout record time).1 = plain.1 ∧
      (channel.recorded.receive timeout record time).2.1.state = plain.2.1 ∧
      (channel.recorded.receive timeout record time).2.2 = plain.2.2 := by
  simp only [recorded]
  rcases channel.receive timeout record.state time with ⟨_ | _ | frame, state, time⟩
  · exact ⟨rfl, rfl, rfl⟩
  · exact ⟨rfl, rfl, rfl⟩
  · exact ⟨rfl, rfl, rfl⟩

/-- What a send adds to the record. -/
theorem record_send {channel : Channel σ} {frame : Bytes} {record record' : Recorded σ}
    {time time' : Timeline} {result : Except ChannelFault Unit}
    (h : channel.recorded.send frame record time = (result, record', time')) :
    record'.received = record.received ∧
      record'.accepted = record.accepted ++
        match result with
        | .ok () => [frame]
        | .error _ => [] := by
  simp only [recorded] at h
  split at h <;>
  · simp only [Prod.mk.injEq] at h
    obtain ⟨rfl, rfl, _⟩ := h
    simp

/-- What a receive adds to the record. -/
theorem record_receive {channel : Channel σ} {timeout : Nat} {record record' : Recorded σ}
    {time time' : Timeline} {result : Except ChannelFault (Option Bytes)}
    (h : channel.recorded.receive timeout record time = (result, record', time')) :
    record'.accepted = record.accepted ∧
      record'.received = record.received ++
        match result with
        | .ok (some frame) => [frame]
        | .ok none | .error _ => [] := by
  simp only [recorded] at h
  split at h <;>
  · simp only [Prod.mk.injEq] at h
    obtain ⟨rfl, rfl, _⟩ := h
    simp

end Channel
end BlockBridge

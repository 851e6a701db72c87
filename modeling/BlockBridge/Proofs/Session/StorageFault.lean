import BlockBridge.Channel.Replay
import BlockBridge.Proofs.Session.Log
import BlockBridge.Proofs.Session.Parked

/-!
# Where storage faults come from

A call returns a storage fault because its wait does, and a wait does if the first result
that came for its request reports a failure.  So the fault is about the block waited
for, and its code is the one in that result.

Whether the code is negative depends on the operation.  The result of a write is a
failure only if its code is negative.  The result of a read is a failure by its form, and
its code is passed on whatever it is.

Main statement: `Session.storage_fault_of_first_result`.
-/

namespace BlockBridge

/-- The storage fault that an operation of the bridge failed with, if it did. -/
def storage? {α : Type} : Except Fault α → Option StorageFault
  | .error (.storage fault) => some fault
  | .error (.malformed _) | .error (.timeout _) | .error (.channel _) | .error (.request _)
  | .error (.config _) | .ok _ => none

theorem storage?_eq_some_iff {α : Type} {result : Except Fault α} {fault : StorageFault} :
    storage? result = some fault ↔ result = .error (.storage fault) := by
  rcases result with (_ | _ | _ | _ | _ | _) | _ <;> simp [storage?]

/-- A wait returns a storage fault just for a failure. -/
theorem Completion.verdict_eq_storage_iff {outcome : Completion} {block : Address}
    {fault : StorageFault} :
    outcome.verdict block = .error (.storage fault) ↔
      fault.block = block ∧ outcome = .failed fault.code := by
  cases outcome with
  | read | written => simp [verdict]
  | failed code =>
    obtain ⟨about, code'⟩ := fault
    simp [verdict, eq_comm]

/-- What a frame is that carries a failure for a request. -/
theorem Bytes.answer?_eq_failed_iff {frame : Bytes} {block : Address} {operation : Operation}
    {code : ResultCode} :
    frame.answer? block operation = some (.failed code) ↔
      operation = .read ∧ Message.decode frame = .ok (.readFailed block code) ∨
        operation = .write ∧ Message.decode frame = .ok (.writeResult block code) ∧ code < 0 := by
  rw [answer?]
  rcases Message.decode frame with fault | message
  · simp
  simp only [Except.ok.injEq]
  cases message with
  | writeRequest | readRequest | readResult => simp [Message.answer?]
  | readFailed about code' =>
    simp only [Message.answer?, Option.ite_none_right_eq_some, Option.some.injEq,
      Completion.failed.injEq, Message.readFailed.injEq, reduceCtorEq, false_and, and_false,
      or_false]
    constructor
    · rintro ⟨⟨hblock, hread⟩, hcode⟩
      exact ⟨hread, hblock, hcode⟩
    · rintro ⟨hread, hblock, hcode⟩
      exact ⟨⟨hblock, hread⟩, hcode⟩
  | writeResult about code' =>
    simp only [Message.answer?, Option.ite_none_right_eq_some, Option.some.injEq,
      Message.writeResult.injEq, reduceCtorEq, and_false, false_or]
    by_cases hnegative : code' < 0
    · rw [if_pos hnegative]
      simp only [Completion.failed.injEq]
      constructor
      · rintro ⟨⟨hblock, hwrite⟩, rfl⟩
        exact ⟨hwrite, ⟨hblock, rfl⟩, hnegative⟩
      · rintro ⟨hwrite, ⟨hblock, hcode⟩, _⟩
        exact ⟨⟨hblock, hwrite⟩, hcode⟩
    · rw [if_neg hnegative]
      constructor
      · rintro ⟨_, hcode⟩
        cases hcode
      · rintro ⟨_, ⟨_, rfl⟩, hcode⟩
        exact absurd hcode hnegative

namespace Session

variable {σ : Type} {channel : Channel σ}

/-! ## Waits -/

/-- A wait returns a storage fault just if it is for a request in flight and the first
result that came for that, by the end of the wait, is a failure with this code. -/
theorem wait_eq_storage_iff {session : Session (Logged σ)}
    (htold : session.client.pending.Told session.channel.log) {block : Address}
    {fault : StorageFault} :
    (session.wait channel.logged block).1 = .error (.storage fault) ↔
      fault.block = block ∧ session.client.pending.contains block = true ∧
        ∃ request since,
          Passage.latest? block (session.wait channel.logged block).2.channel.log =
            some (request, since) ∧
          since.findSome? (Bytes.answer? block request.operation) =
            some (.failed fault.code) := by
  obtain ⟨last, hpumped, hending, hlog⟩ := session.wait_ends_logged channel block
  have hlast : last.client.pending.Told last.channel.log :=
    told_of_steps (steps_pumped (fun _ => False) hpumped) htold
  rw [hlog, ← contains_of_pumped hpumped block]
  generalize session.wait channel.logged block = waited at hending ⊢
  rcases waited with ⟨result, after⟩
  simp only at hending ⊢
  have hcontains {entry : Pending.Entry} (hfind : last.client.pending.find? block = some entry) :
      last.client.pending.contains block = true := by
    rw [Pending.Table.contains, hfind]
    rfl
  cases hending with
  | @settled entry outcome hfind hsettled =>
    rw [Completion.verdict_eq_storage_iff, and_iff_right (hcontains hfind),
      ← hlast.outcome_eq_iff hfind, hsettled, Option.some_inj]
  | absent hfind =>
    refine iff_of_false (by simp) ?_
    rintro ⟨_, hfound, _⟩
    rw [Pending.Table.contains, hfind] at hfound
    cases hfound
  | @late entry hfind hopen =>
    refine iff_of_false (by simp) ?_
    rw [← hlast.outcome_eq_iff hfind, hopen]
    simp
  | @broken entry cause next hfind hopen _ hpump =>
    obtain ⟨cause, rfl, _⟩ := pump_of_error hpump
    refine iff_of_false (by simp) ?_
    rw [← hlast.outcome_eq_iff hfind, hopen]
    simp

/-! ## Calls -/

/-- The storage fault that a call returns, if it does. -/
def Answer.storageFault? : Answer → Option StorageFault
  | .done result => storage? result
  | .contents result => storage? result
  | .completion result => storage? result
  | .received result => storage? result
  | .cancelled _ | .slept => none

/-- No submission returns one. -/
theorem storage?_submit (operation : Operation) (message : Message) (session : Session σ) :
    storage? (session.submit channel operation message).1 = none := by
  rcases hsubmitted : session.submit channel operation message with ⟨cause | ⟨⟩, next⟩
  · rcases fault_of_submit hsubmitted with rfl | rfl | ⟨cause, rfl⟩ <;> rfl
  · rfl

/-- That some steps after a session a wait for a block returned this fault, and left the
session like this. -/
def FaultedIn (channel : Channel σ) (block : Address) (fault : StorageFault)
    (session after : Session σ) : Prop :=
  ∃ before : Session σ, Steps channel (fun _ => True) session.core before.core ∧
    before.wait channel block = (.error (.storage fault), after)

theorem faultedIn_of_readBlock {session : Session σ} {block : Address} {fault : StorageFault}
    (h : (session.readBlock channel block).1 = .error (.storage fault)) :
    FaultedIn channel block fault session (session.readBlock channel block).2 := by
  have hsteps : Steps channel (fun _ => True) session.core
      (session.submitRead channel block).2.core := session.steps_submitRead trivial
  rw [readBlock_session]
  rcases hsubmitted : session.submitRead channel block with ⟨cause | ⟨⟩, next⟩
  · rw [readBlock_refused hsubmitted] at h
    rcases fault_of_submit hsubmitted with rfl | rfl | ⟨cause, rfl⟩ <;> cases h
  · rw [hsubmitted] at hsteps
    rw [readBlock_result hsubmitted] at h
    refine ⟨next, hsteps, Prod.ext ?_ rfl⟩
    rcases hwaited : (next.wait channel block).1 with cause | completion
    · rw [hwaited] at h
      cases h
      rfl
    · rw [hwaited] at h
      cases completion <;> cases h

theorem faultedIn_of_writeBlock {session : Session σ} {block : Address} {data : Block}
    {fault : StorageFault}
    (h : (session.writeBlock channel block data).1 = .error (.storage fault)) :
    FaultedIn channel block fault session (session.writeBlock channel block data).2 := by
  have hsteps : Steps channel (fun _ => True) session.core
      (session.submitWrite channel block data).2.core := session.steps_submitWrite trivial
  rw [writeBlock_session]
  rcases hsubmitted : session.submitWrite channel block data with ⟨cause | ⟨⟩, next⟩
  · rw [writeBlock_refused hsubmitted] at h
    rcases fault_of_submit hsubmitted with rfl | rfl | ⟨cause, rfl⟩ <;> cases h
  · rw [hsubmitted] at hsteps
    rw [writeBlock_result hsubmitted] at h
    refine ⟨next, hsteps, Prod.ext ?_ rfl⟩
    rcases hwaited : (next.wait channel block).1 with cause | completion
    · rw [hwaited] at h
      cases h
      rfl
    · rw [hwaited] at h
      cases h

/-- A call returns a storage fault because its wait does. -/
theorem faultedIn_of_call {session : Session σ} {call : Call} {fault : StorageFault}
    (h : (session.call channel call).1.storageFault? = some fault) :
    ∃ block, call.block? = some block ∧
      FaultedIn channel block fault session (session.call channel call).2 := by
  cases call with
  | submitRead block => cases (storage?_submit ..).symm.trans h
  | submitWrite block data => cases (storage?_submit ..).symm.trans h
  | readBlock block => exact ⟨block, rfl, faultedIn_of_readBlock (storage?_eq_some_iff.mp h)⟩
  | writeBlock block data =>
    exact ⟨block, rfl, faultedIn_of_writeBlock (storage?_eq_some_iff.mp h)⟩
  | writeBytes block bytes =>
    simp only [Session.call, Session.writeBytes] at h ⊢
    cases hdata : Block.ofBytes? bytes with
    | none =>
      rw [hdata] at h
      cases h
    | some data =>
      rw [hdata] at h
      exact ⟨block, rfl, faultedIn_of_writeBlock (storage?_eq_some_iff.mp h)⟩
  | wait block =>
    exact ⟨block, rfl, session, .refl, Prod.ext (storage?_eq_some_iff.mp h) rfl⟩
  | pump timeout =>
    obtain h : (session.pump channel timeout).1 = .error (.storage fault) :=
      storage?_eq_some_iff.mp h
    obtain ⟨cause, hcause, _⟩ := pump_of_error (Prod.ext h rfl)
    cases hcause
  | cancel | sleep => cases h

/-- Where a storage fault comes from.  Let a call of a reachable client return one.  It is
about the block that the call waited for, and its code is the one in the first frame that
answers the last request about the block that was sent.  That request is a write and the
code is negative, or it is a read and the code is what the frame says, of any sign.

And a wait returns the fault just if it has a request to wait for and there is such a
frame when it ends. -/
theorem storage_fault_of_first_result {session : Session (Logged σ)}
    (hreachable : Reachable channel.logged session) :
    (∀ call fault, (session.call channel.logged call).1.storageFault? = some fault →
      call.block? = some fault.block ∧
      ∃ request before frame after,
        Passage.latest? fault.block (session.call channel.logged call).2.channel.log =
          some (request, before ++ frame :: after) ∧
        request.block = fault.block ∧
        (∀ earlier ∈ before, Bytes.answer? fault.block request.operation earlier = none) ∧
        (request.operation = .write ∧ fault.code < 0 ∧
            Message.decode frame = .ok (.writeResult fault.block fault.code) ∨
          request.operation = .read ∧
            Message.decode frame = .ok (.readFailed fault.block fault.code))) ∧
    ∀ block fault, (session.wait channel.logged block).1 = .error (.storage fault) ↔
      fault.block = block ∧ session.client.pending.contains block = true ∧
        ∃ request since,
          Passage.latest? block (session.wait channel.logged block).2.channel.log =
            some (request, since) ∧
          since.findSome? (Bytes.answer? block request.operation) =
            some (.failed fault.code) := by
  refine ⟨?_, fun block fault => wait_eq_storage_iff hreachable.told⟩
  intro call fault hcall
  obtain ⟨block, hblock, before, hsteps, hwait⟩ := faultedIn_of_call hcall
  have htold : before.client.pending.Told before.channel.log :=
    told_of_steps hsteps hreachable.told
  obtain ⟨rfl, _, request, since, hlatest, hfirst⟩ :=
    (wait_eq_storage_iff htold).mp (congrArg Prod.fst hwait)
  rw [hwait] at hlatest
  obtain ⟨earlier, frame, later, rfl, hframe, hnone⟩ := List.findSome?_eq_some_iff.mp hfirst
  refine ⟨hblock, request, earlier, frame, later, hlatest, Passage.block_of_latest? hlatest,
    hnone, ?_⟩
  rcases Bytes.answer?_eq_failed_iff.mp hframe with ⟨hread, hdecode⟩ | ⟨hwrite, hdecode, hcode⟩
  · exact .inr ⟨hread, hdecode⟩
  · exact .inl ⟨hwrite, hcode, hdecode⟩

/-- A fresh session to which these frames come over a logged channel. -/
def reporting (frames : List Bytes) : Session (Logged Replay) where
  client := .ofConfig {}
  channel := { state := { inbound := frames.map fun frame => ⟨.frame frame, 0⟩ } }
  time := {}

/-- A write of block 4 hears that block 5 was written, then that its own failed with
code -2, and then that it succeeded. -/
theorem storage_fault_of_first_result_write :
    let session := (reporting [(Message.writeResult 5 0).encode,
      (Message.writeResult 4 (-2)).encode, (Message.writeResult 4 0).encode]).after
        Replay.channel.logged [.submitWrite 4 (.fill 1), .pump 0, .pump 0, .pump 0]
    let waited := session.call Replay.channel.logged (.wait 4)
    Reachable Replay.channel.logged session ∧ waited.1.storageFault? = some ⟨4, -2⟩ ∧
    ∃ request before frame after,
      Passage.latest? 4 waited.2.channel.log = some (request, before ++ frame :: after) ∧
      request.block = 4 ∧
      (∀ earlier ∈ before, Bytes.answer? 4 request.operation earlier = none) ∧
      (request.operation = .write ∧ (-2 : ResultCode) < 0 ∧
          Message.decode frame = .ok (.writeResult 4 (-2)) ∨
        request.operation = .read ∧ Message.decode frame = .ok (.readFailed 4 (-2))) := by
  intro session waited
  have hreachable : Reachable Replay.channel.logged session := ⟨{}, _, {}, _, rfl⟩
  have hfind : session.client.pending.find? 4 = some ⟨.write, 0, some (.failed (-2))⟩ := by
    decide +kernel
  have hfault : waited.1.storageFault? = some ⟨4, -2⟩ := by
    show storage? (session.wait Replay.channel.logged 4).1 = _
    rw [wait_of_settled hfind rfl]
    rfl
  obtain ⟨_, hfirst⟩ := (storage_fault_of_first_result hreachable).1 (.wait 4) ⟨4, -2⟩ hfault
  exact ⟨hreachable, hfault, hfirst⟩

/-- A storage fault need not have a negative code: a read of block 5 hears that it failed
with code 0. -/
theorem storage_fault_with_code_zero :
    let session := (reporting [[3, 5, 0, 0, 0, 0, 0, 0, 0]]).after Replay.channel.logged
      [.submitRead 5]
    Reachable Replay.channel.logged session ∧
      (session.wait Replay.channel.logged 5).1 = .error (.storage ⟨5, 0⟩) ∧
      ¬(0 : ResultCode) < 0 := by
  intro session
  have hopen : session.client.pending.find? 5 = some ⟨.read, 0, none⟩ := rfl
  have hsettled : (session.pump Replay.channel.logged 5000000).2.client.pending.find? 5 =
      some ⟨.read, 0, some (.failed 0)⟩ := by
    decide +kernel
  refine ⟨⟨{}, _, {}, _, rfl⟩, ?_, by decide⟩
  rw [wait_of_received hopen rfl (by decide) rfl]
  show ((session.pump Replay.channel.logged 5000000).2.wait Replay.channel.logged 5).1 = _
  rw [wait_of_settled hsettled rfl]
  rfl

end Session
end BlockBridge

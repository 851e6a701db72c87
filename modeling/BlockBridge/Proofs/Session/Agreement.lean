import BlockBridge.Channel.Replay
import BlockBridge.Proofs.Session.Steps

/-!
# Outcomes suit their operations

Whatever arrives, a request for a read is never taken for acknowledged and a request for
a write is never answered with data: a result settles only a request of its own
operation, and carries an outcome that this operation can have.  This is said of each
entry of the table and kept by every step of a session (`Session.agrees_of_steps`).

While a wait receives, no entry leaves the table and none changes its operation.  So a
wait returns what the request it waits for can end in (`Session.fulfils_of_wait`), and
whoever reads or writes a block finds the request that was submitted for it.

Main statement: `Session.outcomes_suit`.
-/

namespace BlockBridge

/-! ## Outcomes and operations -/

namespace Completion

/-- That an outcome is a success of this operation. -/
def Fulfils (operation : Operation) : Completion → Prop
  | read _ => operation = .read
  | written => operation = .write
  | failed _ => False

/-- That an operation can have this outcome: it succeeded or failed. -/
def Suits (operation : Operation) (outcome : Completion) : Prop :=
  outcome.Fulfils operation ∨ ∃ code, outcome = .failed code

theorem exists_of_fulfils_read {outcome : Completion} (h : outcome.Fulfils .read) :
    ∃ data, outcome = .read data := by
  cases outcome with
  | read data => exact ⟨data, rfl⟩
  | written => cases h
  | failed => exact h.elim

theorem eq_of_fulfils_write {outcome : Completion} (h : outcome.Fulfils .write) :
    outcome = .written := by
  cases outcome with
  | read => cases h
  | written => rfl
  | failed => exact h.elim

/-- A wait returns a success as it is, and a failure as a fault. -/
theorem fulfils_of_verdict {operation : Operation} {outcome result : Completion} {block : Address}
    (hsuits : outcome.Suits operation) (h : outcome.verdict block = .ok result) :
    result.Fulfils operation := by
  rcases hsuits with hfulfils | ⟨code, rfl⟩
  · cases outcome with
    | read | written =>
      obtain rfl := Except.ok.inj h
      exact hfulfils
    | failed => exact hfulfils.elim
  · cases h

end Completion

/-- A message answers a request with an outcome that the request's operation can have. -/
theorem Message.suits_of_answer? {message : Message} {block : Address} {operation : Operation}
    {outcome : Completion} (h : message.answer? block operation = some outcome) :
    outcome.Suits operation := by
  cases message with
  | writeRequest | readRequest => cases h
  | readResult about data =>
    obtain ⟨⟨_, rfl⟩, ⟨⟩⟩ := Option.ite_none_right_eq_some.mp h
    exact .inl rfl
  | readFailed about code =>
    obtain ⟨_, ⟨⟩⟩ := Option.ite_none_right_eq_some.mp h
    exact .inr ⟨code, rfl⟩
  | writeResult about code =>
    obtain ⟨⟨_, rfl⟩, ⟨⟩⟩ := Option.ite_none_right_eq_some.mp h
    by_cases hnegative : code < 0
    · exact .inr ⟨code, if_pos hnegative⟩
    · rw [if_neg hnegative]
      exact .inl rfl

/-- That the outcome of a request, if it is there, is one that its operation can have. -/
def Pending.Entry.Agrees (entry : Entry) : Prop :=
  ∀ outcome, entry.outcome = some outcome → outcome.Suits entry.operation

/-- Hearing a frame leaves an entry so. -/
theorem Pending.Entry.Agrees.hear {entry : Entry} (h : entry.Agrees) (block : Address)
    (frame : Bytes) : (entry.hear (frame.answer? block entry.operation)).Agrees := by
  intro outcome houtcome
  rcases Option.or_eq_some_iff.mp houtcome with hearlier | ⟨_, hanswer⟩
  · exact h outcome hearlier
  · unfold Bytes.answer? at hanswer
    split at hanswer
    · exact Message.suits_of_answer? hanswer
    · cases hanswer

namespace Session

variable {σ : Type} {channel : Channel σ} {allowed : Request → Prop}

theorem agrees_of_steps {before after : Pending.Table × σ}
    (hsteps : Steps channel allowed before after)
    (hbefore : before.1.Each fun _ => Pending.Entry.Agrees) :
    after.1.Each fun _ => Pending.Entry.Agrees :=
  each_of_steps (fun _ _ _ => nofun) (fun block _ frame h => h.hear block frame) hsteps hbefore

/-- No request for another operation on a block, and its entry keeps the operation. -/
theorem operation_of_steps {block : Address} {operation : Operation}
    (hallowed : ∀ request, allowed request → request.block = block →
      request.operation = operation)
    {before after : Pending.Table × σ} (hsteps : Steps channel allowed before after)
    (hbefore : before.1.Each fun about entry => about = block → entry.operation = operation) :
    after.1.Each fun about entry => about = block → entry.operation = operation :=
  each_of_steps (fun request _ hrequest => hallowed request hrequest) (fun _ _ _ h => h)
    hsteps hbefore

/-! ## Waits -/

/-- A wait that succeeds was for a request in flight, and returns a success of it. -/
theorem fulfils_of_wait {session : Session σ} {block : Address} {completion : Completion}
    (hagrees : session.client.pending.Each fun _ => Pending.Entry.Agrees)
    (h : (session.wait channel block).1 = .ok completion) :
    ∃ entry, session.client.pending.find? block = some entry ∧
      completion.Fulfils entry.operation := by
  obtain ⟨last, hpumped, hending⟩ := session.wait_ends channel block
  have hlast : last.client.pending.Each fun _ => Pending.Entry.Agrees :=
    agrees_of_steps (steps_pumped (fun _ => False) hpumped) hagrees
  have hoperation := operation_of_pumped hpumped block
  generalize session.wait channel block = waited at h hending
  rcases waited with ⟨result, after⟩
  simp only at h hending
  cases hending with
  | @settled found outcome hfind hsettled =>
    rw [hfind] at hoperation
    obtain ⟨entry, hentry, hsame⟩ := Option.map_eq_some_iff.mp hoperation.symm
    refine ⟨entry, hentry, ?_⟩
    rw [hsame]
    exact Completion.fulfils_of_verdict (hlast block found hfind outcome hsettled) h
  | absent | late | broken => cases h

/-- A wait for a request in flight finds one. -/
theorem wait_ne_notPending {session : Session σ} {block : Address} {entry : Pending.Entry}
    (hfind : session.client.pending.find? block = some entry) (about : Address) :
    (session.wait channel block).1 ≠ .error (.request (.notPending about)) := by
  obtain ⟨last, hpumped, hending⟩ := session.wait_ends channel block
  generalize session.wait channel block = waited at hending ⊢
  rcases waited with ⟨result, after⟩
  simp only at hending ⊢
  cases hending with
  | @settled found outcome => cases outcome <;> nofun
  | absent habsent =>
    obtain ⟨found, hfound, _⟩ := exists_of_pumped hfind hpumped
    rw [habsent] at hfound
    cases hfound
  | late => nofun
  | broken _ _ _ hpump =>
    obtain ⟨cause, rfl, _⟩ := pump_of_error hpump
    nofun

/-- A wait that succeeds returns a success of the operation that was asked for, if since
then no other operation on the block was. -/
theorem fulfils_of_later {session : Session σ} {block : Address} {entry : Pending.Entry}
    {completion : Completion} (hagrees : session.client.pending.Each fun _ => Pending.Entry.Agrees)
    (hfind : session.client.pending.find? block = some entry) {later : List Call}
    (hlater : ∀ call ∈ later, ∀ request, call.request? = some request → request.block = block →
      request.operation = entry.operation)
    (h : ((session.after channel later).wait channel block).1 = .ok completion) :
    completion.Fulfils entry.operation := by
  have hsteps : Steps channel
      (fun request => request.block = block → request.operation = entry.operation)
      session.core (session.after channel later).core := session.steps_after hlater
  have hbefore : session.client.pending.Each fun about found =>
      about = block → found.operation = entry.operation := by
    rintro about found hfound rfl
    exact congrArg Pending.Entry.operation (Option.some.inj (hfound.symm.trans hfind))
  obtain ⟨found, hfound, hfulfils⟩ := fulfils_of_wait (agrees_of_steps hsteps hagrees) h
  rw [← operation_of_steps (fun _ => id) hsteps hbefore block found hfound rfl]
  exact hfulfils

/-! ## Submissions and their waits -/

section Submitted

variable {session next : Session σ} {block : Address}
  (hagrees : session.client.pending.Each fun _ => Pending.Entry.Agrees)
include hagrees

/-- A wait for a read that was submitted returns data, if it succeeds. -/
theorem wait_of_submitRead (hsubmitted : session.submitRead channel block = (.ok (), next))
    {later : List Call}
    (hlater : ∀ call ∈ later, ∀ data, call.request? ≠ some (.write block data))
    {completion : Completion}
    (h : ((next.after channel later).wait channel block).1 = .ok completion) :
    ∃ data, completion = .read data := by
  have hsteps : Steps channel (fun _ => True) session.core
      (session.submitRead channel block).2.core := session.steps_submitRead trivial
  rw [hsubmitted] at hsteps
  refine Completion.exists_of_fulfils_read
    (fulfils_of_later (agrees_of_steps hsteps hagrees) (find?_of_submit hsubmitted) ?_ h)
  rintro call hcall (about | ⟨about, data⟩) hrequest rfl
  · rfl
  · exact absurd hrequest (hlater call hcall data)

/-- A wait for a write that was submitted returns that it was acknowledged, if it
succeeds. -/
theorem wait_of_submitWrite {data : Block}
    (hsubmitted : session.submitWrite channel block data = (.ok (), next)) {later : List Call}
    (hlater : ∀ call ∈ later, call.request? ≠ some (.read block)) {completion : Completion}
    (h : ((next.after channel later).wait channel block).1 = .ok completion) :
    completion = .written := by
  have hsteps : Steps channel (fun _ => True) session.core
      (session.submitWrite channel block data).2.core := session.steps_submitWrite trivial
  rw [hsubmitted] at hsteps
  refine Completion.eq_of_fulfils_write
    (fulfils_of_later (agrees_of_steps hsteps hagrees) (find?_of_submit hsubmitted) ?_ h)
  rintro call hcall (about | ⟨about, data⟩) hrequest rfl
  · exact absurd hrequest (hlater call hcall)
  · rfl

theorem written_of_writeBlock {data : Block}
    (h : (session.writeBlock channel block data).1 = .ok ()) :
    ∃ next, session.submitWrite channel block data = (.ok (), next) ∧
      (next.wait channel block).1 = .ok .written := by
  rcases hsubmitted : session.submitWrite channel block data with ⟨fault | ⟨⟩, next⟩
  · rw [writeBlock_refused hsubmitted] at h
    cases h
  · rw [writeBlock_result hsubmitted] at h
    refine ⟨next, rfl, ?_⟩
    rcases hwaited : (next.wait channel block).1 with fault | completion
    · rw [hwaited] at h
      cases h
    · rw [wait_of_submitWrite hagrees hsubmitted (List.forall_mem_nil _) hwaited]

/-- The wait of a read finds the request, and its result is data or a fault. -/
theorem readBlock_ne_notPending (about : Address) :
    (session.readBlock channel block).1 ≠ .error (.request (.notPending about)) := by
  rcases hsubmitted : session.submitRead channel block with ⟨fault | ⟨⟩, next⟩
  · rw [readBlock_refused hsubmitted]
    rcases fault_of_submit hsubmitted with rfl | rfl | ⟨cause, rfl⟩ <;> nofun
  · have hfound : (next.wait channel block).1 ≠ .error (.request (.notPending about)) :=
      wait_ne_notPending (find?_of_submit hsubmitted) about
    rw [readBlock_result hsubmitted]
    rcases hwaited : (next.wait channel block).1 with fault | completion
    · rw [hwaited] at hfound
      exact fun h => hfound (congrArg _ (Except.error.inj h))
    · obtain ⟨data, rfl⟩ := wait_of_submitRead hagrees hsubmitted (List.forall_mem_nil _) hwaited
      nofun

end Submitted

/-! ## Every run -/

/-- Operation and outcome agree, whatever is called and whatever arrives.  The outcome
with a request in flight is one that its operation can have.  A wait never returns a
failure as a success, and what it returns is a success of the request that it finds.  A
wait on a read that was submitted returns data, if it succeeds, as long as no write of
the block was submitted meanwhile; and with the operations the other way round, an
acknowledgement.  A write succeeds only by an acknowledgement.  A read never finds its
request missing: the request is in flight, as a read, for as long as its wait receives. -/
theorem outcomes_suit {session : Session σ} (hreachable : Reachable channel session) :
    (∀ block entry outcome, session.client.pending.find? block = some entry →
      entry.outcome = some outcome → outcome.Suits entry.operation) ∧
    (∀ block completion, (session.wait channel block).1 = .ok completion →
      ∃ entry, session.client.pending.find? block = some entry ∧
        completion.Fulfils entry.operation) ∧
    (∀ block next later completion, session.submitRead channel block = (.ok (), next) →
      (∀ call ∈ later, ∀ data, call.request? ≠ some (.write block data)) →
      ((next.after channel later).wait channel block).1 = .ok completion →
      ∃ data, completion = .read data) ∧
    (∀ block data next later completion, session.submitWrite channel block data = (.ok (), next) →
      (∀ call ∈ later, call.request? ≠ some (.read block)) →
      ((next.after channel later).wait channel block).1 = .ok completion →
      completion = .written) ∧
    (∀ block data, (session.writeBlock channel block data).1 = .ok () →
      ∃ next, session.submitWrite channel block data = (.ok (), next) ∧
        (next.wait channel block).1 = .ok .written) ∧
    ∀ block,
      (∀ about, (session.readBlock channel block).1 ≠ .error (.request (.notPending about))) ∧
      ∀ next last, session.submitRead channel block = (.ok (), next) →
        Pumped channel block next last →
        ∃ entry, last.client.pending.find? block = some entry ∧ entry.operation = .read := by
  obtain ⟨limit, state, hsteps⟩ := hreachable.exists_steps
  have hagrees : session.client.pending.Each fun _ => Pending.Entry.Agrees :=
    agrees_of_steps hsteps fun _ _ => nofun
  refine ⟨?_, ?_, ?_, ?_, ?_, ?_⟩
  · intro block entry outcome hfind
    exact hagrees block entry hfind outcome
  · intro block completion
    exact fulfils_of_wait hagrees
  · intro block next later completion hsubmitted hlater
    exact wait_of_submitRead hagrees hsubmitted hlater
  · intro block data next later completion hsubmitted hlater
    exact wait_of_submitWrite hagrees hsubmitted hlater
  · intro block data
    exact written_of_writeBlock hagrees
  · intro block
    refine ⟨readBlock_ne_notPending hagrees, ?_⟩
    intro next last hsubmitted hpumped
    exact exists_of_pumped (find?_of_submit hsubmitted) hpumped

/-- A fresh session to which these frames come. -/
def receiving (frames : List Bytes) : Session Replay where
  client := .ofConfig {}
  channel := { inbound := frames.map fun frame => ⟨.frame frame, 0⟩ }
  time := {}

/-- A read of block 8 ignores an acknowledgement and takes the data that come next; a
write of block 9 takes its acknowledgement. -/
theorem outcomes_suit_read_and_write :
    let reader :=
      receiving [(Message.writeResult 8 0).encode, (Message.readResult 8 (.fill 7)).encode]
    let reading := (reader.submitRead Replay.channel 8).2
    let taken := reader.after Replay.channel [.submitRead 8, .pump 0, .pump 0]
    let writer := receiving [(Message.writeResult 9 0).encode]
    let writing := (writer.submitWrite Replay.channel 9 (.fill 1)).2
    Reachable Replay.channel reader ∧ Reachable Replay.channel taken ∧
    Reachable Replay.channel writer ∧
    (taken.client.pending.find? 8 = some ⟨.read, 0, some (.read (.fill 7))⟩ ∧
      (Completion.read (.fill 7)).Suits .read) ∧
    ((taken.wait Replay.channel 8).1 = .ok (.read (.fill 7)) ∧
      (∃ entry, taken.client.pending.find? 8 = some entry ∧
        (Completion.read (.fill 7)).Fulfils entry.operation) ∧
      ∃ data, Completion.read (.fill 7) = .read data) ∧
    (∃ entry, reading.client.pending.find? 8 = some entry ∧ entry.operation = .read) ∧
    (writer.writeBlock Replay.channel 9 (.fill 1)).1 = .ok () ∧
    (∃ next, writer.submitWrite Replay.channel 9 (.fill 1) = (.ok (), next) ∧
      (next.wait Replay.channel 9).1 = .ok .written) ∧
    ∀ completion, (writing.wait Replay.channel 9).1 = .ok completion → completion = .written := by
  intro reader reading taken writer writing
  have hreader : Reachable Replay.channel reader := ⟨{}, reader.channel, {}, [], rfl⟩
  have htaken : Reachable Replay.channel taken :=
    ⟨{}, reader.channel, {}, [.submitRead 8, .pump 0, .pump 0], rfl⟩
  have hwriter : Reachable Replay.channel writer := ⟨{}, writer.channel, {}, [], rfl⟩
  obtain ⟨_, _, hread, _, _, hflight⟩ := outcomes_suit hreader
  obtain ⟨hsuits, hwait, _⟩ := outcomes_suit htaken
  obtain ⟨_, _, _, hwrite, hwritten, _⟩ := outcomes_suit hwriter
  have hreading : reader.submitRead Replay.channel 8 = (.ok (), reading) := rfl
  have hwriting : writer.submitWrite Replay.channel 9 (.fill 1) = (.ok (), writing) := rfl
  have hfind : taken.client.pending.find? 8 = some ⟨.read, 0, some (.read (.fill 7))⟩ := by
    decide +kernel
  have hdata : (taken.wait Replay.channel 8).1 = .ok (.read (.fill 7)) := by
    rw [wait_of_settled hfind rfl]
    rfl
  have hpumped (session : Session Replay) :
      session.after Replay.channel [.submitRead 8, .pump 0, .pump 0] =
        (session.submitRead Replay.channel 8).2.after Replay.channel [.pump 0, .pump 0] := rfl
  -- The wait of the write makes one receive, which brings the acknowledgement.
  have hopen : writing.client.pending.find? 9 = some ⟨.write, 0, none⟩ := rfl
  have hsettled : (writing.pump Replay.channel 5000000).2.client.pending.find? 9 =
      some ⟨.write, 0, some .written⟩ := by
    decide +kernel
  have hacknowledged : (writing.wait Replay.channel 9).1 = .ok .written := by
    rw [wait_of_received hopen rfl (by decide) rfl]
    show ((writing.pump Replay.channel 5000000).2.wait Replay.channel 9).1 = .ok .written
    rw [wait_of_settled hsettled rfl]
    rfl
  have hdone : (writer.writeBlock Replay.channel 9 (.fill 1)).1 = .ok () := by
    rw [writeBlock_result hwriting, hacknowledged]
    rfl
  refine ⟨hreader, htaken, hwriter, ⟨hfind, hsuits 8 _ _ hfind rfl⟩,
    ⟨hdata, hwait 8 _ hdata, hread 8 reading [.pump 0, .pump 0] _ hreading ?_ ?_⟩,
    (hflight 8).2 reading reading hreading (.refl reading), hdone, hwritten 9 (.fill 1) hdone,
    fun completion => hwrite 9 (.fill 1) writing [] completion hwriting (List.forall_mem_nil _)⟩
  · simp [Call.request?]
  · rw [← hpumped reader]
    exact hdata

end Session
end BlockBridge

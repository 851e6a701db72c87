import BlockBridge.Client.Session
import BlockBridge.Proofs.Pending.Entries
import BlockBridge.Proofs.Request

/-!
# How the steps of a session can end

A submission, a receive and a wait each have a handful of endings.  Here every
ending is a constructor that says all about it: what was returned, what became
of the client, and what the channel did.  Whatever has to be shown of every
step is shown by cases on these, over any channel.

A wait is a number of receives and then one of four endings.  The receives are
what `Pumped` relates, so a property that every receive keeps holds when the
wait ends (`Session.Pumped.preserves`).

Main statements: `Session.submission`, `Session.reception` and
`Session.wait_ends`: the constructors leave no ending out.
-/

namespace BlockBridge

/-! ## The client's part -/

namespace Client

/-- A frame with a result goes by what the table makes of the result. -/
theorem accept_of_result {client : Client} {frame : Bytes} {message : Message}
    {answer : Operation × Completion} (hdecode : Message.decode frame = .ok message)
    (hanswer : message.outcome? = some answer) :
    (client.accept frame).1 =
      match client.pending.deliver message with
      | (.completed, pending) => { client with pending }
      | (.stale, pending) =>
        { client with
          pending
          stats := { client.stats with staleDropped := client.stats.staleDropped + 1 } } := by
  have hresult : message.kind.isRequest = false := Message.isRequest_of_outcome? hanswer
  rw [accept, hdecode]
  simp only [acceptMessage, hresult, Bool.false_eq_true, if_false]
  rcases client.pending.deliver message with ⟨_ | _, pending⟩
  · rfl
  · rfl

/-- A frame does not change an entry that is settled, nor make one. -/
theorem find?_accept {client : Client} {block : Address}
    (h : ∀ entry, client.pending.find? block = some entry → entry.outcome ≠ none) (frame : Bytes) :
    (client.accept frame).1.pending.find? block = client.pending.find? block := by
  unfold accept
  cases Message.decode frame with
  | error fault => rfl
  | ok message =>
    show (client.acceptMessage message).1.pending.find? block = _
    rw [pending_acceptMessage]
    rcases client.pending.deliver_cases message with
      hstale | ⟨entry, outcome, hfind, hopen, _, hcompleted⟩
    · rw [hstale]
    · have hother : message.block ≠ block := by
        rintro rfl
        exact h entry hfind hopen
      rw [hcompleted, Pending.Table.find?_settle]
      simp only [hother.symm, if_false, Option.map_id']

theorem pending_settle (client : Client) (block : Address) (operation : Operation)
    (outcome : Completion) (pending : Pending.Table) :
    (client.settle block operation outcome pending).2.1.pending = pending := by
  cases outcome <;> rfl

theorem timeout_settle (client : Client) (block : Address) (operation : Operation)
    (outcome : Completion) (pending : Pending.Table) :
    (client.settle block operation outcome pending).2.1.timeout = client.timeout := by
  cases outcome <;> rfl

end Client

namespace Session

variable {σ : Type}

/-! ## Submissions -/

/-- The session once it has given up what expired, which every submission does first. -/
def evicted (session : Session σ) : Session σ :=
  let (client, notes) := session.client.evict session.time.now
  { session with client }.note notes

/-- The endings of a submission. -/
inductive Submission (channel : Channel σ) (operation : Operation) (message : Message)
    (session : Session σ) : Except Fault Unit → Session σ → Prop where
  /-- The table does not take the request, and nothing is sent. -/
  | refused {fault : RequestFault}
      (hregister : session.evicted.client.pending.register message.block operation
        session.time.now = .error fault) :
      Submission channel operation message session (.error (.request fault)) session.evicted
  /-- The channel does not take the frame, and the new entry goes again. -/
  | unsent {pending : Pending.Table} {fault : ChannelFault} {state : σ} {time : Timeline}
      {notes : List Note}
      (hregister : session.evicted.client.pending.register message.block operation
        session.time.now = .ok pending)
      (hsend : channel.send message.encode session.channel session.evicted.time =
        (.error fault, state, time)) :
      Submission channel operation message session (.error (.channel fault))
        { client := { session.evicted.client with pending := pending.erase message.block }
          channel := state
          time := time.note Client.logTarget notes }
  /-- The frame is on its way. -/
  | sent {pending : Pending.Table} {state : σ} {time : Timeline} {notes : List Note}
      (hregister : session.evicted.client.pending.register message.block operation
        session.time.now = .ok pending)
      (hsend : channel.send message.encode session.channel session.evicted.time =
        (.ok (), state, time)) :
      Submission channel operation message session (.ok ())
        { client :=
            { session.evicted.client with
              pending
              stats :=
                { session.evicted.client.stats with
                  requestsSent := session.evicted.client.stats.requestsSent + 1 } }
          channel := state
          time := time.note Client.logTarget notes }

/-- There are no other endings of a submission. -/
theorem submission (channel : Channel σ) (operation : Operation) (message : Message)
    (session : Session σ) :
    Submission channel operation message session (session.submit channel operation message).1
      (session.submit channel operation message).2 := by
  unfold submit
  simp only
  split
  · rename_i fault hregister
    exact .refused hregister
  · rename_i pending hregister
    split
    · rename_i fault state time hsend
      exact .unsent hregister hsend
    · rename_i state time hsend
      exact .sent hregister hsend

/-! ## Receives -/

/-- The endings of a receive. -/
inductive Reception (channel : Channel σ) (timeout : Nat) (session : Session σ) :
    Except Fault Bool → Session σ → Prop where
  /-- The channel failed. -/
  | broken {fault : ChannelFault} {state : σ} {time : Timeline}
      (hreceive : channel.receive timeout session.channel session.time =
        (.error fault, state, time)) :
      Reception channel timeout session (.error (.channel fault))
        { session with channel := state, time }
  /-- Nothing came. -/
  | idle {state : σ} {time : Timeline}
      (hreceive : channel.receive timeout session.channel session.time = (.ok none, state, time)) :
      Reception channel timeout session (.ok false) { session with channel := state, time }
  /-- A frame came, and the client took it in. -/
  | frame {bytes : Bytes} {state : σ} {time : Timeline} {notes : List Note}
      (hreceive : channel.receive timeout session.channel session.time =
        (.ok (some bytes), state, time)) :
      Reception channel timeout session (.ok true)
        { client := (session.client.accept bytes).1
          channel := state
          time := time.note Client.logTarget notes }

/-- There are no other endings of a receive. -/
theorem reception (channel : Channel σ) (timeout : Nat) (session : Session σ) :
    Reception channel timeout session (session.pump channel timeout).1
      (session.pump channel timeout).2 := by
  unfold pump
  split
  · rename_i fault state time hreceive
    exact .broken hreceive
  · rename_i state time hreceive
    exact .idle hreceive
  · rename_i bytes state time hreceive
    exact .frame hreceive

/-- A receive fails because the channel does, and then leaves the client alone. -/
theorem pump_of_error {channel : Channel σ} {timeout : Nat} {session next : Session σ}
    {fault : Fault} (h : session.pump channel timeout = (.error fault, next)) :
    ∃ cause, fault = .channel cause ∧ next.client = session.client := by
  have hreception := session.reception channel timeout
  rw [h] at hreception
  cases hreception with
  | @broken cause => exact ⟨cause, rfl, rfl⟩

/-! ## Waits -/

/-- The receives that a wait for a block makes: the request is in flight, not
settled and not late, and the receive gets the time that is left. -/
inductive Pumped (channel : Channel σ) (block : Address) : Session σ → Session σ → Prop where
  | refl (session : Session σ) : Pumped channel block session session
  | head {session next last : Session σ} {entry : Pending.Entry} {received : Bool}
      (hfind : session.client.pending.find? block = some entry)
      (hopen : entry.outcome = none)
      (hearly : session.time.now - entry.issuedAt < session.client.timeout)
      (hpump : session.pump channel
        (session.client.timeout - (session.time.now - entry.issuedAt)) = (.ok received, next))
      (hrest : Pumped channel block next last) :
      Pumped channel block session last

/-- The endings of a wait that has nothing more to receive. -/
inductive Ending (channel : Channel σ) (block : Address) (last : Session σ) :
    Except Fault Completion → Session σ → Prop where
  /-- The result is here. -/
  | settled {entry : Pending.Entry} {outcome : Completion}
      (hfind : last.client.pending.find? block = some entry)
      (hsettled : entry.outcome = some outcome) :
      Ending channel block last (outcome.verdict block)
        ({ last with
            client := (last.client.settle block entry.operation outcome
              (last.client.pending.erase block)).2.1 }.note
          (last.client.settle block entry.operation outcome
            (last.client.pending.erase block)).2.2)
  /-- There is nothing to wait for. -/
  | absent (hfind : last.client.pending.find? block = none) :
      Ending channel block last (.error (.request (.notPending block))) last
  /-- The request has waited too long. -/
  | late {entry : Pending.Entry}
      (hfind : last.client.pending.find? block = some entry)
      (hopen : entry.outcome = none)
      (hlate : last.client.timeout ≤ last.time.now - entry.issuedAt) :
      Ending channel block last (.error (.timeout block))
        ({ last with
            client := (last.client.giveUp block (last.time.now - entry.issuedAt)).1 }.note
          (last.client.giveUp block (last.time.now - entry.issuedAt)).2)
  /-- The channel failed. -/
  | broken {entry : Pending.Entry} {fault : Fault} {next : Session σ}
      (hfind : last.client.pending.find? block = some entry)
      (hopen : entry.outcome = none)
      (hearly : last.time.now - entry.issuedAt < last.client.timeout)
      (hpump : last.pump channel
        (last.client.timeout - (last.time.now - entry.issuedAt)) = (.error fault, next)) :
      Ending channel block last (.error fault) (next.cancel block).2

/-! ### The steps of a wait, one equation each -/

theorem wait_of_settled {channel : Channel σ} {block : Address} {session : Session σ}
    {entry : Pending.Entry} {outcome : Completion}
    (hfind : session.client.pending.find? block = some entry)
    (hsettled : entry.outcome = some outcome) :
    session.wait channel block =
      (outcome.verdict block,
        ({ session with
            client := (session.client.settle block entry.operation outcome
              (session.client.pending.erase block)).2.1 }.note
          (session.client.settle block entry.operation outcome
            (session.client.pending.erase block)).2.2)) := by
  rw [wait, Pending.Table.take_of_settled hfind hsettled]
  cases outcome <;> rfl

theorem wait_of_absent {channel : Channel σ} {block : Address} {session : Session σ}
    (hfind : session.client.pending.find? block = none) :
    session.wait channel block = (.error (.request (.notPending block)), session) := by
  have hissued : session.client.pending.issuedAt block = none := by
    simp [Pending.Table.issuedAt, hfind]
  rw [wait, Pending.Table.take_of_absent hfind]
  simp only
  split
  · rfl
  · rename_i issued h
    exact absurd (hissued.symm.trans h) (by simp)

/-- What a wait does while its request is in flight: give up if it is late, and
otherwise receive and go on. -/
theorem wait_of_unsettled {channel : Channel σ} {block : Address} {session : Session σ}
    {entry : Pending.Entry} (hfind : session.client.pending.find? block = some entry)
    (hopen : entry.outcome = none) :
    session.wait channel block =
      if session.time.now - entry.issuedAt < session.client.timeout then
        match session.pump channel
            (session.client.timeout - (session.time.now - entry.issuedAt)) with
        | (.error fault, next) => (.error fault, (next.cancel block).2)
        | (.ok _, next) => next.wait channel block
      else
        (.error (.timeout block),
          ({ session with
              client :=
                (session.client.giveUp block (session.time.now - entry.issuedAt)).1 }.note
            (session.client.giveUp block (session.time.now - entry.issuedAt)).2)) := by
  have hissued : session.client.pending.issuedAt block = some entry.issuedAt := by
    simp [Pending.Table.issuedAt, hfind]
  rw [wait, Pending.Table.take_of_unsettled hfind hopen]
  simp only
  split
  · rename_i h
    exact absurd (hissued.symm.trans h) (by simp)
  · rename_i issued h
    obtain rfl : entry.issuedAt = issued := Option.some.inj (hissued.symm.trans h)
    split
    · split <;> rename_i hpump <;> simp only [hpump]
    · rfl

/-- A wait goes on after a receive. -/
theorem wait_of_received {channel : Channel σ} {block : Address} {session next : Session σ}
    {entry : Pending.Entry} {received : Bool}
    (hfind : session.client.pending.find? block = some entry) (hopen : entry.outcome = none)
    (hearly : session.time.now - entry.issuedAt < session.client.timeout)
    (hpump : session.pump channel
      (session.client.timeout - (session.time.now - entry.issuedAt)) = (.ok received, next)) :
    session.wait channel block = next.wait channel block := by
  rw [wait_of_unsettled hfind hopen, if_pos hearly, hpump]

/-- A wait makes some receives and then ends in one of the four ways. -/
theorem wait_ends (channel : Channel σ) (block : Address) (session : Session σ) :
    ∃ last, Pumped channel block session last ∧
      Ending channel block last (session.wait channel block).1
        (session.wait channel block).2 := by
  rcases hfind : session.client.pending.find? block with _ | entry
  · rw [wait_of_absent hfind]
    exact ⟨session, .refl session, .absent hfind⟩
  rcases houtcome : entry.outcome with _ | outcome
  · rw [wait_of_unsettled hfind houtcome]
    by_cases hearly : session.time.now - entry.issuedAt < session.client.timeout
    · rw [if_pos hearly]
      rcases hpump : session.pump channel
        (session.client.timeout - (session.time.now - entry.issuedAt)) with ⟨_ | received, next⟩
      · exact ⟨session, .refl session, .broken hfind houtcome hearly hpump⟩
      · -- The channel's promise bounds the receives, as in the definition.
        have hissued : session.client.pending.issuedAt block = some entry.issuedAt := by
          simp [Pending.Table.issuedAt, hfind]
        have hprogress : Prod.Lex (· < ·) (· < ·)
            (channel.backlog next.channel, next.timeLeft block)
            (channel.backlog session.channel, session.timeLeft block) :=
          pump_progress hissued hearly rfl hpump
        obtain ⟨last, hpumped, hending⟩ := wait_ends channel block next
        exact ⟨last, .head hfind houtcome hearly hpump hpumped, hending⟩
    · rw [if_neg hearly]
      exact ⟨session, .refl session, .late hfind houtcome (Nat.le_of_not_lt hearly)⟩
  · rw [wait_of_settled hfind houtcome]
    exact ⟨session, .refl session, .settled hfind houtcome⟩
termination_by (channel.backlog session.channel, session.timeLeft block)
decreasing_by exact hprogress

/-- What every receive of a wait keeps holds when the wait ends. -/
theorem Pumped.preserves {channel : Channel σ} {block : Address} {P : Session σ → Prop}
    (hkeep : ∀ {session next : Session σ} {timeout : Nat} {received : Bool},
      session.pump channel timeout = (.ok received, next) → P session → P next)
    {session last : Session σ} (hpumped : Pumped channel block session last)
    (hsession : P session) : P last := by
  induction hpumped with
  | refl => exact hsession
  | head _ _ _ hpump _ ih => exact ih (hkeep hpump hsession)

end Session
end BlockBridge

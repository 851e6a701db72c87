import BlockBridge.Proofs.Pending.Run
import BlockBridge.Proofs.Session.Call
import Mathlib.Logic.Relation

/-!
# The steps that calls are made of

To the table of requests in flight and to the channel only a few things ever happen: a
request is forgotten, a request is registered and sent, a send fails, a frame is taken
in, or nothing comes.  Whatever is called, in whatever order, is a number of such steps,
and time that passes.  So what has to be shown of every state that a session can get into
is shown of these few, clock included (`Session.Kept.after`, `Session.Kept.reachable`).

The steps are also there as a relation (`Session.Step`), for what is to be said of the
way from one state to another.

Which requests may be sent is a parameter of the steps, for a call sends no request but
its own.

Main statements: `Session.Kept.after`, `Session.steps_after`, and for what is said of
each request in flight `Session.each_of_steps`.
-/

namespace BlockBridge

/-! ## What a frame does to the table -/

/-- The outcome that a frame carries for a request of this operation on this block. -/
def Bytes.answer? (block : Address) (operation : Operation) (frame : Bytes) : Option Completion :=
  match Message.decode frame with
  | .ok message => message.answer? block operation
  | .error _ => none

/-- The table after a frame has been taken in. -/
def Pending.Table.accept (frame : Bytes) (table : Table) : Table :=
  match Message.decode frame with
  | .ok message => (table.deliver message).2
  | .error _ => table

theorem Client.pending_accept (frame : Bytes) (client : Client) :
    (client.accept frame).1.pending = client.pending.accept frame := by
  unfold Client.accept Pending.Table.accept
  cases Message.decode frame with
  | ok message => exact pending_acceptMessage message client
  | error fault => rfl

/-- A frame lets the request of each block hear what it carries for it. -/
theorem Pending.Table.find?_accept (frame : Bytes) (table : Table) (block : Address) :
    (table.accept frame).find? block =
      (table.find? block).map fun entry => entry.hear (frame.answer? block entry.operation) := by
  unfold accept Bytes.answer?
  cases Message.decode frame with
  | ok message => exact find?_deliver table message block
  | error fault => simp

/-- That this can be said of the request for each block. -/
def Pending.Table.Each (P : Address → Entry → Prop) (table : Table) : Prop :=
  ∀ block entry, table.find? block = some entry → P block entry

namespace Session

variable {σ : Type}

/-! ## What is kept -/

/-- That this can be said of the requests in flight, the channel and the clock. -/
def Holds (P : Pending.Table → σ → Nat → Prop) (session : Session σ) : Prop :=
  P session.client.pending session.channel session.time.now

/-- That what is said of them is kept by whatever happens to them, as long as no other
requests than these are sent. -/
structure Kept (channel : Channel σ) (allowed : Request → Prop)
    (P : Pending.Table → σ → Nat → Prop) : Prop where
  /-- The request for a block is forgotten. -/
  forget : ∀ {table state now} (block : Address),
    P table state now → P (table.erase block) state now
  /-- A request is in flight from the moment at which its frame is sent. -/
  sent : ∀ {table table' : Pending.Table} {state state' : σ} {time time' : Timeline}
    {request : Request}, allowed request →
    table.register request.block request.operation time.now = .ok table' →
    channel.send request.message.encode state time = (.ok (), state', time') →
    P table state time.now → P table' state' time'.now
  /-- The channel does not take a frame. -/
  unsent : ∀ {table : Pending.Table} {state state' : σ} {time time' : Timeline}
    {frame : Bytes} {fault : ChannelFault},
    channel.send frame state time = (.error fault, state', time') →
    P table state time.now → P table state' time'.now
  /-- A frame is taken in. -/
  frame : ∀ {table : Pending.Table} {state state' : σ} {time time' : Timeline}
    {timeout : Nat} {frame : Bytes},
    channel.receive timeout state time = (.ok (some frame), state', time') →
    P table state time.now → P (table.accept frame) state' time'.now
  /-- No frame comes. -/
  silent : ∀ {table : Pending.Table} {state state' : σ} {time time' : Timeline}
    {timeout : Nat} {result : Except ChannelFault (Option Bytes)},
    channel.receive timeout state time = (result, state', time') →
    (∀ frame, result ≠ .ok (some frame)) →
    P table state time.now → P table state' time'.now
  /-- Time passes. -/
  sleep : ∀ {table state now} (duration : Nat), P table state now →
    P table state (now + duration)

/-- The request that a call submits. -/
def Call.request? : Call → Option Request
  | .submitRead block | .readBlock block => some (.read block)
  | .submitWrite block data | .writeBlock block data => some (.write block data)
  | .writeBytes block bytes => (Block.ofBytes? bytes).map (.write block)
  | .wait _ | .pump _ | .cancel _ | .sleep _ => none

namespace Kept

variable {channel : Channel σ} {allowed : Request → Prop} {P : Pending.Table → σ → Nat → Prop}
  {session : Session σ} (h : Kept channel allowed P)
include h

/-! ### Submissions -/

theorem forgetAll (blocks : List Address) {table : Pending.Table} {state : σ} {now : Nat}
    (hbefore : P table state now) : P (blocks.foldl Pending.Table.erase table) state now := by
  induction blocks generalizing table with
  | nil => exact hbefore
  | cons block rest ih => exact ih (h.forget block hbefore)

theorem evicted (hbefore : session.Holds P) : session.evicted.Holds P :=
  h.forgetAll _ hbefore

/-- A submission forgets what has expired, and then registers and sends its request or
leaves the table as it is. -/
theorem submit {request : Request} (hallowed : allowed request) (hbefore : session.Holds P) :
    (session.submit channel request.operation request.message).2.Holds P := by
  have hsubmission := session.submission channel request.operation request.message
  have hevicted : session.evicted.Holds P := h.evicted hbefore
  generalize session.submit channel request.operation request.message = submitted at hsubmission ⊢
  rcases submitted with ⟨result, after⟩
  simp only at hsubmission ⊢
  cases hsubmission with
  | refused => exact hevicted
  | @unsent pending fault state time notes hregister hsend =>
    have hsame : pending.erase request.message.block = session.evicted.client.pending :=
      Pending.Table.erase_of_register hregister
    show P (pending.erase request.message.block) state time.now
    rw [hsame]
    exact h.unsent hsend hevicted
  | @sent pending state time notes hregister hsend =>
    -- Giving up what has expired took no time.
    have hregister : session.evicted.client.pending.register request.block request.operation
        session.evicted.time.now = .ok pending := request.block_message ▸ hregister
    show P pending state time.now
    exact h.sent hallowed hregister hsend hevicted

theorem submitRead {block : Address} (hallowed : allowed (.read block))
    (hbefore : session.Holds P) : (session.submitRead channel block).2.Holds P :=
  h.submit hallowed hbefore

theorem submitWrite {block : Address} {data : Block} (hallowed : allowed (.write block data))
    (hbefore : session.Holds P) : (session.submitWrite channel block data).2.Holds P := by
  have hnoted : (session.note (session.client.dump block data)).Holds P := hbefore
  exact h.submit hallowed hnoted

/-! ### Receives and waits -/

theorem pump (timeout : Nat) (hbefore : session.Holds P) :
    (session.pump channel timeout).2.Holds P := by
  have hreception := session.reception channel timeout
  generalize session.pump channel timeout = pumped at hreception ⊢
  rcases pumped with ⟨result, after⟩
  simp only at hreception ⊢
  cases hreception with
  | broken hreceive => exact h.silent hreceive nofun hbefore
  | idle hreceive => exact h.silent hreceive nofun hbefore
  | @frame bytes state time notes hreceive =>
    show P (session.client.accept bytes).1.pending state time.now
    rw [Client.pending_accept]
    exact h.frame hreceive hbefore

theorem pumped {block : Address} {last : Session σ} (hpumped : Pumped channel block session last)
    (hbefore : session.Holds P) : last.Holds P := by
  refine Pumped.preserves (P := (·.Holds P)) ?_ hpumped hbefore
  intro before next timeout received hpump hbefore
  have hnext : (before.pump channel timeout).2.Holds P := h.pump timeout hbefore
  rwa [hpump] at hnext

/-- A wait takes in frames, and at its end forgets the request or finds that there is
none. -/
theorem wait (block : Address) (hbefore : session.Holds P) :
    (session.wait channel block).2.Holds P := by
  obtain ⟨last, hpumped, hending⟩ := session.wait_ends channel block
  have hlast : last.Holds P := h.pumped hpumped hbefore
  generalize session.wait channel block = waited at hending ⊢
  rcases waited with ⟨result, after⟩
  simp only at hending ⊢
  cases hending with
  | @settled entry outcome =>
    show P (last.client.settle block entry.operation outcome
      (last.client.pending.erase block)).2.1.pending last.channel last.time.now
    rw [Client.pending_settle]
    exact h.forget block hlast
  | absent => exact hlast
  | late => exact h.forget block hlast
  | @broken entry fault next _ _ _ hpump =>
    have hnext : (last.pump channel
        (last.client.timeout - (last.time.now - entry.issuedAt))).2.Holds P := h.pump _ hlast
    rw [hpump] at hnext
    exact h.forget block hnext

theorem waitedIfSent (block : Address) {submitted : Except Fault Unit × Session σ}
    (hbefore : submitted.2.Holds P) : (waitedIfSent channel block submitted).Holds P := by
  rcases submitted with ⟨_ | ⟨⟩, session⟩
  · exact hbefore
  · exact h.wait block hbefore

/-! ### Calls and runs -/

/-- Writing a block is a submission, and a wait if that succeeds. -/
theorem writeBlock {block : Address} {data : Block} (hallowed : allowed (.write block data))
    (hbefore : session.Holds P) : (session.writeBlock channel block data).2.Holds P := by
  rw [writeBlock_session]
  exact h.waitedIfSent block (h.submitWrite hallowed hbefore)

/-- A call keeps what its steps keep; it sends no request but its own. -/
theorem call {call : Call} (hallowed : ∀ request, call.request? = some request → allowed request)
    (hbefore : session.Holds P) : (session.call channel call).2.Holds P := by
  cases call with
  | submitRead block => exact h.submitRead (hallowed _ rfl) hbefore
  | submitWrite block data => exact h.submitWrite (hallowed _ rfl) hbefore
  | readBlock block =>
    show (session.readBlock channel block).2.Holds P
    rw [readBlock_session]
    exact h.waitedIfSent block (h.submitRead (hallowed _ rfl) hbefore)
  | writeBlock block data => exact h.writeBlock (hallowed _ rfl) hbefore
  | writeBytes block bytes =>
    simp only [Call.request?] at hallowed
    simp only [Session.call, Session.writeBytes]
    cases hdata : Block.ofBytes? bytes with
    | none => exact hbefore
    | some data =>
      rw [hdata] at hallowed
      exact h.writeBlock (hallowed _ rfl) hbefore
  | wait block => exact h.wait block hbefore
  | pump timeout => exact h.pump timeout hbefore
  | cancel block => exact h.forget block hbefore
  | sleep duration => exact h.sleep duration hbefore

/-- So does a run, by induction on its calls. -/
theorem after {calls : List Call}
    (hallowed : ∀ call ∈ calls, ∀ request, call.request? = some request → allowed request)
    (hbefore : session.Holds P) : (session.after channel calls).Holds P := by
  induction calls generalizing session with
  | nil => exact hbefore
  | cons call rest ih =>
    exact ih (fun later hmem => hallowed later (List.mem_cons_of_mem _ hmem))
      (h.call (hallowed call List.mem_cons_self) hbefore)

end Kept

/-! ## Steps -/

/-- What the steps of a session change: the requests in flight, and the channel. -/
def core (session : Session σ) : Pending.Table × σ :=
  (session.client.pending, session.channel)

/-- One step of a session that may send these requests. -/
inductive Step (channel : Channel σ) (allowed : Request → Prop) :
    Pending.Table × σ → Pending.Table × σ → Prop
  /-- The request for a block is forgotten. -/
  | forget (table : Pending.Table) (state : σ) (block : Address) :
      Step channel allowed (table, state) (table.erase block, state)
  /-- A request is in flight. -/
  | sent {table table' : Pending.Table} {state state' : σ} {time time' : Timeline} {now : Nat}
      {request : Request} (hallowed : allowed request)
      (hregister : table.register request.block request.operation now = .ok table')
      (hsend : channel.send request.message.encode state time = (.ok (), state', time')) :
      Step channel allowed (table, state) (table', state')
  /-- The channel does not take a frame. -/
  | unsent {table : Pending.Table} {state state' : σ} {time time' : Timeline} {frame : Bytes}
      {fault : ChannelFault}
      (hsend : channel.send frame state time = (.error fault, state', time')) :
      Step channel allowed (table, state) (table, state')
  /-- A frame is taken in. -/
  | frame {table : Pending.Table} {state state' : σ} {time time' : Timeline} {timeout : Nat}
      {frame : Bytes}
      (hreceive : channel.receive timeout state time = (.ok (some frame), state', time')) :
      Step channel allowed (table, state) (table.accept frame, state')
  /-- No frame comes. -/
  | silent {table : Pending.Table} {state state' : σ} {time time' : Timeline} {timeout : Nat}
      {result : Except ChannelFault (Option Bytes)}
      (hreceive : channel.receive timeout state time = (result, state', time'))
      (hnone : ∀ frame, result ≠ .ok (some frame)) :
      Step channel allowed (table, state) (table, state')

/-- Any number of steps. -/
def Steps (channel : Channel σ) (allowed : Request → Prop) :
    Pending.Table × σ → Pending.Table × σ → Prop :=
  Relation.ReflTransGen (Step channel allowed)

/-- What every step keeps holds after any number of them. -/
theorem keeps_of_steps {channel : Channel σ} {allowed : Request → Prop}
    {P : Pending.Table × σ → Prop}
    (hstep : ∀ {before after}, Step channel allowed before after → P before → P after)
    {before after : Pending.Table × σ} (hsteps : Steps channel allowed before after)
    (hbefore : P before) : P after := by
  induction hsteps with
  | refl => exact hbefore
  | tail _ hlast ih => exact hstep hlast ih

/-- What can be said of every request that has just been registered, and not less once
it has heard a frame, can always be said of every request. -/
theorem each_of_steps {channel : Channel σ} {allowed : Request → Prop}
    {P : Address → Pending.Entry → Prop}
    (hfresh : ∀ request now, allowed request →
      P request.block { operation := request.operation, issuedAt := now })
    (hhear : ∀ (block : Address) (entry : Pending.Entry) (frame : Bytes), P block entry →
      P block (entry.hear (frame.answer? block entry.operation)))
    {before after : Pending.Table × σ} (hsteps : Steps channel allowed before after)
    (hbefore : before.1.Each P) : after.1.Each P := by
  refine keeps_of_steps (P := (·.1.Each P)) ?_ hsteps hbefore
  intro before after hstep hbefore block entry hfind
  cases hstep with
  | forget table state about =>
    rw [Pending.Table.find?_erase] at hfind
    split at hfind
    · cases hfind
    · exact hbefore block entry hfind
  | @sent table table' state state' time time' now request hallowed hregister hsend =>
    rw [Pending.Table.find?_of_register hregister] at hfind
    split at hfind
    · rename_i hblock
      obtain rfl := Option.some.inj hfind
      exact hblock ▸ hfresh request now hallowed
    · exact hbefore block entry hfind
  | unsent => exact hbefore block entry hfind
  | @frame table state state' time time' timeout frame hreceive =>
    rw [Pending.Table.find?_accept] at hfind
    obtain ⟨earlier, hearlier, rfl⟩ := Option.map_eq_some_iff.mp hfind
    exact hhear block earlier frame (hbefore block earlier hearlier)
  | silent => exact hbefore block entry hfind

section Calls

variable {channel : Channel σ} {allowed : Request → Prop}

/-! ## Calls as steps -/

/-- What has been reached by steps is kept by every further one. -/
theorem kept_steps (channel : Channel σ) (allowed : Request → Prop) (start : Pending.Table × σ) :
    Kept channel allowed fun table state _ => Steps channel allowed start (table, state) where
  forget block hbefore := hbefore.tail (.forget _ _ block)
  sent hallowed hregister hsend hbefore := hbefore.tail (.sent hallowed hregister hsend)
  unsent hsend hbefore := hbefore.tail (.unsent hsend)
  frame hreceive hbefore := hbefore.tail (.frame hreceive)
  silent hreceive hnone hbefore := hbefore.tail (.silent hreceive hnone)
  sleep _ hbefore := hbefore

theorem steps_submitRead (session : Session σ) {block : Address}
    (hallowed : allowed (.read block)) :
    Steps channel allowed session.core (session.submitRead channel block).2.core :=
  (kept_steps channel allowed session.core).submitRead hallowed .refl

theorem steps_submitWrite (session : Session σ) {block : Address} {data : Block}
    (hallowed : allowed (.write block data)) :
    Steps channel allowed session.core (session.submitWrite channel block data).2.core :=
  (kept_steps channel allowed session.core).submitWrite hallowed .refl

theorem steps_pumped (allowed : Request → Prop) {block : Address} {session last : Session σ}
    (hpumped : Pumped channel block session last) :
    Steps channel allowed session.core last.core :=
  (kept_steps channel allowed session.core).pumped hpumped .refl

/-- A run is a number of steps, in which no requests are sent but those of its calls. -/
theorem steps_after {calls : List Call}
    (hallowed : ∀ call ∈ calls, ∀ request, call.request? = some request → allowed request)
    (session : Session σ) :
    Steps channel allowed session.core (session.after channel calls).core :=
  (kept_steps channel allowed session.core).after hallowed .refl

end Calls

/-! ## Submissions and their requests -/

variable {channel : Channel σ}

/-- A request that was sent is in flight, with no outcome yet. -/
theorem find?_of_submit {operation : Operation} {message : Message} {session next : Session σ}
    (h : session.submit channel operation message = (.ok (), next)) :
    next.client.pending.find? message.block =
      some { operation, issuedAt := session.time.now } := by
  have hsubmission := session.submission channel operation message
  rw [h] at hsubmission
  cases hsubmission with
  | sent hregister => rw [Pending.Table.find?_of_register hregister, if_pos rfl]

/-- A submission fails because the table does not take the request, for one of two
reasons, or the channel does not take its frame. -/
theorem fault_of_submit {operation : Operation} {message : Message} {session next : Session σ}
    {fault : Fault} (h : session.submit channel operation message = (.error fault, next)) :
    fault = .request (.addressBusy message.block) ∨ fault = .request .tableFull ∨
      ∃ cause, fault = .channel cause := by
  have hsubmission := session.submission channel operation message
  rw [h] at hsubmission
  cases hsubmission with
  | refused hregister =>
    rcases Pending.Table.fault_of_register hregister with rfl | rfl
    · exact .inl rfl
    · exact .inr (.inl rfl)
  | @unsent _ cause => exact .inr (.inr ⟨cause, rfl⟩)

/-! ## Requests that are waited for -/

/-- A receive removes no request and changes no operation. -/
theorem operation_pump (channel : Channel σ) (session : Session σ) (timeout : Nat)
    (block : Address) :
    ((session.pump channel timeout).2.client.pending.find? block).map Pending.Entry.operation =
      (session.client.pending.find? block).map Pending.Entry.operation := by
  have hreception := session.reception channel timeout
  generalize session.pump channel timeout = pumped at hreception ⊢
  rcases pumped with ⟨result, after⟩
  simp only at hreception ⊢
  cases hreception with
  | broken => rfl
  | idle => rfl
  | @frame bytes =>
    simp only
    rw [Client.pending_accept, Pending.Table.find?_accept, Option.map_map]
    rfl

theorem operation_of_pumped {about : Address} {session last : Session σ}
    (hpumped : Pumped channel about session last) (block : Address) :
    (last.client.pending.find? block).map Pending.Entry.operation =
      (session.client.pending.find? block).map Pending.Entry.operation := by
  refine Pumped.preserves (P := fun last : Session σ =>
    (last.client.pending.find? block).map Pending.Entry.operation =
      (session.client.pending.find? block).map Pending.Entry.operation) ?_ hpumped rfl
  intro before next timeout received hpump hbefore
  have hnext := before.operation_pump channel timeout block
  rw [hpump] at hnext
  exact hnext.trans hbefore

/-- What is in flight is still in flight, for the same operation, whatever a wait has
received. -/
theorem exists_of_pumped {about block : Address} {session last : Session σ}
    {entry : Pending.Entry} (hfind : session.client.pending.find? block = some entry)
    (hpumped : Pumped channel about session last) :
    ∃ found, last.client.pending.find? block = some found ∧
      found.operation = entry.operation := by
  have hoperation := operation_of_pumped hpumped block
  rw [hfind] at hoperation
  exact Option.map_eq_some_iff.mp hoperation

/-- And nothing else is. -/
theorem contains_of_pumped {about : Address} {session last : Session σ}
    (hpumped : Pumped channel about session last) (block : Address) :
    last.client.pending.contains block = session.client.pending.contains block := by
  have hoperation := operation_of_pumped hpumped block
  rw [Pending.Table.contains, Pending.Table.contains, ← Option.isSome_map, hoperation,
    Option.isSome_map]

/-! ## Reachable sessions -/

/-- That a fresh client gets into this state by some calls, over a channel in any state
and whatever happens on it. -/
def Reachable (channel : Channel σ) (session : Session σ) : Prop :=
  ∃ config state time calls,
    session = after channel calls { client := .ofConfig config, channel := state, time }

/-- Then it gets there by steps from an empty table. -/
theorem Reachable.exists_steps {channel : Channel σ} {session : Session σ}
    (h : Reachable channel session) :
    ∃ limit state, Steps channel (fun _ => True) (.empty limit, state) session.core := by
  obtain ⟨config, state, time, calls, rfl⟩ := h
  let fresh : Session σ := { client := .ofConfig config, channel := state, time }
  exact ⟨config.maxInFlight.toNat, state, fresh.steps_after fun _ _ _ _ => trivial⟩

/-- What holds of every empty table and is kept holds in every reachable state. -/
theorem Kept.reachable {channel : Channel σ} {P : Pending.Table → σ → Nat → Prop}
    (hkept : Kept channel (fun _ => True) P)
    (hempty : ∀ limit state now, P (.empty limit) state now) {session : Session σ}
    (h : Reachable channel session) : session.Holds P := by
  obtain ⟨config, state, time, calls, rfl⟩ := h
  exact hkept.after (fun _ _ _ _ => trivial) (hempty config.maxInFlight.toNat state time.now)

end Session
end BlockBridge

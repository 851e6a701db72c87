import BlockBridge.Proofs.Message.RoundTrip
import BlockBridge.Proofs.Session.Steps
import Mathlib.Data.List.Induction

/-!
# What the log of a channel tells

A logged channel writes down what goes over it, in order: the frames that it accepted and
those that it handed out.  Otherwise it does the same as the channel that it logs
(`Channel.send_logged`, `Channel.receive_logged`).

For each block the log tells the last request about it that was sent, and what came since.
That is enough to tell what the client knows of a request that is in flight: the request
is the last one about its block, and its outcome is the first that a frame since then
carried for it.

Main statement: `Session.Reachable.told`.
-/

namespace BlockBridge

/-! ## Logged channels -/

/-- A frame that went over a channel, and in which direction. -/
inductive Passage where
  | sent (frame : Bytes)
  | received (frame : Bytes)
  deriving DecidableEq

/-- A channel's state and what went over it, oldest first. -/
structure Logged (σ : Type) where
  state : σ
  log : List Passage := []

namespace Channel

variable {σ : Type}

/-- What a send adds to the log. -/
def sentPassage (frame : Bytes) : Except ChannelFault Unit → List Passage
  | .ok () => [.sent frame]
  | .error _ => []

/-- What a receive adds to the log. -/
def receivedPassage : Except ChannelFault (Option Bytes) → List Passage
  | .ok (some frame) => [.received frame]
  | .ok none | .error _ => []

/-- A channel that does as another one does and logs it. -/
def logged (channel : Channel σ) : Channel (Logged σ) where
  send frame link time :=
    let (result, state, time) := channel.send frame link.state time
    (result, { state, log := link.log ++ sentPassage frame result }, time)
  receive timeout link time :=
    let (result, state, time) := channel.receive timeout link.state time
    (result, { state, log := link.log ++ receivedPassage result }, time)
  backlog link := channel.backlog link.state
  backlog_lt h := by
    simp only [Prod.mk.injEq] at h
    obtain ⟨hresult, rfl, rfl⟩ := h
    exact channel.backlog_lt (Prod.ext hresult rfl)
  idle h := by
    simp only [Prod.mk.injEq] at h
    obtain ⟨hresult, rfl, rfl⟩ := h
    exact channel.idle (Prod.ext hresult rfl)

/-- Logging changes neither the outcome of a send nor the state or the clock. -/
theorem send_logged (channel : Channel σ) (frame : Bytes) (link : Logged σ) (time : Timeline) :
    channel.logged.send frame link time =
      ((channel.send frame link.state time).1,
        { state := (channel.send frame link.state time).2.1
          log := link.log ++ sentPassage frame (channel.send frame link.state time).1 },
        (channel.send frame link.state time).2.2) := rfl

/-- Logging changes neither the outcome of a receive nor the state or the clock. -/
theorem receive_logged (channel : Channel σ) (timeout : Nat) (link : Logged σ)
    (time : Timeline) :
    channel.logged.receive timeout link time =
      ((channel.receive timeout link.state time).1,
        { state := (channel.receive timeout link.state time).2.1
          log := link.log ++ receivedPassage (channel.receive timeout link.state time).1 },
        (channel.receive timeout link.state time).2.2) := rfl

theorem log_send {channel : Channel σ} {frame : Bytes} {link link' : Logged σ}
    {time time' : Timeline} {result : Except ChannelFault Unit}
    (h : channel.logged.send frame link time = (result, link', time')) :
    link'.log = link.log ++ sentPassage frame result := by
  rw [send_logged, Prod.mk.injEq, Prod.mk.injEq] at h
  obtain ⟨rfl, rfl, _⟩ := h
  rfl

theorem log_receive {channel : Channel σ} {timeout : Nat} {link link' : Logged σ}
    {time time' : Timeline} {result : Except ChannelFault (Option Bytes)}
    (h : channel.logged.receive timeout link time = (result, link', time')) :
    link'.log = link.log ++ receivedPassage result := by
  rw [receive_logged, Prod.mk.injEq, Prod.mk.injEq] at h
  obtain ⟨rfl, rfl, _⟩ := h
  rfl

end Channel

/-! ## Reading a log -/

/-- The request that a frame carries. -/
def Request.ofFrame? (frame : Bytes) : Option Request :=
  match Message.decode frame with
  | .ok (.readRequest block) => some (.read block)
  | .ok (.writeRequest block data) => some (.write block data)
  | .ok (.readResult ..) | .ok (.readFailed ..) | .ok (.writeResult ..) | .error _ => none

@[simp]
theorem Request.ofFrame?_encode (request : Request) :
    ofFrame? request.message.encode = some request := by
  rw [ofFrame?, Message.decode_encode]
  cases request <;> rfl

namespace Passage

/-- A request and the frames that came since it was sent, after one more passage.  A
request about the block takes the place of an earlier one. -/
def follow (block : Address) (found : Option (Request × List Bytes)) :
    Passage → Option (Request × List Bytes)
  | sent frame =>
    match Request.ofFrame? frame with
    | some request => if request.block = block then some (request, []) else found
    | none => found
  | received frame => found.map fun (request, since) => (request, since ++ [frame])

/-- The last request about a block that was sent, and the frames that came since. -/
def latest? (block : Address) (log : List Passage) : Option (Request × List Bytes) :=
  log.foldl (follow block) none

theorem latest?_concat (block : Address) (log : List Passage) (passage : Passage) :
    latest? block (log ++ [passage]) = follow block (latest? block log) passage :=
  List.foldl_append

/-- The request that a log tells is about the block. -/
theorem block_of_latest? {block : Address} {log : List Passage} {request : Request}
    {since : List Bytes} (h : latest? block log = some (request, since)) :
    request.block = block := by
  induction log using List.reverseRecOn generalizing request since with
  | nil => cases h
  | append_singleton log passage ih =>
    rw [latest?_concat] at h
    cases passage with
    | sent frame =>
      simp only [follow] at h
      split at h
      · split at h
        · rename_i hblock
          obtain ⟨rfl, _⟩ := Prod.mk.inj (Option.some.inj h)
          exact hblock
        · exact ih h
      · exact ih h
    | received frame =>
      obtain ⟨⟨earlier, before⟩, hearlier, heq⟩ := Option.map_eq_some_iff.mp h
      obtain ⟨rfl, _⟩ := Prod.mk.inj heq
      exact ih hearlier

end Passage

/-! ## What the client knows is in the log -/

/-- That the requests in flight are the last ones about their blocks, and the outcome of
each is the first that a frame since then carried for it. -/
def Pending.Table.Told (log : List Passage) (table : Table) : Prop :=
  table.Each fun block entry => ∃ request since,
    Passage.latest? block log = some (request, since) ∧
      entry.operation = request.operation ∧
      entry.outcome = since.findSome? (Bytes.answer? block request.operation)

/-- So the log tells whether a request in flight has an outcome, and which. -/
theorem Pending.Table.Told.outcome_eq_iff {log : List Passage} {table : Table}
    (h : table.Told log) {block : Address} {entry : Entry}
    (hfind : table.find? block = some entry) {outcome : Completion} :
    entry.outcome = some outcome ↔
      ∃ request since, Passage.latest? block log = some (request, since) ∧
        since.findSome? (Bytes.answer? block request.operation) = some outcome := by
  obtain ⟨request, since, hlatest, _, houtcome⟩ := h block entry hfind
  rw [hlatest, houtcome]
  constructor
  · intro hfirst
    exact ⟨request, since, rfl, hfirst⟩
  · rintro ⟨_, _, ⟨⟩, hfirst⟩
    exact hfirst

namespace Session

variable {σ : Type} {channel : Channel σ}

/-- Every step over a logged channel leaves it so. -/
theorem told_of_step {allowed : Request → Prop} {before after : Pending.Table × Logged σ}
    (hstep : Step channel.logged allowed before after) (hbefore : before.1.Told before.2.log) :
    after.1.Told after.2.log := by
  intro block entry hfind
  cases hstep with
  | forget table state about =>
    rw [Pending.Table.find?_erase] at hfind
    split at hfind
    · cases hfind
    · exact hbefore block entry hfind
  | @sent table table' state state' time time' now request _ hregister hsend =>
    rw [Channel.log_send hsend, Channel.sentPassage, Passage.latest?_concat, Passage.follow,
      Request.ofFrame?_encode]
    rw [Pending.Table.find?_of_register hregister] at hfind
    simp only
    split at hfind
    · rename_i hblock
      obtain rfl := Option.some.inj hfind
      rw [if_pos hblock.symm]
      exact ⟨request, [], rfl, rfl, rfl⟩
    · rename_i hblock
      rw [if_neg (Ne.symm hblock)]
      exact hbefore block entry hfind
  | @unsent table state state' time time' frame fault hsend =>
    rw [Channel.log_send hsend, Channel.sentPassage, List.append_nil]
    exact hbefore block entry hfind
  | @frame table state state' time time' timeout frame hreceive =>
    rw [Channel.log_receive hreceive, Channel.receivedPassage, Passage.latest?_concat,
      Passage.follow]
    rw [Pending.Table.find?_accept] at hfind
    obtain ⟨earlier, hearlier, rfl⟩ := Option.map_eq_some_iff.mp hfind
    obtain ⟨request, since, hlatest, hoperation, houtcome⟩ := hbefore block earlier hearlier
    refine ⟨request, since ++ [frame], by rw [hlatest]; rfl, hoperation, ?_⟩
    show earlier.outcome.or _ = _
    rw [List.findSome?_append, houtcome, hoperation, List.findSome?_singleton]
  | @silent table state state' time time' timeout result hreceive hnone =>
    have hadded : Channel.receivedPassage result = [] := by
      rcases result with _ | _ | frame
      · rfl
      · rfl
      · exact absurd rfl (hnone frame)
    rw [Channel.log_receive hreceive, hadded, List.append_nil]
    exact hbefore block entry hfind

theorem told_of_steps {allowed : Request → Prop} {before after : Pending.Table × Logged σ}
    (hsteps : Steps channel.logged allowed before after) (hbefore : before.1.Told before.2.log) :
    after.1.Told after.2.log :=
  keeps_of_steps (P := fun core => core.1.Told core.2.log) told_of_step hsteps hbefore

/-- When a wait ends, the log is as its last receive left it. -/
theorem wait_ends_logged (channel : Channel σ) (block : Address) (session : Session (Logged σ)) :
    ∃ last, Pumped channel.logged block session last ∧
      Ending channel.logged block last (session.wait channel.logged block).1
        (session.wait channel.logged block).2 ∧
      (session.wait channel.logged block).2.channel.log = last.channel.log := by
  obtain ⟨last, hpumped, hending⟩ := session.wait_ends channel.logged block
  refine ⟨last, hpumped, hending, ?_⟩
  generalize session.wait channel.logged block = waited at hending ⊢
  rcases waited with ⟨result, after⟩
  simp only at hending ⊢
  cases hending with
  | settled | absent | late => rfl
  | @broken entry fault next _ _ _ hpump =>
    have hreception := last.reception channel.logged
      (last.client.timeout - (last.time.now - entry.issuedAt))
    rw [hpump] at hreception
    cases hreception with
    | broken hreceive => exact (Channel.log_receive hreceive).trans (List.append_nil _)

/-- What a client knows of its requests is in the log, whatever was called. -/
theorem Reachable.told {session : Session (Logged σ)} (h : Reachable channel.logged session) :
    session.client.pending.Told session.channel.log := by
  obtain ⟨limit, state, hsteps⟩ := h.exists_steps
  exact told_of_steps hsteps fun _ _ => nofun

end Session
end BlockBridge

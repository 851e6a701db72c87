import BlockBridge.Proofs.Bridge.Carries
import BlockBridge.Proofs.Pending.Entries

/-!
# Any run, move by move

A run may abandon requests in any way: cancel them, wait for them until they
are late, or let a later submission evict them.  What becomes of the table and
of what is on its way is still made of a few kinds of moves.  Every action is a
number of these (`Bridge.act_moves`), and so is every run (`Bridge.play_moves`);
what is shown for each move holds for all of them.
-/

namespace BlockBridge
namespace Bridge

variable {δ ε : Type}

/-- What there is to a bridge when it comes to telling results apart. -/
structure View where
  traffic : Traffic
  pending : Pending.Table
  /-- How many replies were lost. -/
  lost : Nat

/-- A bridge with this traffic, as a view. -/
def view (traffic : Traffic) (bridge : Bridge δ) : View :=
  ⟨traffic, bridge.client.pending, Loopback.overflows .rt bridge.time⟩

/-- The kinds of moves, with the requests that each accepts. -/
inductive Move (kind : Device δ ε) (start : δ) : List Request → View → View → Prop
  /-- The server had some turns. -/
  | serve {traffic after : Traffic} {time time' : Timeline} (pending : Pending.Table)
      (hserves : Traffic.Serves kind start traffic after time time') :
      Move kind start [] ⟨traffic, pending, Loopback.overflows .rt time⟩
        ⟨after, pending, Loopback.overflows .rt time'⟩
  /-- The first reply settled the request that waited for one like it. -/
  | settle {traffic : Traffic} {pending : Pending.Table} {lost : Nat} {exchange : Exchange}
      {rest : List Exchange} {entry : Pending.Entry}
      (hreplied : traffic.replied = exchange :: rest)
      (hserved : exchange.number < traffic.served.length)
      (hfind : pending.find? exchange.request.block = some entry)
      (hawaits : entry.awaits exchange.request.operation = true) :
      Move kind start [] ⟨traffic, pending, lost⟩
        ⟨{ traffic with replied := rest },
          pending.settle exchange.request.block exchange.ending, lost⟩
  /-- The first reply was stale. -/
  | discard {traffic : Traffic} {pending : Pending.Table} {lost : Nat} {exchange : Exchange}
      {rest : List Exchange} (hreplied : traffic.replied = exchange :: rest)
      (hdeaf : ∀ entry, pending.find? exchange.request.block = some entry →
        entry.awaits exchange.request.operation = false) :
      Move kind start [] ⟨traffic, pending, lost⟩ ⟨{ traffic with replied := rest }, pending, lost⟩
  /-- A request was accepted. -/
  | accept {traffic : Traffic} {pending pending' : Pending.Table} {lost now : Nat}
      {request : Request}
      (hregister : pending.register request.block request.operation now = .ok pending') :
      Move kind start [request] ⟨traffic, pending, lost⟩ ⟨traffic.push request, pending', lost⟩
  /-- The request for a block was forgotten. -/
  | forget {traffic : Traffic} {pending : Pending.Table} {lost : Nat} (block : Address) :
      Move kind start [] ⟨traffic, pending, lost⟩ ⟨traffic, pending.erase block, lost⟩

/-- Any number of moves, with the requests that were accepted, oldest first. -/
inductive Moves (kind : Device δ ε) (start : δ) : List Request → View → View → Prop
  | refl (view : View) : Moves kind start [] view view
  | tail {requests more : List Request} {first second third : View}
      (hmoves : Moves kind start requests first second)
      (hmove : Move kind start more second third) :
      Moves kind start (requests ++ more) first third

variable {kind : Device δ ε} {start : δ}

theorem Move.moves {requests : List Request} {first second : View}
    (h : Move kind start requests first second) : Moves kind start requests first second :=
  .tail (.refl first) h

theorem Moves.trans {requests more : List Request} {first second third : View}
    (h : Moves kind start requests first second) (h' : Moves kind start more second third) :
    Moves kind start (requests ++ more) first third := by
  induction h' with
  | refl =>
    rw [List.append_nil]
    exact h
  | tail _ hmove ih =>
    rw [← List.append_assoc]
    exact .tail (ih h) hmove

/-- What is sent is what is accepted. -/
theorem Moves.requests_eq {requests : List Request} {first last : View}
    (h : Moves kind start requests first last) :
    last.traffic.requests = first.traffic.requests ++ requests := by
  induction h with
  | refl => exact (List.append_nil _).symm
  | tail _ hmove ih =>
    rw [← List.append_assoc, ← ih]
    cases hmove with
    | serve _ hserves =>
      rw [List.append_nil]
      exact hserves.requests
    | settle | discard | forget => exact (List.append_nil _).symm
    | accept => exact Traffic.requests_push ..

theorem Moves.forget_all (traffic : Traffic) (lost : Nat) (blocks : List Address)
    (pending : Pending.Table) :
    Moves kind start [] ⟨traffic, pending, lost⟩
      ⟨traffic, blocks.foldl Pending.Table.erase pending, lost⟩ := by
  induction blocks generalizing pending with
  | nil => exact .refl _
  | cons block blocks ih => exact (Move.forget block).moves.trans (ih (pending.erase block))

/-! ## Every action as moves -/

variable {traffic : Traffic} {bridge : Bridge δ}

theorem pump_moves (h : Attended.Carries kind start traffic bridge.channel) (timeout : Nat) :
    ∃ after received next,
      bridge.pump (Attended.channel kind) timeout = (.ok received, next) ∧
      Attended.Carries kind start after next.channel ∧
      Moves kind start [] (view traffic bridge) (view after next) := by
  obtain ⟨after, received, next, hpump, hserves, hcame⟩ := pump_of_carries h timeout
  have hserve := (Move.serve bridge.client.pending hserves).moves
  rcases hcame with ⟨hclient, hcarries⟩ |
    ⟨exchange, rest, frame, hreplied, hframe, hserved, hclient, hcarries⟩
  · refine ⟨after, received, next, hpump, hcarries, ?_⟩
    rw [view, view, hclient]
    exact hserve
  · refine ⟨{ after with replied := rest }, received, next, hpump, hcarries, ?_⟩
    rw [view, view, hclient]
    rcases Client.accept_of_reportedBy hframe bridge.client with
      ⟨entry, hfind, hawaits, haccept⟩ | ⟨hdeaf, haccept⟩
    · rw [haccept]
      exact hserve.trans (Move.settle hreplied hserved hfind hawaits).moves
    · rw [haccept]
      exact hserve.trans (Move.discard hreplied hdeaf).moves

/-- A submission gives up what is late, and then accepts the request or not. -/
theorem submit_moves (h : Attended.Carries kind start traffic bridge.channel)
    (request : Request) :
    ∃ result next, bridge.submit kind request = (result, next) ∧
      ∃ after, Attended.Carries kind start after next.channel ∧
        Moves kind start
          (match result with
          | .ok () => [request]
          | .error _ => [])
          (view traffic bridge) (view after next) ∧
        (result = .ok () → after = traffic.push request ∧
          next.client.pending.find? request.block =
            some { operation := request.operation, issuedAt := bridge.time.now } ∧
          Loopback.overflows .rt next.time = Loopback.overflows .rt bridge.time) := by
  obtain ⟨notes, hsubmit⟩ := submit_eq kind request bridge
  have hsubmission := (bridge.note notes).submission (Attended.channel kind) request.operation
    request.message
  rw [← hsubmit] at hsubmission
  rcases hsubmitted : bridge.submit kind request with ⟨result, next⟩
  rw [hsubmitted] at hsubmission
  have hlost : Loopback.overflows .rt (Session.evicted (bridge.note notes)).time =
      Loopback.overflows .rt bridge.time := by
    show Loopback.overflows .rt ((bridge.time.note Client.logTarget notes).note
      Client.logTarget _) = _
    rw [Loopback.overflows_note_client, Loopback.overflows_note_client]
  have hevicted : Moves kind start [] (view traffic bridge)
      (view traffic (Session.evicted (bridge.note notes))) := by
    rw [view, view, hlost]
    exact Moves.forget_all traffic _ _ _
  cases hsubmission with
  | refused hregister => exact ⟨_, _, rfl, traffic, h, hevicted, nofun⟩
  | @unsent pending fault state time said hregister hsend =>
    obtain ⟨_, rfl⟩ := h.of_send_error hsend
    refine ⟨_, _, rfl, traffic, h, ?_, nofun⟩
    -- The entry comes and goes, and the loss is not the server's.
    have hview : view traffic
        { client := { (Session.evicted (bridge.note notes)).client with
            pending := pending.erase request.message.block }
          channel := bridge.channel
          time := time.note Client.logTarget said } =
        view traffic (Session.evicted (bridge.note notes)) := by
      rw [view, view, Pending.Table.erase_of_register hregister,
        Loopback.overflows_note_client, Attended.overflows_rt_of_send hsend]
    exact hview ▸ hevicted
  | @sent pending state time said hregister hsend =>
    obtain ⟨hcarries, rfl⟩ := h.of_send_ok hsend
    rw [request.block_message] at hregister
    refine ⟨_, _, rfl, traffic.push request, hcarries, ?_, ?_⟩
    · have haccepted := hevicted.trans (Move.accept hregister).moves
      simp only [view, Loopback.overflows_note_client] at haccepted ⊢
      exact haccepted
    · intro _
      refine ⟨rfl, ?_, (Loopback.overflows_note_client .rt _ _).trans hlost⟩
      rw [Pending.Table.find?_of_register hregister, if_pos rfl]
      rfl

/-- A wait receives for a while and then ends, and its end forgets at most the
request it was about. -/
theorem wait_moves (h : Attended.Carries kind start traffic bridge.channel) (block : Address) :
    ∃ result next after, ∃ last : Bridge δ,
      bridge.wait (Attended.channel kind) block = (result, next) ∧
      Moves kind start [] (view traffic bridge) (view after last) ∧
      Attended.Carries kind start after next.channel ∧
      Moves kind start [] (view after last) (view after next) ∧
      Loopback.overflows .rt next.time = Loopback.overflows .rt last.time ∧
      ∀ outcome, result = Completion.verdict block outcome →
        ∃ entry, last.client.pending.find? block = some entry ∧ entry.outcome = some outcome := by
  obtain ⟨last, hpumped, hending⟩ := bridge.wait_ends (Attended.channel kind) block
  have hlast : ∃ after, Attended.Carries kind start after last.channel ∧
      Moves kind start [] (view traffic bridge) (view after last) := by
    refine Session.Pumped.preserves (P := fun reached : Bridge δ =>
      ∃ after, Attended.Carries kind start after reached.channel ∧
        Moves kind start [] (view traffic bridge) (view after reached)) ?_ hpumped
      ⟨traffic, h, .refl _⟩
    rintro before next timeout received hpump ⟨traffic', hbefore, hmoves⟩
    obtain ⟨after, _, _, hpump', hcarries, hmore⟩ := pump_moves hbefore timeout
    rw [hpump'] at hpump
    obtain ⟨_, rfl⟩ := Prod.mk.inj hpump
    exact ⟨after, hcarries, hmoves.trans hmore⟩
  obtain ⟨after, hcarries, hmoves⟩ := hlast
  rcases hwait : bridge.wait (Attended.channel kind) block with ⟨result, next⟩
  rw [hwait] at hending
  simp only at hending
  cases hending with
  | @settled entry outcome hfind hsettled =>
    refine ⟨_, _, after, last, rfl, hmoves, hcarries, ?_,
      Loopback.overflows_note_client .rt _ _, ?_⟩
    · rw [view, view, Session.note, Loopback.overflows_note_client]
      cases outcome with
      | read | written | failed => exact (Move.forget block).moves
    · intro outcome' hsame
      refine ⟨entry, hfind, ?_⟩
      rw [hsettled, Completion.verdict_injective hsame]
  | absent =>
    refine ⟨_, _, after, last, rfl, hmoves, hcarries, .refl _, rfl, ?_⟩
    intro outcome hsame
    cases outcome <;> cases hsame
  | @late entry =>
    refine ⟨_, _, after, last, rfl, hmoves, hcarries, ?_,
      Loopback.overflows_note_client .rt _ _, ?_⟩
    · rw [view, view, Session.note, Loopback.overflows_note_client]
      exact (Move.forget block).moves
    · intro outcome hsame
      cases outcome <;> cases hsame
  | @broken entry _ _ _ _ _ hpump =>
    obtain ⟨_, _, _, hpump', _⟩ := pump_moves hcarries
      (last.client.timeout - (last.time.now - entry.issuedAt))
    rw [hpump'] at hpump
    cases (Prod.mk.inj hpump).1

/-- Every action is a number of moves. -/
theorem act_moves (h : Attended.Carries kind start traffic bridge.channel) (action : Action) :
    ∃ after, Attended.Carries kind start after (act kind action bridge).2.channel ∧
      Moves kind start (accepted [(action, (act kind action bridge).1)])
        (view traffic bridge) (view after (act kind action bridge).2) := by
  cases action with
  | submit request =>
    obtain ⟨result, next, hsubmit, after, hcarries, hmoves, _⟩ := submit_moves h request
    simp only [act, hsubmit]
    refine ⟨after, hcarries, ?_⟩
    rcases result with _ | ⟨⟩
    · exact hmoves
    · exact hmoves
  | wait block turns =>
    obtain ⟨result, next, after, last, hwait, hmoves, hcarries, hend, _⟩ :=
      wait_moves (carries_schedule h turns) block
    simp only [act, hwait]
    exact ⟨after, hcarries, hmoves.trans hend⟩
  | pump timeout turns =>
    obtain ⟨after, received, next, hpump, hcarries, hmoves⟩ :=
      pump_moves (carries_schedule h turns) timeout
    simp only [act, hpump]
    exact ⟨after, hcarries, hmoves⟩
  | cancel block => exact ⟨traffic, h, (Move.forget block).moves⟩
  | serve timeout =>
    obtain ⟨after, hcarries, hserves⟩ := h.serveNext timeout bridge.time
    exact ⟨after, hcarries, (Move.serve bridge.client.pending hserves).moves⟩
  | sleep duration => exact ⟨traffic, h, .refl _⟩

/-- So is every run, by induction on its actions. -/
theorem play_moves (h : Attended.Carries kind start traffic bridge.channel)
    (actions : List Action) :
    ∃ after, Attended.Carries kind start after (play kind actions bridge).2.channel ∧
      Moves kind start (accepted (play kind actions bridge).1)
        (view traffic bridge) (view after (play kind actions bridge).2) := by
  refine play_preserves (P := fun past reached => ∃ after,
    Attended.Carries kind start after reached.channel ∧
      Moves kind start (accepted past) (view traffic bridge) (view after reached)) ?_ actions []
    ⟨traffic, h, .refl _⟩
  rintro past reached action ⟨traffic', hreached, hmoves⟩
  obtain ⟨after, hcarries, hmore⟩ := act_moves hreached action
  rw [accepted_append]
  exact ⟨after, hcarries, hmoves.trans hmore⟩

end Bridge
end BlockBridge

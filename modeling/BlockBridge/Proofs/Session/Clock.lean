import BlockBridge.Proofs.Channel.Timed
import BlockBridge.Proofs.Session.Log

/-!
# What the clock tells of requests in flight

Over a steady channel no request in flight was issued in the future, and none after the
last frame that the channel accepted: a request is issued when its frame is sent.

Timing a channel that is logged does not disturb the log: what is in flight can still be
read off it.

Main statements: `Session.Reachable.dated` and `Session.Reachable.told_of_timed`.
-/

namespace BlockBridge

theorem Channel.Punctual.logged {σ : Type} {channel : Channel σ} (h : channel.Punctual) :
    channel.logged.Punctual where
  le_send frame link time := h.le_send frame link.state time
  le_receive timeout link time := h.le_receive timeout link.state time
  receive_le timeout link time := h.receive_le timeout link.state time

/-- The last send that the channel accepted. -/
def Timed.lastAccepted? {σ : Type} (link : Timed σ) : Option Sending :=
  (link.sendings.filter (·.result.isOk)).getLast?

theorem Timed.lastAccepted?_of_sendings {σ : Type} {link link' : Timed σ}
    (h : link'.sendings = link.sendings) : link'.lastAccepted? = link.lastAccepted? := by
  rw [lastAccepted?, h, lastAccepted?]

/-- That every request in flight was issued by now, and no later than the last frame
was accepted. -/
def Pending.Table.Dated {σ : Type} (link : Timed σ) (now : Nat) (table : Table) : Prop :=
  table.Each fun _ entry => entry.issuedAt ≤ now ∧
    ∃ last, link.lastAccepted? = some last ∧ entry.issuedAt ≤ last.began

namespace Session

variable {σ : Type} {channel : Channel σ}

/-- What is dated stays so while the clock goes on and nothing more is accepted. -/
theorem dated_mono {link link' : Timed σ} {now now' : Nat} {table : Pending.Table}
    (hdated : table.Dated link now) (hlast : link'.lastAccepted? = link.lastAccepted?)
    (hnow : now ≤ now') : table.Dated link' now' := by
  intro block entry hfind
  obtain ⟨hissued, haccepted⟩ := hdated block entry hfind
  exact ⟨Nat.le_trans hissued hnow, hlast ▸ haccepted⟩

/-- Over a steady channel everything stays dated. -/
theorem dated_kept (hsteady : channel.Steady) :
    Kept channel.timed (fun _ => True) fun table link now => table.Dated link now where
  forget block hbefore := by
    intro other entry hfind
    rw [Pending.Table.find?_erase] at hfind
    split at hfind
    · cases hfind
    · exact hbefore other entry hfind
  sent {table table' link link' time time' request} _ hregister hsend hbefore := by
    intro block entry hfind
    obtain ⟨hplain, hsendings, _⟩ := Channel.send_of_timed hsend
    have hlast : link'.lastAccepted? =
        some { frame := request.message.encode, began := time.now, result := .ok () } := by
      rw [Timed.lastAccepted?, hsendings, List.filter_append]
      exact List.getLast?_concat
    rw [hlast]
    -- The new entry is as old as this send, and the others were there before it.
    suffices entry.issuedAt ≤ time.now from
      ⟨Nat.le_trans this (hsteady.now_le_of_send hplain), _, rfl, this⟩
    rw [Pending.Table.find?_of_register hregister] at hfind
    split at hfind
    · obtain rfl := Option.some.inj hfind
      exact Nat.le_refl _
    · exact (hbefore block entry hfind).1
  unsent hsend hbefore := by
    obtain ⟨hplain, hsendings, _⟩ := Channel.send_of_timed hsend
    refine dated_mono hbefore ?_ (hsteady.now_le_of_send hplain)
    rw [Timed.lastAccepted?, hsendings, List.filter_append]
    exact congrArg _ (List.append_nil _)
  frame {table link link' time time' timeout frame} hreceive hbefore := by
    obtain ⟨hplain, _, hsendings⟩ := Channel.receive_of_timed hreceive
    refine dated_mono ?_ (Timed.lastAccepted?_of_sendings hsendings)
      (hsteady.now_le_of_receive hplain)
    intro block entry hfind
    rw [Pending.Table.find?_accept] at hfind
    obtain ⟨earlier, hearlier, rfl⟩ := Option.map_eq_some_iff.mp hfind
    exact hbefore block earlier hearlier
  silent hreceive _ hbefore := by
    obtain ⟨hplain, _, hsendings⟩ := Channel.receive_of_timed hreceive
    exact dated_mono hbefore (Timed.lastAccepted?_of_sendings hsendings)
      (hsteady.now_le_of_receive hplain)
  sleep duration hbefore := dated_mono hbefore rfl (Nat.le_add_right _ _)

theorem Reachable.dated (hsteady : channel.Steady) {session : Session (Timed σ)}
    (h : Reachable channel.timed session) :
    session.client.pending.Dated session.channel session.time.now :=
  (dated_kept hsteady).reachable (fun _ _ _ _ _ => nofun) h

/-- A logged channel that is timed as well still tells what is in flight: each step over it
is one over the logged channel. -/
theorem told_kept :
    Kept channel.logged.timed (fun _ => True) fun table link _ => table.Told link.state.log := by
  have hstep {before after : Pending.Table × Logged σ}
      (h : Step channel.logged (fun _ => True) before after)
      (hbefore : before.1.Told before.2.log) : after.1.Told after.2.log :=
    told_of_step h hbefore
  exact
    { forget := fun block => hstep (.forget _ _ block)
      sent := fun _ hregister hsend =>
        hstep (.sent trivial hregister (Channel.send_of_timed hsend).1)
      unsent := fun hsend => hstep (.unsent (Channel.send_of_timed hsend).1)
      frame := fun hreceive => hstep (.frame (Channel.receive_of_timed hreceive).1)
      silent := fun hreceive hnone =>
        hstep (.silent (Channel.receive_of_timed hreceive).1 hnone)
      sleep := fun _ hbefore => hbefore }

theorem Reachable.told_of_timed {session : Session (Timed (Logged σ))}
    (h : Reachable channel.logged.timed session) :
    session.client.pending.Told session.channel.state.log :=
  told_kept.reachable (fun _ _ _ _ _ => nofun) h

end Session
end BlockBridge

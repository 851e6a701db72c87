import BlockBridge.Channel.Loopback
import BlockBridge.Server.Service

/-!
# A loopback with its server

Both sides of the bridge in one process, as the asking side sees it: a loopback
whose `rt` end a server holds.  The server gets its turns just before each
receive at the `hl` end, as many as `turns` says for that receive, so that any
way for the two sides to take turns can be told.

Main statement: whatever the server does, it never adds to what the asking side
has yet to receive or have served (`Attended.traffic_serveNext_le`).
-/

namespace BlockBridge

/-- A loopback, the server at its `rt` end, and the turns the server will get. -/
structure Attended (δ : Type) where
  server : Server δ
  link : Loopback := {}
  /-- How many frames the server may serve before each of the next receives. -/
  turns : List Nat := []

namespace Attended

variable {δ ε : Type}

/-- The frames on their way in either direction. -/
def traffic (attended : Attended δ) : Nat :=
  attended.link.toRt.length + attended.link.toHl.length

/-- Let the server serve at most one frame, and say whether there was one. -/
def serveNext (kind : Device δ ε) (timeout : Nat) (attended : Attended δ) (time : Timeline) :
    Except Fault Bool × Attended δ × Timeline :=
  let service : Service δ Loopback := { server := attended.server, channel := attended.link, time }
  let served := service.serveNext kind (Loopback.channel .rt) timeout
  (served.1, { attended with server := served.2.server, link := served.2.channel }, served.2.time)

/-- A turn of the server: it serves one frame, if one is there, and does not wait. -/
def turn (kind : Device δ ε) (attended : Attended δ) (time : Timeline) : Attended δ × Timeline :=
  (attended.serveNext kind 0 time).2

/-- Let the server have so many turns. -/
def attend (kind : Device δ ε) : Nat → Attended δ → Timeline → Attended δ × Timeline
  | 0, attended, time => (attended, time)
  | n + 1, attended, time =>
    let (attended, time) := attended.turn kind time
    attend kind n attended time

/-- Send a request from the `hl` end. -/
def send (frame : Bytes) (attended : Attended δ) (time : Timeline) :
    Channel.Result (Attended δ) Unit :=
  let (result, link, time) := Loopback.send .hl frame attended.link time
  (result, { attended with link }, time)

/-- Receive at the `hl` end. -/
def collect (timeout : Nat) (attended : Attended δ) (time : Timeline) :
    Channel.Result (Attended δ) (Option Bytes) :=
  match Loopback.receive .hl timeout attended.link time with
  | (result, link, time) => (result, { attended with link }, time)

/-- Let the server have the turns that come before the next receive. -/
def prepare (kind : Device δ ε) (attended : Attended δ) (time : Timeline) :
    Attended δ × Timeline :=
  attend kind (attended.turns.headD 0) { attended with turns := attended.turns.tail } time

/-- Let the server have its turns, then receive at the `hl` end. -/
def receive (kind : Device δ ε) (timeout : Nat) (attended : Attended δ) (time : Timeline) :
    Channel.Result (Attended δ) (Option Bytes) :=
  collect timeout (attended.prepare kind time).1 (attended.prepare kind time).2

theorem traffic_serveNext_le (kind : Device δ ε) (timeout : Nat) (attended : Attended δ)
    (time : Timeline) :
    (attended.serveNext kind timeout time).2.1.traffic ≤ attended.traffic := by
  have hreceive := Loopback.length_receive_rt timeout attended.link time
  simp only [serveNext, traffic, Service.serveNext, Loopback.channel]
  split
  · -- The channel failed.
    rename_i fault link time' h
    rw [h] at hreceive
    simp only at hreceive ⊢
    omega
  · -- No frame was there.
    rename_i link time' h
    rw [h] at hreceive
    simp only at hreceive ⊢
    omega
  · -- A frame was taken, and there is room for its reply in the bound.
    rename_i frame link time' h
    rw [h] at hreceive
    have hpop := hreceive.2.1 frame rfl
    simp only at hreceive hpop
    split
    · simp only
      omega
    · rename_i reply server notes _
      have hsend := Loopback.length_send_rt reply link (time'.note Server.logTarget notes)
      split <;>
      · rename_i hsent
        rw [hsent] at hsend
        simp only at hsend ⊢
        omega

theorem now_serveNext_le (kind : Device δ ε) (timeout : Nat) (attended : Attended δ)
    (time : Timeline) : time.now ≤ (attended.serveNext kind timeout time).2.2.now := by
  have hreceive := Loopback.now_receive_le .rt timeout attended.link time
  simp only [serveNext, Service.serveNext, Loopback.channel]
  split
  · rename_i h
    rw [h] at hreceive
    exact hreceive
  · rename_i h
    rw [h] at hreceive
    exact hreceive
  · rename_i frame link time' h
    rw [h] at hreceive
    simp only at hreceive
    split
    · exact hreceive
    · rename_i reply server notes _
      have hsend := Loopback.now_send_le .rt reply link (time'.note Server.logTarget notes)
      split <;>
      · rename_i hsent
        rw [hsent] at hsend
        exact Nat.le_trans hreceive hsend

theorem traffic_attend_le (kind : Device δ ε) (n : Nat) (attended : Attended δ)
    (time : Timeline) : (attended.attend kind n time).1.traffic ≤ attended.traffic := by
  induction n generalizing attended time with
  | zero => exact Nat.le_refl _
  | succ n ih => exact Nat.le_trans (ih _ _) (traffic_serveNext_le kind 0 attended time)

theorem now_attend_le (kind : Device δ ε) (n : Nat) (attended : Attended δ) (time : Timeline) :
    time.now ≤ (attended.attend kind n time).2.now := by
  induction n generalizing attended time with
  | zero => exact Nat.le_refl _
  | succ n ih => exact Nat.le_trans (now_serveNext_le kind 0 attended time) (ih _ _)

theorem traffic_collect_lt {timeout : Nat} {attended attended' : Attended δ}
    {time time' : Timeline} {frame : Bytes}
    (h : attended.collect timeout time = (.ok (some frame), attended', time')) :
    attended'.traffic < attended.traffic := by
  unfold collect Loopback.receive at h
  split at h
  rename_i result link late hreceive
  simp only [Prod.mk.injEq] at h
  obtain ⟨rfl, rfl, rfl⟩ := h
  split at hreceive
  · rename_i _ rest hqueue
    have hqueue' : attended.link.toHl = _ :: rest := hqueue
    simp only [Prod.mk.injEq, Loopback.setQueue] at hreceive
    obtain ⟨_, rfl, _⟩ := hreceive
    simp only [traffic, hqueue', List.length_cons]
    omega
  · split at hreceive <;> simp at hreceive

theorem collect_idle {timeout : Nat} {attended attended' : Attended δ} {time time' : Timeline}
    (h : attended.collect timeout time = (.ok none, attended', time')) :
    attended' = attended ∧ time' = time.sleep timeout := by
  unfold collect at h
  split at h
  rename_i hreceive
  simp only [Prod.mk.injEq] at h
  obtain ⟨rfl, rfl, rfl⟩ := h
  obtain ⟨rfl, rfl⟩ := Loopback.idle hreceive
  exact ⟨rfl, rfl⟩

theorem traffic_receive_lt {kind : Device δ ε} {timeout : Nat} {attended attended' : Attended δ}
    {time time' : Timeline} {frame : Bytes}
    (h : attended.receive kind timeout time = (.ok (some frame), attended', time')) :
    attended'.traffic < attended.traffic :=
  Nat.lt_of_lt_of_le (traffic_collect_lt h) (traffic_attend_le kind _ _ time)

theorem receive_idle {kind : Device δ ε} {timeout : Nat} {attended attended' : Attended δ}
    {time time' : Timeline}
    (h : attended.receive kind timeout time = (.ok none, attended', time')) :
    attended'.traffic ≤ attended.traffic ∧ time.now + timeout ≤ time'.now := by
  obtain ⟨rfl, rfl⟩ := collect_idle h
  exact ⟨traffic_attend_le kind _ _ time,
    Nat.add_le_add_right (now_attend_le kind _ _ time) timeout⟩

/-- The asking side's end of a loopback with its server as a channel. -/
def channel (kind : Device δ ε) : Channel (Attended δ) where
  send := send
  receive := receive kind
  backlog := traffic
  backlog_lt := traffic_receive_lt
  idle h := .inr (receive_idle h)

end Attended
end BlockBridge

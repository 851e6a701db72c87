import BlockBridge.Channel.Loopback

/-!
# Serving a loopback until it is empty

During a run the server holds the `rt` end of a loopback and nobody puts more
into it.  A drain is that end together with the stop flag, which is set as soon
as the server has waited once for a request that did not come.
-/

namespace BlockBridge

/-- A loopback, and whether whoever serves it should stop. -/
structure Drain where
  link : Loopback
  stopped : Bool := false
  deriving DecidableEq

namespace Drain

/-- Send a reply from the `rt` end. -/
def send (frame : Bytes) (drain : Drain) (time : Timeline) : Channel.Result Drain Unit :=
  let (result, link, time) := Loopback.send .rt frame drain.link time
  (result, { drain with link }, time)

/-- Receive a request at the `rt` end; if none comes the stop flag is set. -/
def receive (timeout : Nat) (drain : Drain) (time : Timeline) :
    Channel.Result Drain (Option Bytes) :=
  match Loopback.receive .rt timeout drain.link time with
  | (.ok none, link, time) => (.ok none, { link, stopped := true }, time)
  | (result, link, time) => (result, { drain with link }, time)

/-- A bound on the receives until the stop flag is set. -/
def work (drain : Drain) : Nat :=
  drain.link.toRt.length + if drain.stopped then 0 else 1

theorem toRt_lt {timeout : Nat} {drain drain' : Drain} {time time' : Timeline} {frame : Bytes}
    (h : receive timeout drain time = (.ok (some frame), drain', time')) :
    drain'.link.toRt.length < drain.link.toRt.length ∧ drain'.stopped = drain.stopped := by
  unfold receive at h
  split at h
  · simp at h
  · rename_i hreceive
    simp only [Prod.mk.injEq] at h
    obtain ⟨rfl, rfl, _⟩ := h
    exact ⟨Loopback.queue_length_lt hreceive, rfl⟩

theorem idle {timeout : Nat} {drain drain' : Drain} {time time' : Timeline}
    (h : receive timeout drain time = (.ok none, drain', time')) :
    drain'.link = drain.link ∧ drain'.stopped = true ∧ time' = time.sleep timeout := by
  unfold receive at h
  split at h
  · rename_i hreceive
    simp only [Prod.mk.injEq, true_and] at h
    obtain ⟨rfl, rfl⟩ := h
    obtain ⟨rfl, rfl⟩ := Loopback.idle hreceive
    exact ⟨rfl, rfl, rfl⟩
  · rename_i result link late hsome hreceive
    simp only [Prod.mk.injEq] at h
    obtain ⟨rfl, _, _⟩ := h
    exact absurd rfl hsome

/-- The `rt` end of a loopback as something to serve until it is empty. -/
def feed : Feed Drain where
  send := send
  receive := receive
  backlog drain := drain.link.toRt.length
  backlog_lt h := (toRt_lt h).1
  idle h := by
    obtain ⟨hlink, _, rfl⟩ := idle h
    exact .inr ⟨Nat.le_of_eq (by rw [hlink]), Nat.le_refl _⟩
  stopped := Drain.stopped
  work := work
  work_lt {drain drain' time time' received} hstopped h := by
    cases received with
    | none =>
      obtain ⟨hlink, hflag, _⟩ := idle h
      simp [work, hlink, hflag, hstopped]
    | some frame =>
      obtain ⟨hlt, hflag⟩ := toRt_lt h
      simp only [work, hflag]
      omega
  work_send_le frame drain time := by
    have hlength := (Loopback.length_send_rt frame drain.link time).1
    exact Nat.add_le_add_right (Nat.le_of_eq hlength) _

end Drain
end BlockBridge

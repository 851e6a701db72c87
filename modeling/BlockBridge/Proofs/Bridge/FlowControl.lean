import BlockBridge.Proofs.Bridge.Sequential

/-!
# Flow control

The client's table admits as many requests as a queue of the loopback holds
frames.  As long as no request is abandoned this is all the flow control that a
bridge needs: a request that waits for its result is in exactly one of the two
queues, as a request or as a reply, so neither can be full when a frame is sent.

An abandoned request leaves the table and its frame stays where it is; from
then on the table says too little about the queues.

Main statement: `Bridge.flow_control`.
-/

namespace BlockBridge
namespace Bridge

variable {δ ε : Type}

/-- In every state that a run reaches without abandoning a request, the frames in
the two queues are as many as the requests that wait for a result, and no more
than one queue holds.  No send has found its queue full so far, on either side;
neither will that of the next submission, nor the server's next reply. -/
theorem flow_control (kind : Device δ ε) (config : Config) (device : δ) (time : Timeline)
    (actions : List Action) (hkeeps : Keeps kind actions (ofConfig config device time)) :
    let bridge := (play kind actions (ofConfig config device time)).2
    (bridge.link.toRt.length + bridge.link.toHl.length =
        bridge.client.pending.unsettledCount ∧
      bridge.client.pending.unsettledCount ≤ Pending.maxInFlight ∧
      Pending.maxInFlight = Loopback.depth) ∧
    (∀ side, Loopback.overflows side bridge.time = Loopback.overflows side time) ∧
    (∀ request, ¬Abandons kind bridge (.submit request) →
      (∀ fault, (bridge.submit kind request).1 ≠ .error (.channel fault)) ∧
        (bridge.submit kind request).2.time.now = bridge.time.now) ∧
    (∀ timeout, (bridge.serveNext kind timeout).1 = .ok (!bridge.link.toRt.isEmpty) ∧
      (bridge.link.toRt ≠ [] →
        (bridge.serveNext kind timeout).2.time.now = bridge.time.now)) := by
  intro bridge
  obtain ⟨traffic, h⟩ := InStep.play hkeeps
  refine ⟨⟨?_, ?_, rfl⟩, h.quiet, ?_, ?_⟩
  · have hframes : bridge.link.toRt.length + bridge.link.toHl.length =
        (traffic.onTheWay kind device).length := h.carries.traffic_eq
    rw [hframes, h.tracks.length_eq]
  · rw [← h.tracks.length_eq]
    exact h.roomy
  · intro request hkept
    obtain ⟨result, next, hsubmit, hnow, hcases⟩ := h.submit (Decidable.not_not.mp hkept) request
    rw [hsubmit]
    refine ⟨?_, hnow⟩
    intro fault hfault
    rcases hcases with ⟨cause, hrefused, _⟩ | ⟨hok, _⟩
    · exact absurd (hrefused.symm.trans hfault) nofun
    · exact absurd (hok.symm.trans hfault) nofun
  · intro timeout
    exact h.carries.serveNext_eq_ok h.roomy timeout bridge.time

/-- With room for two requests, a write is served and its reply waits while a
read is on its way. -/
theorem flow_control_two_in_flight :
    let actions : List Action := [.submit (.write 0 .zero), .serve 0, .submit (.read 1)]
    let disk : RamDisk := { blocks := [.zero, .zero] }
    let bridge := (play RamDisk.device actions (ofConfig { maxInFlight := 2 } disk {})).2
    Keeps RamDisk.device actions (ofConfig { maxInFlight := 2 } disk {}) ∧
      bridge.client.pending.unsettledCount = 2 ∧
      bridge.link.toRt.length + bridge.link.toHl.length =
        bridge.client.pending.unsettledCount ∧
      (∀ timeout, (bridge.serveNext RamDisk.device timeout).1 =
        .ok (!bridge.link.toRt.isEmpty)) := by
  intro actions disk
  have hkeeps : Keeps RamDisk.device actions (ofConfig { maxInFlight := 2 } disk {}) := by
    refine ⟨?_, id, ?_, trivial⟩
    · exact not_not.mpr (by decide +kernel)
    · exact not_not.mpr (by decide +kernel)
  obtain ⟨⟨hcount, _⟩, _, _, hserves⟩ :=
    flow_control RamDisk.device { maxInFlight := 2 } disk {} actions hkeeps
  exact ⟨hkeeps, by decide +kernel, hcount, fun timeout => (hserves timeout).1⟩

end Bridge
end BlockBridge

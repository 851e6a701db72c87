import BlockBridge.Channel.Loopback
import BlockBridge.Client
import BlockBridge.Proofs.Message.RoundTrip
import BlockBridge.Server

/-!
# Full queues

An end of a loopback that has waited for room in vain says so in the journal, and
says nothing like it otherwise.  So for each end the journal counts the sends that
were refused for want of room, and no others.

Main statement: `Loopback.overflows_send`.
-/

namespace BlockBridge
namespace Loopback

/-- The note that an end makes when it has waited for room in vain. -/
def overflow (side : End) : Note := .warn s!"loopback[{side.name}]: queue full, dropping frame"

/-- How often an end has waited for room in vain, by the journal. -/
def overflows (side : End) (time : Timeline) : Nat :=
  time.records.countP fun record =>
    decide (record.target = logTarget ∧ record.toNote = overflow side)

@[simp]
theorem overflows_sleep (side : End) (duration : Nat) (time : Timeline) :
    overflows side (time.sleep duration) = overflows side time := rfl

theorem overflows_note (side : End) (target : String) (notes : List Note) (time : Timeline) :
    overflows side (time.note target notes) =
      overflows side time +
        notes.countP fun note => decide (target = logTarget ∧ note = overflow side) := by
  rw [overflows, Timeline.note, List.countP_append, List.countP_map]
  rfl

/-- Only the loopback reports overflows. -/
theorem overflows_note_of_ne (side : End) {target : String} (h : target ≠ logTarget)
    (notes : List Note) (time : Timeline) :
    overflows side (time.note target notes) = overflows side time := by
  rw [overflows_note]
  simp [h]

@[simp]
theorem overflows_note_client (side : End) (notes : List Note) (time : Timeline) :
    overflows side (time.note Client.logTarget notes) = overflows side time :=
  overflows_note_of_ne side (by decide) notes time

@[simp]
theorem overflows_note_server (side : End) (notes : List Note) (time : Timeline) :
    overflows side (time.note Server.logTarget notes) = overflows side time :=
  overflows_note_of_ne side (by decide) notes time

/-- An end reports its own overflows and not those of the other. -/
theorem overflows_note_overflow (side other : End) (time : Timeline) :
    overflows other (time.note logTarget [overflow side]) =
      overflows other time + if side = other then 1 else 0 := by
  rw [overflows_note]
  congr 1
  cases side <;> cases other <;> decide

/-- Every message fits into a queue's frames. -/
theorem length_encode_le (message : Message) : message.encode.length ≤ frameLimit := by
  have hlongest : blockFrameLength ≤ frameLimit := by decide
  rw [Message.length_encode]
  exact Nat.le_trans message.frameLength_le hlongest

/-- A send is among the overflows of its own end if it finds no room, and otherwise and for
the other end it changes nothing about them. -/
theorem overflows_send {side : End} {frame : Bytes} {link after : Loopback}
    {time time' : Timeline} {result : Except ChannelFault Unit}
    (h : send side frame link time = (result, after, time')) (other : End) :
    overflows other time' = overflows other time +
      match result with
      | .error .queueFull => if side = other then 1 else 0
      | _ => 0 := by
  cases hclosed : link.closed with
  | true =>
    rw [send_of_closed hclosed] at h
    cases h
    rfl
  | false =>
    rcases Nat.lt_or_ge frameLimit frame.length with hlong | hsize
    · rw [send_of_oversize hclosed hlong] at h
      cases h
      rfl
    · rcases Nat.lt_or_ge (link.queue side.peer).length depth with hroom | hfull
      · rw [send_of_room hclosed hsize hroom] at h
        cases h
        rfl
      · rw [send_of_full hclosed hsize hfull] at h
        cases h
        show overflows other ((time.sleep sendBound).note logTarget [overflow side]) = _
        rw [overflows_note_overflow, overflows_sleep]

theorem overflows_send_of_ne {side other : End} {frame : Bytes} {link after : Loopback}
    {time time' : Timeline} {result : Except ChannelFault Unit}
    (h : send side frame link time = (result, after, time')) (hne : side ≠ other) :
    overflows other time' = overflows other time := by
  have hsent := overflows_send h other
  split at hsent
  · rwa [if_neg hne] at hsent
  · exact hsent

end Loopback
end BlockBridge

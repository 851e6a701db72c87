import BlockBridge.Channel.Loopback

/-!
# What goes into a loopback comes out of it

The two ends of a loopback are used in any order, each use at one stroke: a frame is
sent, a frame is received, or an end is dropped.  The uses of a run leave a history,
which says what each of them came to.

In each direction nothing is lost, made up or overtaken: what was in the queue and what
was accepted is what was handed out and what is in the queue
(`Loopback.conserves_run`).  Once the other end is dropped nothing is accepted any more,
and an end receives what is still queued for it and then that it is disconnected
(`Loopback.receipts_of_peer_dropped`).

Main statement: `Loopback.delivers_in_order`.
-/

namespace BlockBridge
namespace Loopback

/-! ## Uses and what they come to -/

/-- One use of a loopback. -/
inductive Use where
  | send (side : End) (frame : Bytes)
  | receive (side : End) (timeout : Nat)
  | drop (side : End)
  deriving DecidableEq

/-- What a use of a loopback came to. -/
inductive Event where
  | sent (side : End) (frame : Bytes) (result : Except ChannelFault Unit)
  | received (side : End) (result : Except ChannelFault (Option Bytes))
  | dropped (side : End)

namespace Event

/-- The frames that were accepted from an end, oldest first. -/
def accepted (side : End) : Event → List Bytes
  | sent about frame (.ok ()) => if about = side then [frame] else []
  | sent _ _ (.error _) | received .. | dropped _ => []

/-- What the receives at an end came back with. -/
def receipts (side : End) : Event → List (Except ChannelFault (Option Bytes))
  | received about result => if about = side then [result] else []
  | sent .. | dropped _ => []

/-- The frames that were handed out at an end. -/
def handedOut (side : End) : Event → List Bytes
  | received about (.ok (some frame)) => if about = side then [frame] else []
  | received _ (.ok none) | received _ (.error _) | sent .. | dropped _ => []

end Event

/-- Use a loopback once. -/
def use : Use → Loopback → Timeline → Event × Loopback × Timeline
  | .send side frame, link, time => (send side frame link time).map (.sent side frame) id
  | .receive side timeout, link, time => (receive side timeout link time).map (.received side) id
  | .drop side, link, time => (.dropped side, drop side link time)

/-- Use a loopback again and again; what came of it is the history, oldest first. -/
def run : List Use → Loopback → Timeline → List Event × Loopback × Timeline
  | [], link, time => ([], link, time)
  | first :: rest, link, time =>
    let used := use first link time
    let others := run rest used.2.1 used.2.2
    (used.1 :: others.1, others.2)

/-! ## The ends of a use -/

/-- A send fails and leaves the link as it is, or it puts its frame behind the others. -/
theorem send_ends (side : End) (frame : Bytes) (link : Loopback) (time : Timeline) :
    (∃ fault time', send side frame link time = (.error fault, link, time')) ∨
      (link.queue side.peer).length < depth ∧ send side frame link time =
        (.ok (), link.setQueue (link.queue side.peer ++ [frame]) side.peer, time) := by
  cases hclosed : link.closed with
  | true => exact .inl ⟨_, _, send_of_closed hclosed side frame time⟩
  | false =>
    rcases Nat.lt_or_ge frameLimit frame.length with hlong | hsize
    · exact .inl ⟨_, _, send_of_oversize hclosed hlong side time⟩
    · rcases Nat.lt_or_ge (link.queue side.peer).length depth with hroom | hfull
      · exact .inr ⟨hroom, send_of_room hclosed hsize hroom time⟩
      · exact .inl ⟨_, _, send_of_full hclosed hsize hfull time⟩

/-- A receive takes the first frame of its queue, or finds the queue empty and leaves
the link as it is. -/
theorem receive_ends (side : End) (timeout : Nat) (link : Loopback) (time : Timeline) :
    (∃ frame rest, link.queue side = frame :: rest ∧ receive side timeout link time =
        (.ok (some frame), link.setQueue rest side, time)) ∨
      link.queue side = [] ∧ ∃ time', receive side timeout link time =
        (if link.closed then .error .disconnected else .ok none, link, time') := by
  cases hqueue : link.queue side with
  | cons frame rest => exact .inl ⟨frame, rest, rfl, receive_of_cons hqueue timeout time⟩
  | nil =>
    refine .inr ⟨rfl, ?_⟩
    cases hclosed : link.closed with
    | true => exact ⟨_, receive_of_closed hqueue hclosed timeout time⟩
    | false => exact ⟨_, receive_of_open hqueue hclosed timeout time⟩

/-! ## What one use does to a queue -/

@[simp]
theorem End.peer_peer (side : End) : side.peer.peer = side := by
  cases side <;> rfl

theorem End.eq_peer_of_ne {side other : End} (h : other ≠ side) : other = side.peer := by
  cases side with
  | hl =>
    cases other with
    | hl => exact absurd rfl h
    | rt => rfl
  | rt =>
    cases other with
    | hl => rfl
    | rt => exact absurd rfl h

theorem queue_setQueue_of_ne {side other : End} (h : other ≠ side) (link : Loopback)
    (frames : List Bytes) : (link.setQueue frames side).queue other = link.queue other := by
  rw [End.eq_peer_of_ne h, queue_peer_setQueue]

@[simp]
theorem queue_drop (side other : End) (link : Loopback) (time : Timeline) :
    (drop side link time).1.queue other = link.queue other := by
  unfold drop
  split
  · cases side <;> cases other <;> rfl
  · rfl

@[simp]
theorem held_setQueue (link : Loopback) (frames : List Bytes) (side other : End) :
    (link.setQueue frames side).held other = link.held other := by
  cases side <;> cases other <;> rfl

theorem held_drop_of_ne {side other : End} (h : other ≠ side) (link : Loopback)
    (time : Timeline) : (drop side link time).1.held other = link.held other := by
  obtain rfl := End.eq_peer_of_ne h
  unfold drop
  split
  · cases side <;> rfl
  · rfl

/-- Nobody can use a link any more to any end of which the peer is gone. -/
theorem closed_eq (link : Loopback) (side : End) :
    link.closed = !(link.held side && link.held side.peer) := by
  cases side with
  | hl => rfl
  | rt => rw [closed, Bool.and_comm]; rfl

/-- What was in the queue of an end and what its peer sent then is what the end received
and what is in its queue now. -/
theorem conserves_use (action : Use) (link : Loopback) (time : Timeline) (side : End) :
    link.queue side ++ (use action link time).1.accepted side.peer =
      (use action link time).1.handedOut side ++ (use action link time).2.1.queue side := by
  cases action with
  | send about frame =>
    rw [use]
    rcases send_ends about frame link time with ⟨fault, time', hsend⟩ | ⟨_, hsend⟩
    · rw [hsend]
      exact List.append_nil _
    · rw [hsend]
      by_cases habout : about = side.peer
      · subst habout
        simp [Event.accepted, Event.handedOut]
      · have hother : side ≠ about.peer := by
          rintro rfl
          exact habout about.peer_peer.symm
        simp [Event.accepted, Event.handedOut, habout, queue_setQueue_of_ne hother]
  | receive about timeout =>
    rw [use]
    rcases receive_ends about timeout link time with
      ⟨frame, rest, hqueue, hreceive⟩ | ⟨hqueue, time', hreceive⟩
    · rw [hreceive]
      by_cases habout : about = side
      · subst habout
        simp [Event.accepted, Event.handedOut, hqueue]
      · simp [Event.accepted, Event.handedOut, habout, queue_setQueue_of_ne (Ne.symm habout)]
    · rw [hreceive]
      cases link.closed <;> exact List.append_nil _
  | drop about =>
    show link.queue side ++ [] = [] ++ (drop about link time).1.queue side
    rw [queue_drop, List.append_nil, List.nil_append]

/-- No use fills a queue beyond its depth. -/
theorem length_queue_use_le (action : Use) {link : Loopback} (time : Timeline) {side : End}
    (h : (link.queue side).length ≤ depth) :
    ((use action link time).2.1.queue side).length ≤ depth := by
  cases action with
  | send about frame =>
    rw [use]
    rcases send_ends about frame link time with ⟨fault, time', hsend⟩ | ⟨hroom, hsend⟩
    · rw [hsend]
      exact h
    · rw [hsend]
      by_cases hside : side = about.peer
      · subst hside
        simp only [Prod.map, id, queue_setQueue, List.length_append, List.length_singleton]
        omega
      · simp only [Prod.map, id, queue_setQueue_of_ne hside]
        exact h
  | receive about timeout =>
    rw [use]
    rcases receive_ends about timeout link time with
      ⟨frame, rest, hqueue, hreceive⟩ | ⟨hqueue, time', hreceive⟩
    · rw [hreceive]
      by_cases hside : side = about
      · subst hside
        rw [hqueue, List.length_cons] at h
        simp only [Prod.map, id, queue_setQueue]
        omega
      · simp only [Prod.map, id, queue_setQueue_of_ne hside]
        exact h
    · rw [hreceive]
      exact h
  | drop about =>
    show ((drop about link time).1.queue side).length ≤ depth
    rw [queue_drop]
    exact h

/-- An end is held until it is dropped. -/
theorem held_use_iff (action : Use) (link : Loopback) (time : Timeline) (side : End) :
    (use action link time).2.1.held side = true ↔
      link.held side = true ∧ action ≠ .drop side := by
  cases action with
  | send about frame =>
    rw [use, and_iff_left (by simp)]
    rcases send_ends about frame link time with ⟨fault, time', hsend⟩ | ⟨_, hsend⟩
    · rw [hsend]
      rfl
    · rw [hsend]
      simp
  | receive about timeout =>
    rw [use, and_iff_left (by simp)]
    rcases receive_ends about timeout link time with
      ⟨frame, rest, hqueue, hreceive⟩ | ⟨hqueue, time', hreceive⟩
    · rw [hreceive]
      simp
    · rw [hreceive]
      rfl
  | drop about =>
    show (drop about link time).1.held side = true ↔ _
    by_cases habout : side = about
    · subst habout
      rw [held_drop]
      simp
    · rw [held_drop_of_ne habout, and_iff_left]
      rintro ⟨⟩
      exact habout rfl

/-! ## Runs -/

/-- A run keeps what each use keeps, by induction on the uses. -/
theorem conserves_run (uses : List Use) (link : Loopback) (time : Timeline) (side : End) :
    link.queue side ++ (run uses link time).1.flatMap (Event.accepted side.peer) =
      (run uses link time).1.flatMap (Event.handedOut side) ++
        (run uses link time).2.1.queue side := by
  induction uses generalizing link time with
  | nil => exact List.append_nil _
  | cons action rest ih =>
    have hfirst := conserves_use action link time side
    have hrest := ih (use action link time).2.1 (use action link time).2.2
    simp only [run, List.flatMap_cons]
    rw [← List.append_assoc, hfirst, List.append_assoc, hrest, List.append_assoc]

theorem length_queue_run_le (uses : List Use) {link : Loopback} (time : Timeline) {side : End}
    (h : (link.queue side).length ≤ depth) :
    ((run uses link time).2.1.queue side).length ≤ depth := by
  induction uses generalizing link time with
  | nil => exact h
  | cons action rest ih => exact ih _ (length_queue_use_le action time h)

theorem held_run_iff (uses : List Use) (link : Loopback) (time : Timeline) (side : End) :
    (run uses link time).2.1.held side = true ↔ link.held side = true ∧ .drop side ∉ uses := by
  induction uses generalizing link time with
  | nil => simp [run]
  | cons action rest ih =>
    rw [run, ih, held_use_iff, List.mem_cons, not_or, and_assoc]
    simp only [ne_comm]

/-! ## After a drop -/

theorem closed_of_peer_dropped {link : Loopback} {side : End} (h : link.held side.peer = false) :
    link.closed = true := by
  rw [link.closed_eq side, h, Bool.and_false]
  rfl

/-- With the peer of an end dropped, a use takes a frame out of the end's queue only by
receiving there, and never puts one in. -/
theorem use_of_peer_dropped {link : Loopback} {side : End} (h : link.held side.peer = false)
    {action : Use} (hother : ∀ timeout, action ≠ .receive side timeout) (time : Timeline) :
    (use action link time).1.receipts side = [] ∧
      (use action link time).2.1.queue side = link.queue side := by
  have hclosed := closed_of_peer_dropped h
  cases action with
  | send about frame =>
    rw [use, send_of_closed hclosed]
    exact ⟨rfl, rfl⟩
  | receive about timeout =>
    have habout : about ≠ side := by
      rintro rfl
      exact hother timeout rfl
    rw [use]
    rcases receive_ends about timeout link time with
      ⟨frame, rest, hqueue, hreceive⟩ | ⟨hqueue, time', hreceive⟩
    · rw [hreceive]
      exact ⟨if_neg habout, queue_setQueue_of_ne habout.symm link rest⟩
    · rw [hreceive]
      exact ⟨if_neg habout, rfl⟩
  | drop about => exact ⟨rfl, queue_drop about side link time⟩

/-- What the receives at an end come back with once its peer is dropped: the `i`-th hands
out the `i`-th frame that was queued, and those after the last find the end
disconnected.  By induction on the uses. -/
theorem receipts_of_peer_dropped (uses : List Use) {link : Loopback} (time : Timeline)
    {side : End} (h : link.held side.peer = false) {i : Nat}
    {result : Except ChannelFault (Option Bytes)}
    (hresult : ((run uses link time).1.flatMap (Event.receipts side))[i]? = some result) :
    result =
      match (link.queue side)[i]? with
      | some frame => .ok (some frame)
      | none => .error .disconnected := by
  induction uses generalizing link time i with
  | nil => cases hresult
  | cons action rest ih =>
    have hnext : (use action link time).2.1.held side.peer = false := by
      rw [Bool.eq_false_iff, Ne, held_use_iff, h]
      simp
    rw [run, List.flatMap_cons] at hresult
    by_cases hreceives : ∃ timeout, action = .receive side timeout
    · obtain ⟨timeout, rfl⟩ := hreceives
      have hrest := @ih (use (.receive side timeout) link time).2.1
        (use (.receive side timeout) link time).2.2 hnext
      rw [use] at hresult hrest
      rcases receive_ends side timeout link time with
        ⟨frame, queued, hqueue, hreceive⟩ | ⟨hqueue, time', hreceive⟩
      · rw [hreceive] at hresult hrest
        simp only [Prod.map, id, Event.receipts, if_true, List.singleton_append] at hresult
        simp only [Prod.map, id, queue_setQueue] at hrest
        rw [hqueue]
        cases i with
        | zero => exact (Option.some.inj hresult).symm
        | succ i => exact hrest hresult
      · rw [hreceive, closed_of_peer_dropped h, if_pos rfl] at hresult hrest
        simp only [Prod.map, id, Event.receipts, if_true, List.singleton_append] at hresult
        simp only [Prod.map, id, hqueue, List.getElem?_nil] at hrest
        rw [hqueue, List.getElem?_nil]
        cases i with
        | zero => exact (Option.some.inj hresult).symm
        | succ i => exact hrest hresult
    · have hother : ∀ timeout, action ≠ .receive side timeout :=
        fun timeout heq => hreceives ⟨timeout, heq⟩
      obtain ⟨hnone, hqueue⟩ := use_of_peer_dropped h hother time
      rw [hnone, List.nil_append] at hresult
      rw [← hqueue]
      exact ih _ hnext hresult

/-! ## The law -/

/-- What becomes of a frame at an end that is held. -/
theorem send_result {link : Loopback} {side : End} (hheld : link.held side = true)
    (frame : Bytes) (time : Timeline) :
    (send side frame link time).1 =
      if link.held side.peer = false then .error .disconnected
      else if frameLimit < frame.length then .error .frameTooLarge
      else if depth ≤ (link.queue side.peer).length then .error .queueFull
      else .ok () := by
  have hclosed : link.closed = !link.held side.peer := by
    rw [link.closed_eq side, hheld, Bool.true_and]
  cases hpeer : link.held side.peer with
  | false =>
    rw [hpeer] at hclosed
    rw [if_pos rfl, send_of_closed hclosed]
  | true =>
    rw [hpeer] at hclosed
    rw [if_neg nofun]
    rcases Nat.lt_or_ge frameLimit frame.length with hlong | hsize
    · rw [if_pos hlong, send_of_oversize hclosed hlong]
    · rw [if_neg (Nat.not_lt.mpr hsize)]
      rcases Nat.lt_or_ge (link.queue side.peer).length depth with hroom | hfull
      · rw [if_neg (Nat.not_le.mpr hroom), send_of_room hclosed hsize hroom]
      · rw [if_pos hfull, send_of_full hclosed hsize hfull]

/-- A loopback neither loses frames nor makes them up nor lets them overtake.  Let its
ends be used in any order.  In each direction, the frames that were handed out and those
still queued are the frames that were accepted, in order.  A queue never holds more than
8.  What an end sends is refused if the peer was dropped, else if it is longer than 517
bytes, else if the queue is full; and what is refused changes nothing.  An end whose peer
was not dropped never finds itself disconnected.  An end whose peer was dropped receives
what is queued for it, in order, and after that finds itself disconnected every time. -/
theorem delivers_in_order (time : Timeline) (uses : List Use) :
    let history := (run uses {} time).1
    let link := (run uses {} time).2.1
    let now := (run uses {} time).2.2
    (∀ side, history.flatMap (Event.accepted side) =
      history.flatMap (Event.handedOut side.peer) ++ link.queue side.peer) ∧
    (∀ side, (link.queue side).length ≤ 8) ∧
    (∀ side frame, .drop side ∉ uses →
      let sent := send side frame link now
      (sent.1 =
        if .drop side.peer ∈ uses then .error .disconnected
        else if 517 < frame.length then .error .frameTooLarge
        else if (link.queue side.peer).length = 8 then .error .queueFull
        else .ok ()) ∧
      (sent.1 ≠ .ok () → sent.2.1 = link)) ∧
    ∀ side, .drop side ∉ uses →
      (.drop side.peer ∉ uses →
        ∀ timeout, (receive side timeout link now).1 ≠ .error .disconnected) ∧
      (.drop side.peer ∈ uses →
        ∀ later (i : Nat) (result : Except ChannelFault (Option Bytes)),
          ((run later link now).1.flatMap (Event.receipts side))[i]? = some result →
          result =
            match (link.queue side)[i]? with
            | some frame => .ok (some frame)
            | none => .error .disconnected) := by
  intro history link now
  have hheld (side : End) : link.held side = true ↔ .drop side ∉ uses := by
    have hrun := held_run_iff uses {} time side
    rwa [and_iff_right (by cases side <;> rfl)] at hrun
  have hgone (side : End) : link.held side = false ↔ .drop side ∈ uses := by
    rw [← Bool.not_eq_true, hheld, Decidable.not_not]
  have hlength (side : End) : (link.queue side).length ≤ 8 :=
    length_queue_run_le uses time (by cases side <;> decide)
  refine ⟨?_, hlength, ?_, ?_⟩
  · intro side
    have hconserved := conserves_run uses {} time side.peer
    rw [side.peer_peer, show ({} : Loopback).queue side.peer = [] by cases side <;> rfl] at hconserved
    exact hconserved
  · intro side frame hside sent
    constructor
    · have hresult : sent.1 = _ := send_result ((hheld side).mpr hside) frame now
      have hfull : depth ≤ (link.queue side.peer).length ↔ (link.queue side.peer).length = 8 :=
        ⟨fun h => Nat.le_antisymm (hlength side.peer) h, fun h => Nat.le_of_eq h.symm⟩
      simp only [hgone, hfull] at hresult
      exact hresult
    · intro hfailed
      rcases send_ends side frame link now with ⟨fault, time', hsend⟩ | ⟨_, hsend⟩
      · show (send side frame link now).2.1 = link
        rw [hsend]
      · refine absurd ?_ hfailed
        show (send side frame link now).1 = .ok ()
        rw [hsend]
  · intro side hside
    constructor
    · intro hpeer timeout
      have hopen : link.closed = false := by
        rw [link.closed_eq side, (hheld side).mpr hside, (hheld side.peer).mpr hpeer]
        rfl
      rcases receive_ends side timeout link now with
        ⟨frame, rest, _, hreceive⟩ | ⟨_, time', hreceive⟩
      · rw [hreceive]
        nofun
      · rw [hreceive, hopen]
        nofun
    · intro hpeer later i result hresult
      exact receipts_of_peer_dropped later now ((hgone side.peer).mpr hpeer) hresult

/-- Three frames are sent from the `hl` end, one of them is received, and the `hl` end is
dropped: the `rt` end sends nothing any more, receives the two that are left, and then
finds itself disconnected.  With both ends held and eight frames queued, the ninth is
refused and nobody is disconnected. -/
theorem delivers_in_order_after_drop :
    let uses : List Use :=
      [.send .hl [1], .send .hl [2, 3], .receive .rt 0, .send .hl [4], .drop .hl]
    let left := (run uses {} {}).2
    let receipts := (run [.receive .rt 5, .receive .rt 5, .send .rt [7], .receive .rt 5]
      left.1 left.2).1.flatMap (Event.receipts .rt)
    let full := (run (List.replicate 8 (.send .rt [9])) {} {}).2
    (send .rt [7] left.1 left.2).1 = .error .disconnected ∧
    (send .rt [7] left.1 left.2).2.1 = left.1 ∧
    receipts[0]? = some (.ok (some [2, 3])) ∧ receipts[1]? = some (.ok (some [4])) ∧
    receipts[2]? = some (.error .disconnected) ∧
    (send .rt [10] full.1 full.2).1 = .error .queueFull ∧
    (receive .rt 5 full.1 full.2).1 ≠ .error .disconnected := by
  intro uses left receipts full
  obtain ⟨_, _, hsend, hreceive⟩ := delivers_in_order {} uses
  obtain ⟨_, _, hsendFull, hreceiveFull⟩ :=
    delivers_in_order {} (List.replicate 8 (.send .rt [9]))
  have hkept : Use.drop .rt ∉ uses := by decide
  have hgone : Use.drop .hl ∈ uses := by decide
  have hreceipt (i : Nat) (result : Except ChannelFault (Option Bytes))
      (h : receipts[i]? = some result) := (hreceive .rt hkept).2 hgone _ i result h
  have hrefused : (send .rt [7] left.1 left.2).1 = .error .disconnected :=
    (hsend .rt [7] hkept).1
  refine ⟨hrefused, (hsend .rt [7] hkept).2 (by rw [hrefused]; nofun), ?_, ?_, ?_,
    (hsendFull .rt [10] (by decide)).1, (hreceiveFull .rt (by decide)).1 (by decide) 5⟩
  · exact congrArg some (hreceipt 0 _ rfl)
  · exact congrArg some (hreceipt 1 _ rfl)
  · exact congrArg some (hreceipt 2 _ rfl)

end Loopback
end BlockBridge

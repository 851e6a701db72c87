import BlockBridge.Proofs.Channel.Overflow
import BlockBridge.Proofs.Request

/-!
# What goes over the loopback

The frames of a bridge, told by the requests they are about: the requests that
the server has carried out, those that it has yet to receive, and the replies
that the client has yet to receive.  A frame carries no number, so the numbers
here are on no wire: they are kept beside the run to say which request a reply
belongs to.

What matters to the client is what it has yet to hear of (`Traffic.onTheWay`).
A request that is served goes from those waiting to the replies and changes
nothing about that; a reply that is lost is missing from it.

Main statements: `Traffic.onTheWay_push`, `onTheWay_reply` and
`onTheWay_perform`, and what any number of the server's turns do
(`Traffic.Serves`, `Traffic.Serves.trans`).
-/

namespace BlockBridge

/-- What has gone over a loopback and what is still on its way. -/
structure Traffic where
  /-- The requests that the server has carried out, oldest first. -/
  served : List Request := []
  /-- The requests on their way to the server. -/
  waiting : List Request := []
  /-- The replies on their way to the client, by what they report. -/
  replied : List Exchange := []

namespace Traffic

variable {δ ε : Type}

/-- All requests that were sent, oldest first. -/
def requests (traffic : Traffic) : List Request := traffic.served ++ traffic.waiting

/-- The exchanges that the client has yet to hear of: those reported by the
replies on their way, then those that the server will make of the requests on
theirs. -/
def onTheWay (kind : Device δ ε) (start : δ) (traffic : Traffic) : List Exchange :=
  traffic.replied ++
    Request.transcript kind traffic.served.length traffic.waiting
      (Request.carryOut kind traffic.served start)

/-- The exchange that a request will lead to, once everything before it is carried out. -/
def exchange (kind : Device δ ε) (start : δ) (traffic : Traffic) (request : Request) : Exchange :=
  ⟨traffic.requests.length, request,
    (request.execute kind (Request.carryOut kind traffic.requests start)).1⟩

/-- The traffic with one more request. -/
def push (request : Request) (traffic : Traffic) : Traffic :=
  { traffic with waiting := traffic.waiting ++ [request] }

theorem length_onTheWay (kind : Device δ ε) (start : δ) (traffic : Traffic) :
    (traffic.onTheWay kind start).length = traffic.replied.length + traffic.waiting.length := by
  rw [onTheWay, List.length_append, Request.length_transcript]

theorem requests_push (request : Request) (traffic : Traffic) :
    (traffic.push request).requests = traffic.requests ++ [request] :=
  (List.append_assoc ..).symm

/-- One more request puts its exchange behind the others. -/
theorem onTheWay_push (kind : Device δ ε) (start : δ) (request : Request) (traffic : Traffic) :
    (traffic.push request).onTheWay kind start =
      traffic.onTheWay kind start ++ [traffic.exchange kind start request] := by
  have hnumber : traffic.requests.length = traffic.served.length + traffic.waiting.length :=
    List.length_append
  have hdevice : Request.carryOut kind traffic.requests start =
      Request.carryOut kind traffic.waiting (Request.carryOut kind traffic.served start) :=
    Request.carryOut_append kind traffic.served traffic.waiting start
  simp only [onTheWay, push, Request.transcript_append, List.append_assoc]
  rw [exchange, hnumber, hdevice]
  rfl

/-! ## The server's turns -/

/-- The exchange that the server makes of the request it serves next. -/
def made (kind : Device δ ε) (start : δ) (request : Request) (traffic : Traffic) : Exchange :=
  ⟨traffic.served.length, request,
    (request.execute kind (Request.carryOut kind traffic.served start)).1⟩

/-- The traffic once the first request that waits is carried out. -/
def perform (request : Request) (rest : List Request) (traffic : Traffic) : Traffic :=
  { traffic with served := traffic.served ++ [request], waiting := rest }

/-- The traffic with one more reply. -/
def reply (exchange : Exchange) (traffic : Traffic) : Traffic :=
  { traffic with replied := traffic.replied ++ [exchange] }

theorem transcript_perform (kind : Device δ ε) (start : δ) (request : Request)
    (rest : List Request) (traffic : Traffic) :
    Request.transcript kind 0 (traffic.perform request rest).served start =
      Request.transcript kind 0 traffic.served start ++ [traffic.made kind start request] := by
  rw [perform, Request.transcript_append, Nat.zero_add]
  rfl

section Waiting

variable {traffic : Traffic} {request : Request} {rest : List Request}

theorem requests_perform (hwaiting : traffic.waiting = request :: rest) :
    (traffic.perform request rest).requests = traffic.requests := by
  rw [requests, requests, hwaiting, perform, List.append_assoc]
  rfl

/-- The exchange of the request that is served next comes right after the replies. -/
theorem onTheWay_of_waiting (kind : Device δ ε) (start : δ)
    (hwaiting : traffic.waiting = request :: rest) :
    traffic.onTheWay kind start =
      traffic.replied ++ traffic.made kind start request ::
        Request.transcript kind (traffic.served ++ [request]).length rest
          (Request.carryOut kind (traffic.served ++ [request]) start) := by
  rw [onTheWay, hwaiting, Request.carryOut_append, List.length_append]
  rfl

/-- So what is on its way stays the same when its reply is sent. -/
theorem onTheWay_reply (kind : Device δ ε) (start : δ)
    (hwaiting : traffic.waiting = request :: rest) :
    ((traffic.perform request rest).reply (traffic.made kind start request)).onTheWay kind start =
      traffic.onTheWay kind start := by
  rw [onTheWay_of_waiting kind start hwaiting]
  exact List.append_assoc ..

/-- And it is missing when the reply is lost. -/
theorem onTheWay_perform (kind : Device δ ε) (start : δ)
    (hwaiting : traffic.waiting = request :: rest) :
    ((traffic.perform request rest).onTheWay kind start).Sublist
      (traffic.onTheWay kind start) := by
  rw [onTheWay_of_waiting kind start hwaiting]
  exact (List.Sublist.refl _).append (List.sublist_cons_self _ _)

end Waiting

/-- What the server's turns do to the traffic and to the journal. -/
structure Serves (kind : Device δ ε) (start : δ) (before after : Traffic)
    (time time' : Timeline) : Prop where
  requests : after.requests = before.requests
  served : before.served.length ≤ after.served.length
  onTheWay : (after.onTheWay kind start).Sublist (before.onTheWay kind start)
  /-- The client's end has no part in it. -/
  hl : Loopback.overflows .hl time' = Loopback.overflows .hl time
  rt : Loopback.overflows .rt time ≤ Loopback.overflows .rt time'
  /-- Without an overflow nothing is lost. -/
  lossless : Loopback.overflows .rt time' = Loopback.overflows .rt time →
    after.onTheWay kind start = before.onTheWay kind start
  /-- There is no overflow when all that is on its way has room in one queue. -/
  roomy : (before.onTheWay kind start).length ≤ Loopback.depth →
    Loopback.overflows .rt time' = Loopback.overflows .rt time

variable {kind : Device δ ε} {start : δ}

theorem Serves.of_overflows_eq (traffic : Traffic) {time time' : Timeline}
    (h : ∀ side, Loopback.overflows side time' = Loopback.overflows side time) :
    Serves kind start traffic traffic time time' where
  requests := rfl
  served := Nat.le_refl _
  onTheWay := List.Sublist.refl _
  hl := h .hl
  rt := Nat.le_of_eq (h .rt).symm
  lossless _ := rfl
  roomy _ := h .rt

/-- The next request is served, and its reply sent. -/
theorem Serves.reply {traffic : Traffic} {request : Request} {rest : List Request}
    (hwaiting : traffic.waiting = request :: rest) {time time' : Timeline}
    (h : ∀ side, Loopback.overflows side time' = Loopback.overflows side time) :
    Serves kind start traffic
      ((traffic.perform request rest).reply (traffic.made kind start request)) time time' where
  requests := requests_perform hwaiting
  served := by
    show traffic.served.length ≤ (traffic.served ++ [request]).length
    rw [List.length_append]
    omega
  onTheWay := by
    simp only [onTheWay_reply kind start hwaiting, List.Sublist.refl]
  hl := h .hl
  rt := Nat.le_of_eq (h .rt).symm
  lossless _ := onTheWay_reply kind start hwaiting
  roomy _ := h .rt

/-- The next request is served, and its reply lost for want of room. -/
theorem Serves.lose {traffic : Traffic} {request : Request} {rest : List Request}
    (hwaiting : traffic.waiting = request :: rest) {time time' : Timeline}
    (hfull : Loopback.depth ≤ traffic.replied.length)
    (hhl : Loopback.overflows .hl time' = Loopback.overflows .hl time)
    (hrt : Loopback.overflows .rt time' = Loopback.overflows .rt time + 1) :
    Serves kind start traffic (traffic.perform request rest) time time' where
  requests := requests_perform hwaiting
  served := by
    show traffic.served.length ≤ (traffic.served ++ [request]).length
    rw [List.length_append]
    omega
  onTheWay := onTheWay_perform kind start hwaiting
  hl := hhl
  rt := by omega
  lossless hsame := by omega
  roomy hroom := by
    -- A full queue and one more frame are more than there is room for.
    rw [length_onTheWay, hwaiting, List.length_cons] at hroom
    omega

theorem Serves.trans {first second third : Traffic} {time time' time'' : Timeline}
    (h : Serves kind start first second time time')
    (h' : Serves kind start second third time' time'') :
    Serves kind start first third time time'' where
  requests := h'.requests.trans h.requests
  served := Nat.le_trans h.served h'.served
  onTheWay := h'.onTheWay.trans h.onTheWay
  hl := h'.hl.trans h.hl
  rt := Nat.le_trans h.rt h'.rt
  lossless hsame := by
    have hle := h.rt
    have hle' := h'.rt
    have hfirst : Loopback.overflows .rt time' = Loopback.overflows .rt time := by omega
    have hsecond : Loopback.overflows .rt time'' = Loopback.overflows .rt time' := by omega
    exact (h'.lossless hsecond).trans (h.lossless hfirst)
  roomy hroom := by
    have hfirst := h.roomy hroom
    have hroom' : (second.onTheWay kind start).length ≤ Loopback.depth := by
      rw [h.lossless hfirst]
      exact hroom
    exact (h'.roomy hroom').trans hfirst

end Traffic
end BlockBridge

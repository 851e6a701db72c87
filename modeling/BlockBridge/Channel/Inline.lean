import BlockBridge.Server.Service

/-!
# A server at the other end of the line

Over an inline channel every request that is sent is served at once, and the
reply waits to be received.  A plan says what becomes of the next requests and
their replies: on an unreliable line they may be lost, held back, doubled,
damaged or sent back.
-/

namespace BlockBridge

/-- What becomes of a request and its reply. -/
inductive Fate where
  /-- The request is served and its reply queued. -/
  | ok
  /-- Sending fails. -/
  | refuse (fault : ChannelFault)
  /-- The request never gets there. -/
  | loseRequest
  /-- The reply never gets here. -/
  | loseReply
  /-- The reply is held back until it is released. -/
  | hold
  /-- The reply is queued twice. -/
  | duplicate
  /-- The reply's first byte is damaged. -/
  | corrupt
  /-- The reply is cut short. -/
  | cut
  /-- The request itself comes back, and then the reply. -/
  | echo
  deriving DecidableEq

namespace Fate

/-- Length of a reply that is cut short. -/
def cutLength : Nat := 8

/-- The first byte of a reply that is damaged. -/
def damagedTag : UInt8 := 0xff

/-- The frames that are queued for a reply to a request, in order. -/
def queued (request reply : Bytes) : Fate → List Bytes
  | ok => [reply]
  | refuse _ | loseRequest | loseReply | hold => []
  | duplicate => [reply, reply]
  | corrupt => [damagedTag :: reply.drop 1]
  | cut => [reply.take cutLength]
  | echo => [request, reply]

end Fate

/-- The state of an inline channel to a server over a device with state `δ`. -/
structure Inline (δ : Type) where
  server : Server δ
  /-- The frames that wait to be received. -/
  replies : List Bytes := []
  /-- What becomes of the next requests; beyond the list all is well. -/
  plan : List Fate := []
  /-- The replies held back. -/
  parked : List Bytes := []
  /-- The requests accepted so far, oldest first. -/
  sent : List Bytes := []

namespace Inline

variable {δ ε : Type}

/-- Have a request served, and queue what comes of it. -/
def serve (kind : Device δ ε) (fate : Fate) (request : Bytes) (line : Inline δ)
    (time : Timeline) : Inline δ × Timeline :=
  let (reply, server, notes) := line.server.handleFrame kind request
  let served := { line with server }
  let time := time.note Server.logTarget notes
  match reply with
  | none => (served, time)
  | some reply =>
    -- A reply that is held back stays apart, and keeps its place among its like.
    if fate = .hold then ({ served with parked := served.parked ++ [reply] }, time)
    else ({ served with replies := served.replies ++ fate.queued request reply }, time)

/-- Send a request; the plan says what becomes of it. -/
def send (kind : Device δ ε) (request : Bytes) (line : Inline δ) (time : Timeline) :
    Channel.Result (Inline δ) Unit :=
  let fate := line.plan.headD .ok
  let planned := { line with plan := line.plan.tail }
  let accepted := { planned with sent := planned.sent ++ [request] }
  match fate with
  | .refuse fault => (.error fault, planned, time)
  | .loseRequest => (.ok (), accepted, time)
  | fate =>
    let (line, time) := accepted.serve kind fate request time
    (.ok (), line, time)

/-- Receive the next frame that waits; with none waiting, all the time allowed passes. -/
def receive (timeout : Nat) (line : Inline δ) (time : Timeline) :
    Channel.Result (Inline δ) (Option Bytes) :=
  match line.replies with
  | [] => (.ok none, line, time.sleep timeout)
  | frame :: rest => (.ok (some frame), { line with replies := rest }, time)

/-- Queue the replies that were held back. -/
def release (line : Inline δ) : Inline δ :=
  { line with replies := line.replies ++ line.parked, parked := [] }

/-- Queue a frame that no server sent. -/
def inject (frame : Bytes) (line : Inline δ) : Inline δ :=
  { line with replies := line.replies ++ [frame] }

theorem receive_of_nil {line : Inline δ} (hempty : line.replies = []) (timeout : Nat)
    (time : Timeline) : receive timeout line time = (.ok none, line, time.sleep timeout) := by
  simp [receive, hempty]

theorem receive_of_cons {line : Inline δ} {frame : Bytes} {rest : List Bytes}
    (hnext : line.replies = frame :: rest) (timeout : Nat) (time : Timeline) :
    receive timeout line time = (.ok (some frame), { line with replies := rest }, time) := by
  simp [receive, hnext]

/-- An inline line as a channel. -/
def channel (kind : Device δ ε) : Channel (Inline δ) where
  send := send kind
  receive := receive
  backlog line := line.replies.length
  backlog_lt {timeout line line' time time' frame} h := by
    cases hnext : line.replies with
    | nil => simp [receive_of_nil hnext] at h
    | cons first rest =>
      rw [receive_of_cons hnext] at h
      simp only [Prod.mk.injEq] at h
      obtain ⟨_, rfl, _⟩ := h
      exact Nat.lt_succ_self rest.length
  idle {timeout line line' time time'} h := by
    cases hnext : line.replies with
    | nil =>
      rw [receive_of_nil hnext] at h
      simp only [Prod.mk.injEq, true_and] at h
      obtain ⟨rfl, rfl⟩ := h
      exact .inr ⟨Nat.le_of_eq (congrArg List.length hnext), Nat.le_refl _⟩
    | cons first rest => simp [receive_of_cons hnext] at h

end Inline
end BlockBridge

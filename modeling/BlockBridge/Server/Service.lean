import BlockBridge.Channel
import BlockBridge.Server

/-!
# Serving a channel

A service is a server at its end of a channel.  It serves frame by frame: the
next one is not received before the reply to the last has been sent.  A run
goes on until the stop flag is set or the other end is gone; any other failure
of the channel ends it with that fault.
-/

namespace BlockBridge

/-- A server, the channel it serves, and the clock. -/
structure Service (δ σ : Type) where
  server : Server δ
  channel : σ
  time : Timeline

namespace Service

variable {δ ε σ : Type}

/-- Record what the server has to say. -/
def note (notes : List Note) (service : Service δ σ) : Service δ σ :=
  { service with time := service.time.note Server.logTarget notes }

/-- Serve at most one frame, and say whether there was one. -/
def serveNext (kind : Device δ ε) (channel : Channel σ) (timeout : Nat)
    (service : Service δ σ) : Except Fault Bool × Service δ σ :=
  match channel.receive timeout service.channel service.time with
  | (.error fault, state, time) =>
    (.error (.channel fault), { service with channel := state, time })
  | (.ok none, state, time) => (.ok false, { service with channel := state, time })
  | (.ok (some frame), state, time) =>
    match service.server.handleFrame kind frame with
    | (none, server, notes) =>
      (.ok true, { server, channel := state, time := time.note Server.logTarget notes })
    | (some reply, server, notes) =>
      match channel.send reply state (time.note Server.logTarget notes) with
      | (.error fault, state, time) => (.error (.channel fault), { server, channel := state, time })
      | (.ok (), state, time) => (.ok true, { server, channel := state, time })

theorem work_serveNext_lt {kind : Device δ ε} {feed : Feed σ} {service service' : Service δ σ}
    {received : Bool} (hstopped : feed.stopped service.channel = false)
    (h : service.serveNext kind feed.toChannel servePoll = (.ok received, service')) :
    feed.work service'.channel < feed.work service.channel := by
  unfold serveNext at h
  split at h
  · simp at h
  · rename_i state time hreceive
    simp only [Prod.mk.injEq] at h
    obtain ⟨_, rfl⟩ := h
    exact feed.work_lt hstopped hreceive
  · rename_i frame state time hreceive
    have hlt := feed.work_lt hstopped hreceive
    split at h
    · simp only [Prod.mk.injEq] at h
      obtain ⟨_, rfl⟩ := h
      exact hlt
    · split at h
      · simp at h
      · rename_i reply server notes _ _ state' time' hsend
        simp only [Prod.mk.injEq] at h
        obtain ⟨_, rfl⟩ := h
        have hle := feed.work_send_le reply state (time.note Server.logTarget notes)
        rw [hsend] at hle
        exact Nat.lt_of_le_of_lt hle hlt

/-- Serve until the stop flag is set or the other end is gone. -/
def serveAll (kind : Device δ ε) (feed : Feed σ) (service : Service δ σ) :
    Except Fault Unit × Service δ σ :=
  if _ : feed.stopped service.channel = false then
    match _ : service.serveNext kind feed.toChannel servePoll with
    | (.ok _, service') => serveAll kind feed service'
    | (.error (.channel .disconnected), service') =>
      (.ok (), service'.note [.info "server: peer disconnected"])
    | (.error fault, service') => (.error fault, service')
  else (.ok (), service)
termination_by feed.work service.channel
decreasing_by exact work_serveNext_lt ‹_› ‹_›

/-- Record that a run begins. -/
def begin (kind : Device δ ε) (service : Service δ σ) : Service δ σ :=
  let size := kind.blockCount service.server.device
  service.note [.info s!"server: serving {size} blocks of {blockSize} bytes"]

/-- Record that a run has ended without a fault. -/
def finish (service : Service δ σ) : Service δ σ :=
  let stats := service.server.stats
  service.note [.info s!"server: stopped after {stats.reads} reads, {stats.writes} writes"]

/-- Serve from start to end, and record both. -/
def run (kind : Device δ ε) (feed : Feed σ) (service : Service δ σ) :
    Except Fault Unit × Service δ σ :=
  match (service.begin kind).serveAll kind feed with
  | (.error fault, ended) => (.error fault, ended)
  | (.ok (), ended) => (.ok (), ended.finish)

end Service
end BlockBridge

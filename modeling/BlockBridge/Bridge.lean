import BlockBridge.Channel.Attended
import BlockBridge.Channel.Drain
import BlockBridge.Client.Session

/-!
# Both sides of a bridge

A bridge is a client and a server in one process, at the two ends of one
loopback.  Its state is the session of the client, whose channel is a loopback
with its server; so whatever a session can do, a bridge can do.  To this come
the steps of the server and the dropping of an end.

The client's steps and the server's may come in any order.  Inside a wait the
server gets the turns that the bridge has been given in advance.

A step of the server leaves the client as it is (`Bridge.client_serveNext`).
-/

namespace BlockBridge

/-- A client and a server at the two ends of a loopback. -/
abbrev Bridge (δ : Type) : Type := Session (Attended δ)

namespace Bridge

variable {δ ε : Type}

/-- A bridge to a device, over which nothing has been sent yet. -/
def ofConfig (config : Config) (device : δ) (time : Timeline) : Bridge δ where
  client := .ofConfig config
  channel := { server := { device, traceBlocks := config.traceBlocks } }
  time

/-- The serving side. -/
def server (bridge : Bridge δ) : Server δ := bridge.channel.server

/-- The loopback between the two sides. -/
def link (bridge : Bridge δ) : Loopback := bridge.channel.link

/-- The bridge with a server in another state. -/
def withServer (bridge : Bridge δ) (server : Server δ) : Bridge δ :=
  { bridge with channel := { bridge.channel with server } }

/-- Give the server turns: so many frames before each of the client's next receives. -/
def schedule (turns : List Nat) (bridge : Bridge δ) : Bridge δ :=
  { bridge with channel := { bridge.channel with turns } }

/-- Let the server serve at most one frame, and say whether there was one. -/
def serveNext (kind : Device δ ε) (timeout : Nat) (bridge : Bridge δ) :
    Except Fault Bool × Bridge δ :=
  let served := bridge.channel.serveNext kind timeout bridge.time
  (served.1, { bridge with channel := served.2.1, time := served.2.2 })

/-- Drop an end of the loopback. -/
def drop (side : Loopback.End) (bridge : Bridge δ) : Bridge δ :=
  let dropped := bridge.link.drop side bridge.time
  { bridge with channel := { bridge.channel with link := dropped.1 }, time := dropped.2 }

/-- The server at its end of the loopback, with the stop flag as given. -/
def service (stopped : Bool) (bridge : Bridge δ) : Service δ Drain where
  server := bridge.server
  channel := { link := bridge.link, stopped }
  time := bridge.time

/-- The bridge after its server has done something at its end of the loopback. -/
def resume (service : Service δ Drain) (bridge : Bridge δ) : Bridge δ where
  client := bridge.client
  channel := { bridge.channel with server := service.server, link := service.channel.link }
  time := service.time

/-- Let the server run until no request is left, unless the stop flag is set already. -/
def run (kind : Device δ ε) (stopped : Bool) (bridge : Bridge δ) :
    Except Fault Unit × Bridge δ :=
  let served := (bridge.service stopped).run kind Drain.feed
  (served.1, bridge.resume served.2)

theorem client_serveNext (kind : Device δ ε) (timeout : Nat) (bridge : Bridge δ) :
    (bridge.serveNext kind timeout).2.client = bridge.client := rfl

end Bridge
end BlockBridge

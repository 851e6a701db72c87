import BlockBridge.Counters
import BlockBridge.Device
import BlockBridge.HexDump
import BlockBridge.Journal
import BlockBridge.Message.Frame

/-!
# The serving side

The server owns a device and answers requests, one at a time.  A request for a
block beyond the medium never reaches the device.  Whatever goes wrong with the
device, the other side learns no more than a result code.

Frames that are no message, and results, which are not the server's to answer,
are counted and get no reply.
-/

namespace BlockBridge

/-- The code of a write that succeeded. -/
def resultOk : ResultCode := 0

/-- The code of a request that the device failed. -/
def resultIoError : ResultCode := -1

/-- The code of a request for a block beyond the medium. -/
def resultOutOfRange : ResultCode := -2

/-- The state of the serving side, over a device with state `δ`. -/
structure Server (δ : Type) where
  device : δ
  /-- Whether the data of every block read or written is noted. -/
  traceBlocks : Bool := false
  stats : ServerCounters := {}

/-- A reply, if there is one, what the server is afterwards, and what it has to say. -/
abbrev Server.Reply (δ α : Type) : Type := Option α × Server δ × List Note

namespace Server

variable {δ ε : Type}

/-- The name of the part that these records come from. -/
def logTarget : String := "sdbridge::protocol::server"

/-- A note that shows a block's data, if the server is asked to make them. -/
def dump (server : Server δ) (block : Address) (data : Block) : List Note :=
  if server.traceBlocks then [.trace (HexDump.render block data.bytes)] else []

/-- Answer a read request. -/
def read (kind : Device δ ε) (block : Address) (server : Server δ) :
    Message × Server δ × List Note :=
  let stats := { server.stats with reads := server.stats.reads + 1 }
  let size := kind.blockCount server.device
  if block.toNat < size then
    match kind.read block server.device with
    | (.ok data, device) =>
      (.readResult block data, { server with device, stats },
        .debug s!"server: READ block {block}" :: server.dump block data)
    | (.error fault, device) =>
      (.readFailed block resultIoError,
        { server with device, stats := { stats with ioFailures := stats.ioFailures + 1 } },
        [.warn s!"server: reading block {block} failed: {kind.detail fault}"])
  else
    (.readFailed block resultOutOfRange,
      { server with stats := { stats with outOfRange := stats.outOfRange + 1 } },
      [.warn s!"server: read of block {block} beyond medium ({size} blocks)"])

/-- Answer a write request. -/
def write (kind : Device δ ε) (block : Address) (data : Block) (server : Server δ) :
    Message × Server δ × List Note :=
  let stats := { server.stats with writes := server.stats.writes + 1 }
  let size := kind.blockCount server.device
  if block.toNat < size then
    -- The data is shown before it is known whether the device takes it.
    match kind.write block data server.device with
    | (.ok (), device) =>
      (.writeResult block resultOk, { server with device, stats },
        server.dump block data ++ [.debug s!"server: WRITE block {block}"])
    | (.error fault, device) =>
      (.writeResult block resultIoError,
        { server with device, stats := { stats with ioFailures := stats.ioFailures + 1 } },
        server.dump block data ++
          [.warn s!"server: writing block {block} failed: {kind.detail fault}"])
  else
    (.writeResult block resultOutOfRange,
      { server with stats := { stats with outOfRange := stats.outOfRange + 1 } },
      [.warn s!"server: write of block {block} beyond medium ({size} blocks)"])

/-- Answer a message.  Only requests get a reply. -/
def handle (kind : Device δ ε) (message : Message) (server : Server δ) : Reply δ Message :=
  match message with
  | .readRequest block =>
    let (reply, server, notes) := server.read kind block
    (some reply, server, notes)
  | .writeRequest block data =>
    let (reply, server, notes) := server.write kind block data
    (some reply, server, notes)
  | .readResult .. | .readFailed .. | .writeResult .. =>
    (none,
      { server with stats :=
        { server.stats with unexpectedDropped := server.stats.unexpectedDropped + 1 } },
      [.warn s!"server: dropping unexpected {message.kind.name} for block {message.block}"])

/-- Answer a frame with a frame. -/
def handleFrame (kind : Device δ ε) (frame : Bytes) (server : Server δ) : Reply δ Bytes :=
  match Message.decode frame with
  | .ok message =>
    let (reply, server, notes) := server.handle kind message
    (reply.map Message.encode, server, notes)
  | .error fault =>
    (none,
      { server with stats :=
        { server.stats with malformedDropped := server.stats.malformedDropped + 1 } },
      [.warn s!"server: dropping malformed frame: {fault.message}"])

end Server
end BlockBridge

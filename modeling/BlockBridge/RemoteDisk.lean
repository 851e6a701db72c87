import BlockBridge.Client.Session
import BlockBridge.Device

/-!
# Remote disks

A remote disk is a block device whose blocks lie at the other end of a
channel.  It can also be accessed in part: a span within one block is read by
reading the block, and programmed by reading the block, changing the span and
writing it back.  A span that is the whole block is written without reading.
-/

namespace BlockBridge

/-- The state of a remote disk whose channel has state `σ`. -/
structure RemoteDisk (σ : Type) where
  session : Session σ
  blockCount : UInt32

namespace RemoteDisk

variable {σ : Type}

/-- The name of the part that these records come from. -/
def logTarget : String := "sdbridge::adapters::remote_disk"

/-- A remote disk that has not been used yet. -/
def ofConfig (config : Config) (channel : σ) (time : Timeline) : RemoteDisk σ where
  session := { client := .ofConfig config, channel, time }
  blockCount := config.blockCount

/-- Read one block. -/
def read (channel : Channel σ) (block : Address) (disk : RemoteDisk σ) :
    Except Fault Block × RemoteDisk σ :=
  let (result, session) := disk.session.readBlock channel block
  (result, { disk with session })

/-- Write one block. -/
def write (channel : Channel σ) (block : Address) (data : Block) (disk : RemoteDisk σ) :
    Except Fault Unit × RemoteDisk σ :=
  let (result, session) := disk.session.writeBlock channel block data
  (result, { disk with session })

/-- Read a span of a block into a buffer of the span's length.  Unless the read
succeeds the buffer is left alone. -/
def readAt (channel : Channel σ) (block : Address) (offset : Nat) (buffer : Bytes)
    (disk : RemoteDisk σ) : Except Fault Unit × Bytes × RemoteDisk σ :=
  if offset + buffer.length ≤ blockSize then
    match disk.read channel block with
    | (.error fault, disk) => (.error fault, buffer, disk)
    | (.ok data, disk) => (.ok (), data.slice offset buffer.length, disk)
  else (.error (.request (.badLength buffer.length)), buffer, disk)

/-- Write a span of a block, and leave the rest of the block as it is. -/
def program (channel : Channel σ) (block : Address) (offset : Nat) (bytes : Bytes)
    (disk : RemoteDisk σ) : Except Fault Unit × RemoteDisk σ :=
  if h : offset + bytes.length ≤ blockSize then
    if hwhole : bytes.length = blockSize then disk.write channel block ⟨bytes, hwhole⟩
    else
      -- The rest of the block has to be known before the block can be written.
      match disk.read channel block with
      | (.error fault, disk) => (.error fault, disk)
      | (.ok data, disk) =>
        let session := disk.session
        let time := session.time.note logTarget
          [.debug s!"remote disk: program {bytes.length} bytes at {block}:{offset}"]
        { disk with session := { session with time } }.write channel block
          (data.splice offset bytes h)
  else (.error (.request (.badLength bytes.length)), disk)

/-- Remote disks as block devices. -/
def device (channel : Channel σ) : Device (RemoteDisk σ) Fault where
  blockCount disk := disk.blockCount.toNat
  read := read channel
  write := write channel
  detail := Fault.detail

end RemoteDisk
end BlockBridge

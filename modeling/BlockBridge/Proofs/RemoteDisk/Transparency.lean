import BlockBridge.Proofs.Device.RamDisk
import BlockBridge.Proofs.Session.Exchange
import BlockBridge.RemoteDisk

/-!
# Where a disk is does not matter

A disk is used one block at a time: as a whole, or a span of it.  A span is read
by reading the block and taking the span, and programmed by reading the block,
changing the span and writing the block back, unless it is all of the block.

Over a sound line a remote disk does the same as the medium at the other end, as
its server lets it be seen (`RemoteDisk.access_of_atRest`), and in the case of a RAM
disk that is the disk itself but for the names of its faults
(`RamDisk.served_access`).  Both hold of one use, whatever came before; that nothing
is left in flight carries them over to the next.

Main statement: `RemoteDisk.transparent`.
-/

namespace BlockBridge

variable {δ ε : Type}

/-! ## Uses of a disk -/

/-- One use of a block. -/
inductive Access where
  | read (buffer : Block)
  | write (data : Block)
  | erase
  /-- Read a span into a buffer of its length. -/
  | readAt (offset : Nat) (buffer : Bytes) (within : offset + buffer.length ≤ blockSize)
  /-- Write a span, and leave the rest of the block as it is. -/
  | program (offset : Nat) (bytes : Bytes) (within : offset + bytes.length ≤ blockSize)

/-- One use of a RAM disk, or a change of the disk between two uses. -/
inductive RamDisk.Step where
  | access (block : Address) (access : Access)
  | sync
  | breakBlock (block : Address)
  | mendBlock (block : Address)

namespace Device

/-- Read a span of a block: read the block, and take the span. -/
def readAt (kind : Device δ ε) (block : Address) (offset : Nat) (buffer : Bytes) (device : δ) :
    Except ε Unit × Bytes × δ :=
  match kind.read block device with
  | (.error fault, device) => (.error fault, buffer, device)
  | (.ok data, device) => (.ok (), data.slice offset buffer.length, device)

/-- Write a span of a block: write the block if the span is all of it, and
otherwise read the block, change the span and write the block back. -/
def program (kind : Device δ ε) (block : Address) (offset : Nat) (bytes : Bytes)
    (within : offset + bytes.length ≤ blockSize) (device : δ) : Except ε Unit × δ :=
  if hwhole : bytes.length = blockSize then kind.write block ⟨bytes, hwhole⟩ device
  else
    match kind.read block device with
    | (.error fault, device) => (.error fault, device)
    | (.ok data, device) => kind.write block (data.splice offset bytes within) device

/-- Use a block: how that ends, what the caller's buffer then holds, and what
becomes of the device. -/
def access (kind : Device δ ε) (block : Address) : Access → δ → Except ε Unit × Bytes × δ
  | .read buffer, device => kind.readInto block buffer.bytes device
  | .write data, device => (kind.write block data device).map id ([], ·)
  | .erase, device => (kind.erase block device).map id ([], ·)
  | .readAt offset buffer _, device => kind.readAt block offset buffer device
  | .program offset bytes within, device =>
    (kind.program block offset bytes within device).map id ([], ·)

end Device

namespace RamDisk

/-- The disk after a step. -/
def step : Step → RamDisk → RamDisk
  | .access block access, disk => (device.access block access disk).2.2
  | .sync, disk => (device.sync disk).2
  | .breakBlock block, disk => disk.breakBlock block
  | .mendBlock block, disk => disk.mendBlock block

/-- The disk after a number of steps. -/
def run (steps : List Step) (disk : RamDisk) : RamDisk :=
  steps.foldl (fun disk step => disk.step step) disk

end RamDisk

namespace RemoteDisk

/-- The medium at the other end of the line. -/
def medium (remote : RemoteDisk (Inline δ)) : δ :=
  remote.session.channel.server.device

/-- Let something happen to the medium. -/
def onMedium (change : δ → δ) (remote : RemoteDisk (Inline δ)) : RemoteDisk (Inline δ) :=
  let line := remote.session.channel
  let server := { line.server with device := change line.server.device }
  { remote with session := { remote.session with channel := { line with server } } }

/-- Use a block of a remote disk. -/
def access {σ : Type} (channel : Channel σ) (block : Address) :
    Access → RemoteDisk σ → Except Fault Unit × Bytes × RemoteDisk σ
  | .read buffer, remote => (device channel).readInto block buffer.bytes remote
  | .write data, remote => ((device channel).write block data remote).map id ([], ·)
  | .erase, remote => ((device channel).erase block remote).map id ([], ·)
  | .readAt offset buffer _, remote => remote.readAt channel block offset buffer
  | .program offset bytes _, remote => (remote.program channel block offset bytes).map id ([], ·)

/-- The remote disk after a step. -/
def step : RamDisk.Step → RemoteDisk (Inline RamDisk) → RemoteDisk (Inline RamDisk)
  | .access block access, remote =>
    (remote.access (Inline.channel RamDisk.device) block access).2.2
  | .sync, remote => ((device (Inline.channel RamDisk.device)).sync remote).2
  | .breakBlock block, remote => remote.onMedium (RamDisk.breakBlock block)
  | .mendBlock block, remote => remote.onMedium (RamDisk.mendBlock block)

/-- The remote disk after a number of steps. -/
def run (steps : List RamDisk.Step) (remote : RemoteDisk (Inline RamDisk)) :
    RemoteDisk (Inline RamDisk) :=
  steps.foldl (fun remote step => remote.step step) remote

end RemoteDisk

/-! ## A RAM disk behind a server -/

namespace RamDisk

theorem length_blocks_read (block : Address) (disk : RamDisk) :
    (disk.read block).2.blocks.length = disk.blocks.length := by
  unfold read
  split
  · rfl
  · split <;> rfl

/-- What the other side learns of a block is the same once the block was read. -/
theorem fault_read (block : Address) (disk : RamDisk) :
    device.fault block (disk.read block).2 = device.fault block disk := by
  have hcount : device.blockCount (disk.read block).2 = device.blockCount disk :=
    length_blocks_read block disk
  rw [Device.fault, hcount, Device.fault]

/-- However a block of a RAM disk is used, its server changes no more than the name
of the fault. -/
theorem served_access (block : Address) (access : Access) (disk : RamDisk) :
    device.served.access block access disk =
      ((device.access block access disk).1.mapError fun _ => device.fault block disk,
        (device.access block access disk).2) := by
  have hread := served_read block disk
  have hfault := fault_read block disk
  have hplain : device.read block disk = disk.read block := rfl
  cases access with
  | read buffer =>
    simp only [Device.access, Device.readInto, hread, hplain]
    rcases disk.read block with ⟨_ | data, after⟩
    · rfl
    · rfl
  | write data =>
    simp only [Device.access, served_write]
    rfl
  | erase =>
    have herase : device.served.erase block disk = device.served.write block .zero disk := rfl
    simp only [Device.access, herase, served_write]
    rfl
  | readAt offset buffer within =>
    simp only [Device.access, Device.readAt, hread, hplain]
    rcases disk.read block with ⟨_ | data, after⟩
    · rfl
    · rfl
  | program offset bytes within =>
    simp only [Device.access, Device.program, hread, hplain]
    split
    · rw [served_write]
      rfl
    · rcases hdone : disk.read block with ⟨_ | data, after⟩
      · rfl
      · -- The disk that is written to is the one that was read from, one read later.
        rw [hdone] at hfault
        show Prod.map id _ (device.served.write block (data.splice offset bytes within) after) = _
        rw [served_write, hfault]
        rfl

end RamDisk

/-! ## A remote disk over a sound line -/

namespace RemoteDisk

variable {remote : RemoteDisk (Inline δ)}

theorem read_of_atRest (h : remote.session.AtRest) (kind : Device δ ε) (block : Address) :
    ∃ last,
      remote.read (Inline.channel kind) block =
        ((kind.served.read block remote.medium).1, last) ∧
      last.session.AtRest ∧ last.medium = (kind.served.read block remote.medium).2 := by
  obtain ⟨session, hread, hrest, hmedium⟩ := h.readBlock kind block
  rw [read, hread]
  exact ⟨_, rfl, hrest, hmedium⟩

theorem write_of_atRest (h : remote.session.AtRest) (kind : Device δ ε) (block : Address)
    (data : Block) :
    ∃ last,
      remote.write (Inline.channel kind) block data =
        ((kind.served.write block data remote.medium).1, last) ∧
      last.session.AtRest ∧ last.medium = (kind.served.write block data remote.medium).2 := by
  obtain ⟨session, hwrite, hrest, hmedium⟩ := h.writeBlock kind block data
  rw [write, hwrite]
  exact ⟨_, rfl, hrest, hmedium⟩

/-- Using a block of a remote disk at rest is using it on the device as its server
lets it be seen, and leaves the remote disk at rest. -/
theorem access_of_atRest (h : remote.session.AtRest) (kind : Device δ ε) (block : Address)
    (access : Access) :
    let directly := kind.served.access block access remote.medium
    ∃ last,
      remote.access (Inline.channel kind) block access = (directly.1, directly.2.1, last) ∧
      last.session.AtRest ∧ last.medium = directly.2.2 := by
  obtain ⟨reader, hread, hrest, hmedium⟩ := read_of_atRest h kind block
  cases access with
  | read buffer =>
    simp only [RemoteDisk.access, Device.access, Device.readInto, device, hread]
    generalize kind.served.read block remote.medium = served at hmedium ⊢
    rcases served with ⟨_ | data, after⟩
    · exact ⟨reader, rfl, hrest, hmedium⟩
    · exact ⟨reader, rfl, hrest, hmedium⟩
  | write data =>
    obtain ⟨last, hwrite, hlast, hwritten⟩ := write_of_atRest h kind block data
    simp only [RemoteDisk.access, device, hwrite]
    exact ⟨last, rfl, hlast, hwritten⟩
  | erase =>
    obtain ⟨last, hwrite, hlast, hwritten⟩ := write_of_atRest h kind block .zero
    simp only [RemoteDisk.access, device, hwrite]
    exact ⟨last, rfl, hlast, hwritten⟩
  | readAt offset buffer within =>
    simp only [RemoteDisk.access, Device.access, RemoteDisk.readAt, Device.readAt, if_pos within,
      hread]
    generalize kind.served.read block remote.medium = served at hmedium ⊢
    rcases served with ⟨_ | data, after⟩
    · exact ⟨reader, rfl, hrest, hmedium⟩
    · exact ⟨reader, rfl, hrest, hmedium⟩
  | program offset bytes within =>
    simp only [RemoteDisk.access, Device.access, RemoteDisk.program, Device.program,
      dif_pos within]
    split
    · rename_i hwhole
      obtain ⟨last, hwrite, hlast, hwritten⟩ := write_of_atRest h kind block ⟨bytes, hwhole⟩
      rw [hwrite]
      exact ⟨last, rfl, hlast, hwritten⟩
    · simp only [hread]
      generalize kind.served.read block remote.medium = served at hmedium ⊢
      rcases served with ⟨_ | data, after⟩
      · exact ⟨reader, rfl, hrest, hmedium⟩
      · -- The note that is made before the write moves nothing else.
        obtain rfl : reader.medium = after := hmedium
        simp only
        generalize Timeline.note _ _ _ = time
        have hnoted : ({ reader with session := { reader.session with time } } :
            RemoteDisk (Inline δ)).session.AtRest :=
          ⟨hrest.idle, hrest.patient, hrest.heard, hrest.sound⟩
        obtain ⟨last, hwrite, hlast, hwritten⟩ :=
          write_of_atRest hnoted kind block (data.splice offset bytes within)
        rw [hwrite]
        exact ⟨last, rfl, hlast, hwritten⟩

/-- A step leaves the remote disk at rest, and does to the medium what the step
does to the disk itself. -/
theorem step_of_atRest {remote : RemoteDisk (Inline RamDisk)} (h : remote.session.AtRest)
    (step : RamDisk.Step) :
    (remote.step step).session.AtRest ∧ (remote.step step).medium = remote.medium.step step := by
  cases step with
  | access block access =>
    obtain ⟨last, haccess, hrest, hmedium⟩ := access_of_atRest h RamDisk.device block access
    rw [RamDisk.served_access] at hmedium
    rw [RemoteDisk.step, haccess]
    exact ⟨hrest, hmedium⟩
  | sync => exact ⟨h, rfl⟩
  | breakBlock block => exact ⟨⟨h.idle, h.patient, h.heard, h.sound⟩, rfl⟩
  | mendBlock block => exact ⟨⟨h.idle, h.patient, h.heard, h.sound⟩, rfl⟩

/-- So does a run, by induction on its steps. -/
theorem run_of_atRest {remote : RemoteDisk (Inline RamDisk)} (h : remote.session.AtRest)
    (steps : List RamDisk.Step) :
    (remote.run steps).session.AtRest ∧ (remote.run steps).medium = remote.medium.run steps := by
  induction steps generalizing remote with
  | nil => exact ⟨h, rfl⟩
  | cons step steps ih =>
    obtain ⟨hrest, hmedium⟩ := step_of_atRest h step
    have hrun := ih hrest
    rw [hmedium] at hrun
    exact hrun

/-- Let a remote disk with a usable configuration lie over a sound line at rest to a
RAM disk.  However it is used, and whatever breaks and is mended in between, the
medium is what the disk would be, had it been used itself.  Any further use of a
block succeeds exactly if it does on the disk itself, with the same bytes in the
caller's buffer and the same medium afterwards, and nothing stays in flight.  A use
that fails names its block, and tells whether the block lies beyond the medium. -/
theorem transparent (config : Config) (hvalid : config.validate = .ok ())
    (remote : RemoteDisk (Inline RamDisk))
    (htimeout : remote.session.client.timeout = config.responseTimeout)
    (hidle : remote.session.client.inFlight = 0) (hheard : remote.session.channel.replies = [])
    (hsound : remote.session.channel.plan = []) (steps : List RamDisk.Step) :
    let reached := remote.run steps
    let disk := remote.medium.run steps
    (reached.medium = disk ∧ reached.session.client.inFlight = 0) ∧
    (∀ block access,
      let remotely := reached.access (Inline.channel RamDisk.device) block access
      let directly := RamDisk.device.access block access disk
      remotely.1 = directly.1.mapError (fun _ =>
          .storage ⟨block, if block.toNat < disk.blocks.length then -1 else -2⟩) ∧
        remotely.2.1 = directly.2.1 ∧ remotely.2.2.medium = directly.2.2 ∧
        remotely.2.2.session.client.inFlight = 0) ∧
    let remotely := (device (Inline.channel RamDisk.device)).sync reached
    let directly := RamDisk.device.sync disk
    remotely.1 = .ok () ∧ directly.1 = .ok () ∧ remotely.2.medium = directly.2 ∧
      remotely.2.session.client.inFlight = 0 := by
  intro reached disk
  -- A usable configuration allows some time for a result.
  have hpositive : 0 < config.responseTimeoutMs := by
    have hmeets := (config.validate_eq_ok_iff.mp hvalid) .timeoutPositive (by decide)
    exact of_decide_eq_true hmeets
  have hpatient : 0 < remote.session.client.timeout := by
    have hms : 0 < config.responseTimeoutMs.toNat := UInt32.lt_iff_toNat_lt.mp hpositive
    rw [htimeout, Config.responseTimeout]
    omega
  obtain ⟨hrest, hmedium⟩ := run_of_atRest ⟨hidle, hpatient, hheard, hsound⟩ steps
  refine ⟨⟨hmedium, hrest.idle⟩, ?_, rfl, rfl, hmedium, hrest.idle⟩
  intro block access
  obtain ⟨last, haccess, hlast, hafter⟩ := access_of_atRest hrest RamDisk.device block access
  rw [RamDisk.served_access, hmedium] at haccess hafter
  simp only [reached, haccess]
  exact ⟨rfl, rfl, hafter, hlast.idle⟩

/-- A span of the first block is programmed; the second one is mended, erased and
broken again.  After that the span reads back with its neighbours, the second block
fails, and so does one beyond the disk, which is told apart although it is broken as
well. -/
theorem transparent_programmed_and_broken :
    let config : Config := {}
    let disk : RamDisk := { blocks := [.fill 1, .fill 2], faulty := [1, 9] }
    let line : Inline RamDisk := { server := { device := disk } }
    let remote := ofConfig config line {}
    let steps : List RamDisk.Step :=
      [.access 0 (.program 2 [7, 8] (by decide)), .mendBlock 1, .access 1 .erase, .sync,
        .breakBlock 1]
    let span : Access := .readAt 1 [0, 0, 0, 0] (by decide)
    config.validate = .ok () ∧ remote.session.client.timeout = config.responseTimeout ∧
      remote.session.client.inFlight = 0 ∧ remote.session.channel.replies = [] ∧
      remote.session.channel.plan = [] ∧
      (remote.run steps).medium.blocks[1]? = some .zero ∧
      ((remote.run steps).access (Inline.channel RamDisk.device) 0 span).1 = .ok () ∧
      ((remote.run steps).access (Inline.channel RamDisk.device) 0 span).2.1 = [1, 7, 8, 1] ∧
      ((remote.run steps).access (Inline.channel RamDisk.device) 1 (.write .zero)).1 =
        .error (.storage ⟨1, -1⟩) ∧
      ((remote.run steps).access (Inline.channel RamDisk.device) 9 (.read .zero)).1 =
        .error (.storage ⟨9, -2⟩) := by
  intro config disk line remote steps span
  have hvalid : config.validate = .ok () := config.validate_eq_ok_iff.mpr (by decide)
  obtain ⟨⟨hmedium, _⟩, haccess, _⟩ :=
    transparent config hvalid remote rfl rfl rfl rfl steps
  obtain ⟨hspan, hbuffer, _⟩ := haccess 0 span
  obtain ⟨hbroken, _⟩ := haccess 1 (.write .zero)
  obtain ⟨hbeyond, _⟩ := haccess 9 (.read .zero)
  have hrun : remote.medium.run steps =
      { blocks := [(Block.fill 1).splice 2 [7, 8] (by decide), .zero]
        faulty := [1, 9]
        reads := 1
        writes := 2 } := rfl
  have hcontents : (remote.run steps).medium.blocks[1]? = some .zero := by
    rw [hmedium, hrun]
    rfl
  rw [hrun] at hspan hbuffer hbroken hbeyond
  refine ⟨hvalid, rfl, rfl, rfl, rfl, hcontents, hspan, hbuffer.trans ?_, hbroken, hbeyond⟩
  decide

end RemoteDisk
end BlockBridge

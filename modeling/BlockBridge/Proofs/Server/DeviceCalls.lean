import BlockBridge.Proofs.Server.Frames

/-!
# What a server asks of its device

A device that is watched keeps a list of the calls that are made to it and otherwise does
the same (`Server.handleFrame_watched`).  The list says that a server calls its device once
for each request for a block on the medium, as that request asks, and not otherwise.  This
is so for one frame, whatever becomes of the call, and with it for any number of frames, as
long as the device keeps its size.

A device reads into a buffer of its caller's, and what is in the buffer after a read that
failed is anybody's guess.  So a device is also taken with its buffer (`BufferedDevice`).
Two devices that differ only in what they leave in it get the same replies from a server,
for they differ only in what their faults say (`Server.handleFrames_of_alike`).

Main statement: `Server.calls_of_frames`.
-/

namespace BlockBridge

variable {δ ε ε' : Type}

/-! ## Watched devices -/

/-- A call of a device. -/
inductive Device.Call where
  | read (block : Address)
  | write (block : Address) (data : Block)
  | erase (block : Address)
  | sync
  deriving DecidableEq

/-- A device's state and the calls that were made, oldest first. -/
structure Watched (δ : Type) where
  state : δ
  calls : List Device.Call := []

namespace Device

/-- Note a call and what it does to the state. -/
def watch {α : Type} (call : Call) (use : δ → Except ε α × δ) (watched : Watched δ) :
    Except ε α × Watched δ :=
  (use watched.state).map id fun state => { state, calls := watched.calls ++ [call] }

/-- A device that does as another one does and keeps a list of its calls. -/
def watched (kind : Device δ ε) : Device (Watched δ) ε where
  blockCount watched := kind.blockCount watched.state
  read block := watch (.read block) (kind.read block)
  write block data := watch (.write block data) (kind.write block data)
  erase block := watch (.erase block) (kind.erase block)
  sync := watch .sync kind.sync
  detail := kind.detail

/-- That a device has as many blocks after an access as before. -/
structure KeepsCount (kind : Device δ ε) : Prop where
  read : ∀ block device, kind.blockCount (kind.read block device).2 = kind.blockCount device
  write : ∀ block data device,
    kind.blockCount (kind.write block data device).2 = kind.blockCount device

/-- That two devices do the same, but for what their faults say. -/
structure Alike (kind : Device δ ε) (kind' : Device δ ε') : Prop where
  blockCount_eq : kind'.blockCount = kind.blockCount
  read_eq : ∀ block device, ∃ rename,
    kind'.read block device = (kind.read block device).map (Except.mapError rename) id
  write_eq : ∀ block data device, ∃ rename,
    kind'.write block data device = (kind.write block data device).map (Except.mapError rename) id

end Device

/-- The call that a frame asks of a device with so many blocks, if it is a request for one
of them. -/
def Bytes.call? (count : Nat) (frame : Bytes) : Option Device.Call :=
  match Message.decode frame with
  | .ok (.readRequest block) => if block.toNat < count then some (.read block) else none
  | .ok (.writeRequest block data) =>
    if block.toNat < count then some (.write block data) else none
  | .ok (.readResult ..) | .ok (.readFailed ..) | .ok (.writeResult ..) | .error _ => none

/-- No call is asked for but a read or a write of a block that is there. -/
theorem Bytes.call?_eq_some {count : Nat} {frame : Bytes} {call : Device.Call}
    (h : frame.call? count = some call) :
    ∃ block, block.toNat < count ∧ (call = .read block ∨ ∃ data, call = .write block data) := by
  unfold call? at h
  split at h
  · rename_i block _
    obtain ⟨hin, ⟨⟩⟩ := Option.ite_none_right_eq_some.mp h
    exact ⟨block, hin, .inl rfl⟩
  · rename_i block data _
    obtain ⟨hin, ⟨⟩⟩ := Option.ite_none_right_eq_some.mp h
    exact ⟨block, hin, .inr ⟨data, rfl⟩⟩
  all_goals cases h

/-! ## Devices and their buffers -/

/-- A device that reads into its caller's buffer, and says what the buffer then holds,
also after a read that failed. -/
structure BufferedDevice (δ ε : Type) where
  blockCount : δ → Nat
  read : Address → Block → δ → Except ε Unit × Block × δ
  write : Address → Block → δ → Except ε Unit × δ
  erase : Address → δ → Except ε Unit × δ
  sync : δ → Except ε Unit × δ
  detail : ε → String

namespace BufferedDevice

/-- The device as its server uses it, with a zeroed buffer for each read.  What a read that
failed left in the buffer goes with its fault. -/
def device (kind : BufferedDevice δ ε) : Device δ (ε × Option Block) where
  blockCount := kind.blockCount
  read block device :=
    match kind.read block .zero device with
    | (.ok (), data, device) => (.ok data, device)
    | (.error fault, left, device) => (.error (fault, some left), device)
  write block data device := (kind.write block data device).map (Except.mapError (·, none)) id
  erase block device := (kind.erase block device).map (Except.mapError (·, none)) id
  sync device := (kind.sync device).map (Except.mapError (·, none)) id
  detail fault := kind.detail fault.1

/-- The same device, which leaves other bytes in the buffer when a read fails. -/
def leaving (left : Address → δ → Block) (kind : BufferedDevice δ ε) : BufferedDevice δ ε :=
  { kind with
    read := fun block buffer device =>
      match kind.read block buffer device with
      | (.ok (), data, device) => (.ok (), data, device)
      | (.error fault, _, device) => (.error fault, left block device, device) }

/-- A read that fails fails for the server. -/
theorem device_read_of_error (kind : BufferedDevice δ ε) {block : Address} {device : δ} {fault : ε}
    (h : (kind.read block .zero device).1 = .error fault) :
    ∃ cause, (kind.device.read block device).1 = .error cause := by
  simp only [BufferedDevice.device]
  rcases hdone : kind.read block .zero device with ⟨_ | ⟨⟩, data, device⟩
  · exact ⟨_, rfl⟩
  · rw [hdone] at h
    cases h

/-- What is left in the buffer is the whole difference. -/
theorem alike_leaving (kind : BufferedDevice δ ε) (left : Address → δ → Block) :
    kind.device.Alike (kind.leaving left).device where
  blockCount_eq := rfl
  read_eq block device := by
    refine ⟨fun fault => (fault.1, some (left block (kind.device.read block device).2)), ?_⟩
    simp only [BufferedDevice.device, leaving]
    rcases kind.read block .zero device with ⟨fault | ⟨⟩, data, device⟩
    · rfl
    · rfl
  write_eq block data device := by
    refine ⟨id, ?_⟩
    simp only [BufferedDevice.device, leaving]
    rcases kind.write block data device with ⟨fault | ⟨⟩, device⟩
    · rfl
    · rfl

end BufferedDevice

namespace Server

/-! ## One frame -/

/-- A server whose device is watched from now on. -/
def watched (server : Server δ) : Server (Watched δ) :=
  { server with device := { state := server.device } }

/-- A server of a watched device, as it is without the list of calls. -/
def unwatched (server : Server (Watched δ)) : Server δ :=
  { server with device := server.device.state }

/-- The list of calls grows by the one that the frame asks for.  All else is as if the
device were not watched. -/
theorem handleFrame_watched (kind : Device δ ε) (frame : Bytes) (server : Server (Watched δ)) :
    let plain := server.unwatched.handleFrame kind frame
    ∃ after,
      server.handleFrame kind.watched frame = (plain.1, after, plain.2.2) ∧
      after.unwatched = plain.2.1 ∧
      after.device.calls = server.device.calls ++
        (frame.call? (kind.blockCount server.device.state)).toList := by
  have hcount : kind.watched.blockCount server.device = kind.blockCount server.device.state := rfl
  have hcount' : kind.blockCount server.unwatched.device =
      kind.blockCount server.device.state := rfl
  unfold handleFrame Bytes.call?
  cases Message.decode frame with
  | error fault => exact ⟨_, rfl, rfl, (List.append_nil _).symm⟩
  | ok message =>
    cases message with
    | readResult | readFailed | writeResult => exact ⟨_, rfl, rfl, (List.append_nil _).symm⟩
    | readRequest block =>
      simp only [handle, read, hcount, hcount']
      split
      · have hread : kind.watched.read block server.device =
            Device.watch (.read block) (kind.read block) server.device := rfl
        have hplain : kind.read block server.unwatched.device =
            kind.read block server.device.state := rfl
        rw [hread, hplain, Device.watch]
        rcases kind.read block server.device.state with ⟨_ | data, state⟩
        · exact ⟨_, rfl, rfl, rfl⟩
        · exact ⟨_, rfl, rfl, rfl⟩
      · exact ⟨_, rfl, rfl, (List.append_nil _).symm⟩
    | writeRequest block data =>
      simp only [handle, write, hcount, hcount']
      split
      · have hwrite : kind.watched.write block data server.device =
            Device.watch (.write block data) (kind.write block data) server.device := rfl
        have hplain : kind.write block data server.unwatched.device =
            kind.write block data server.device.state := rfl
        rw [hwrite, hplain, Device.watch]
        rcases kind.write block data server.device.state with ⟨_ | ⟨⟩, state⟩
        · exact ⟨_, rfl, rfl, rfl⟩
        · exact ⟨_, rfl, rfl, rfl⟩
      · exact ⟨_, rfl, rfl, (List.append_nil _).symm⟩

/-- A device keeps its size while its server deals with a frame. -/
theorem blockCount_handleFrame {kind : Device δ ε} (h : kind.KeepsCount) (frame : Bytes)
    (server : Server δ) :
    kind.blockCount (server.handleFrame kind frame).2.1.device = kind.blockCount server.device := by
  by_cases hrequest : ∃ message, Message.decode frame = .ok message ∧
      message.kind.isRequest = true
  · obtain ⟨message, hdecode, hkind⟩ := hrequest
    obtain ⟨request, rfl⟩ := Message.exists_request hkind
    obtain ⟨_, server', _, hhandle, _, _, hdevice, _⟩ := handleFrame_of_request kind hdecode server
    rw [hhandle]
    show kind.blockCount server'.device = _
    rw [hdevice]
    cases request with
    | read block =>
      have hread := h.read block server.device
      simp only [Request.execute]
      split
      · rcases hdone : kind.read block server.device with ⟨_ | data, device⟩
        · rwa [hdone] at hread
        · rwa [hdone] at hread
      · rfl
    | write block data =>
      have hwrite := h.write block data server.device
      simp only [Request.execute]
      split
      · rcases hdone : kind.write block data server.device with ⟨_ | ⟨⟩, device⟩
        · rwa [hdone] at hwrite
        · rwa [hdone] at hwrite
      · rfl
  · have hother : ∀ message, Message.decode frame = .ok message →
        message.kind.isRequest = false := fun message hdecode =>
      (Bool.not_eq_true _).mp fun hkind => hrequest ⟨message, hdecode, hkind⟩
    rw [(handleFrame_of_no_request kind server hother).2]

/-- The reply to a request whose read failed tells the block and that it failed. -/
theorem handleFrame_of_failed_read {kind : Device δ ε} {frame : Bytes} {block : Address}
    (hdecode : Message.decode frame = .ok (.readRequest block)) {server : Server δ}
    (hin : block.toNat < kind.blockCount server.device) {fault : ε}
    (hfault : (kind.read block server.device).1 = .error fault) :
    (server.handleFrame kind frame).1 = some (Message.readFailed block (-1)).encode := by
  simp only [handleFrame, hdecode, handle, read, if_pos hin]
  rcases hread : kind.read block server.device with ⟨cause | data, device⟩
  · rfl
  · rw [hread] at hfault
    cases hfault

/-- What the device's faults say reaches neither the reply nor the server. -/
theorem handleFrame_of_alike {kind : Device δ ε} {kind' : Device δ ε'} (h : kind.Alike kind')
    (frame : Bytes) (server : Server δ) :
    (server.handleFrame kind' frame).1 = (server.handleFrame kind frame).1 ∧
      (server.handleFrame kind' frame).2.1 = (server.handleFrame kind frame).2.1 := by
  unfold handleFrame
  cases Message.decode frame with
  | error fault => exact ⟨rfl, rfl⟩
  | ok message =>
    cases message with
    | readResult | readFailed | writeResult => exact ⟨rfl, rfl⟩
    | readRequest block =>
      obtain ⟨rename, hread⟩ := h.read_eq block server.device
      simp only [handle, read, h.blockCount_eq, hread]
      split
      · rcases kind.read block server.device with ⟨_ | data, device⟩
        · exact ⟨rfl, rfl⟩
        · exact ⟨rfl, rfl⟩
      · exact ⟨rfl, rfl⟩
    | writeRequest block data =>
      obtain ⟨rename, hwrite⟩ := h.write_eq block data server.device
      simp only [handle, write, h.blockCount_eq, hwrite]
      split
      · rcases kind.write block data server.device with ⟨_ | ⟨⟩, device⟩
        · exact ⟨rfl, rfl⟩
        · exact ⟨rfl, rfl⟩
      · exact ⟨rfl, rfl⟩

/-! ## Frame after frame -/

theorem blockCount_handleFrames {kind : Device δ ε} (h : kind.KeepsCount) (frames : List Bytes)
    (server : Server δ) :
    kind.blockCount (server.handleFrames kind frames).2.device =
      kind.blockCount server.device := by
  induction frames generalizing server with
  | nil => rfl
  | cons frame rest ih => exact (ih _).trans (blockCount_handleFrame h frame server)

/-- The calls of a run are those that its frames ask for, in their order. -/
theorem handleFrames_watched {kind : Device δ ε} (h : kind.KeepsCount) (frames : List Bytes)
    (server : Server (Watched δ)) :
    let plain := server.unwatched.handleFrames kind frames
    ∃ after,
      server.handleFrames kind.watched frames = (plain.1, after) ∧
      after.unwatched = plain.2 ∧
      after.device.calls = server.device.calls ++
        frames.filterMap (Bytes.call? (kind.blockCount server.device.state)) := by
  induction frames generalizing server with
  | nil => exact ⟨server, rfl, rfl, (List.append_nil _).symm⟩
  | cons frame rest ih =>
    obtain ⟨next, hframe, hnext, hcall⟩ := handleFrame_watched kind frame server
    obtain ⟨after, hrest, hafter, hcalls⟩ := ih next
    -- The frames that follow find the device as large as this one did.
    have hcount : kind.blockCount next.device.state = kind.blockCount server.device.state :=
      (congrArg (fun server => kind.blockCount server.device) hnext).trans
        (blockCount_handleFrame h frame server.unwatched)
    rw [hnext] at hrest hafter
    refine ⟨after, ?_, hafter, ?_⟩
    · simp only [handleFrames, hframe, hrest]
    · rw [hcalls, hcall, hcount, List.append_assoc, List.filterMap_cons]
      cases frame.call? (kind.blockCount server.device.state) with
      | none => rfl
      | some call => rfl

/-- Devices that differ in what their faults say get the same replies for their servers. -/
theorem handleFrames_of_alike {kind : Device δ ε} {kind' : Device δ ε'} (h : kind.Alike kind')
    (frames : List Bytes) (server : Server δ) :
    server.handleFrames kind' frames = server.handleFrames kind frames := by
  induction frames generalizing server with
  | nil => rfl
  | cons frame rest ih =>
    obtain ⟨hreply, hserver⟩ := handleFrame_of_alike h frame server
    simp only [handleFrames, hreply, hserver, ih]

/-- The calls that a server makes of a device whose size does not change are those that its
frames ask for, one for each in the order of the frames: a read or a write for each request
for a block that is there.  What a failed read left in the buffer is not sent: the reply
says no more than that the block's read failed, and other bytes left there change nothing. -/
theorem calls_of_frames (kind : BufferedDevice δ ε) (h : kind.device.KeepsCount)
    (frames : List Bytes) (server : Server δ) :
    let count := kind.blockCount server.device
    let plain := server.handleFrames kind.device frames
    let run := server.watched.handleFrames kind.device.watched frames
    run.1 = plain.1 ∧ run.2.unwatched = plain.2 ∧
    run.2.device.calls = frames.filterMap (Bytes.call? count) ∧
    (∀ call ∈ run.2.device.calls, ∃ block, block.toNat < count ∧
      (call = .read block ∨ ∃ data, call = .write block data)) ∧
    (∀ earlier frame later block fault, frames = earlier ++ frame :: later →
      Message.decode frame = .ok (.readRequest block) → block.toNat < count →
      (kind.read block .zero (server.handleFrames kind.device earlier).2.device).1 =
        .error fault →
      plain.1[earlier.length]? = some (some (Message.readFailed block (-1)).encode)) ∧
    ∀ left, server.handleFrames (kind.leaving left).device frames = plain := by
  intro count plain run
  obtain ⟨after, hrun, hafter, hcalls⟩ := handleFrames_watched h frames server.watched
  have hlist : run.2.device.calls = frames.filterMap (Bytes.call? count) := by
    show (server.watched.handleFrames kind.device.watched frames).2.device.calls = _
    rw [hrun]
    exact hcalls
  refine ⟨?_, ?_, hlist, ?_, ?_, ?_⟩
  · exact congrArg Prod.fst hrun
  · exact (congrArg (fun run => run.2.unwatched) hrun).trans hafter
  · intro call hcall
    rw [hlist] at hcall
    obtain ⟨frame, _, hasked⟩ := List.mem_filterMap.mp hcall
    exact Bytes.call?_eq_some hasked
  · rintro earlier frame later block fault rfl hdecode hin hfault
    have hsize := blockCount_handleFrames h earlier server
    obtain ⟨cause, hread⟩ := kind.device_read_of_error hfault
    show (server.handleFrames kind.device (earlier ++ frame :: later)).1[earlier.length]? = _
    rw [getElem?_handleFrames, handleFrame_of_failed_read hdecode (hsize ▸ hin) hread]
  · exact fun left => handleFrames_of_alike (kind.alike_leaving left) frames server

end Server

/-- A device of four blocks that fails every second access, and leaves a read's buffer full
of `0xee` then.  Its state is the number of accesses. -/
def BufferedDevice.flaky : BufferedDevice Nat Unit where
  blockCount _ := 4
  read block _ made :=
    if made % 2 = 0 then (.ok (), .fill block.toUInt8, made + 1)
    else (.error (), .fill 0xee, made + 1)
  write _ _ made := (if made % 2 = 0 then .ok () else .error (), made + 1)
  erase _ made := (.ok (), made + 1)
  sync made := (.ok (), made)
  detail _ := "Flaky"

/-- The second read fails and is not made again.  The frames that are no message, the result
and the request for the block beyond the device make no call. -/
theorem Server.calls_of_flaky :
    let kind := BufferedDevice.flaky
    let frames := [(Message.readRequest 3).encode, (Message.readRequest 1).encode, [1, 2, 3],
      (Message.writeResult 2 0).encode, (Message.writeRequest 2 (.fill 7)).encode,
      (Message.readRequest 4).encode, []]
    let server : Server Nat := { device := 0 }
    kind.device.KeepsCount ∧
    (server.watched.handleFrames kind.device.watched frames).2.device.calls =
      [.read 3, .read 1, .write 2 (.fill 7)] ∧
    (server.handleFrames kind.device frames).1[1]? =
      some (some (Message.readFailed 1 (-1)).encode) := by
  intro kind frames server
  have h : kind.device.KeepsCount := ⟨fun _ _ => rfl, fun _ _ _ => rfl⟩
  obtain ⟨_, _, hcalls, _, hfailed, _⟩ := calls_of_frames kind h frames server
  have hasked : frames.filterMap (Bytes.call? (kind.blockCount server.device)) =
      [.read 3, .read 1, .write 2 (.fill 7)] := by
    simp only [frames, List.filterMap_cons, Bytes.call?, Message.decode_encode]
    rfl
  have hsecond : frames = [(Message.readRequest 3).encode] ++
      (Message.readRequest 1).encode :: frames.drop 2 := rfl
  have hfault : (kind.read 1 .zero
      (server.handleFrames kind.device [(Message.readRequest 3).encode]).2.device).1 =
        .error () := by
    simp only [handleFrames, handleFrame, Message.decode_encode]
    rfl
  have hreply := hfailed _ _ _ 1 () hsecond (Message.decode_encode _) (by decide) hfault
  rw [List.length_singleton] at hreply
  exact ⟨h, hcalls.trans hasked, hreply⟩

end BlockBridge

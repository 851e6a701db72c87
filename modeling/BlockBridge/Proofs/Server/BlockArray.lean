import BlockBridge.Device.RamDisk
import BlockBridge.Proofs.Server.Frames

/-!
# A RAM disk behind its server is an array

The array is the machine that a server of a RAM disk is measured against: so many
blocks, of which some are broken, and nothing else.  It is handed the same frames, and
what it answers and which block it changes is said here without server or disk.

A RAM disk and an array show the same when they hold the same blocks and the same
ones are broken.  One frame keeps it so (`RamDisk.shows_handleFrame`), and with it
any number of them.

Main statement: `Server.handleFrames_ramDisk`.
-/

namespace BlockBridge

/-! ## The array -/

/-- So many blocks, each with its contents, and the addresses that are broken. -/
structure BlockArray (n : Nat) where
  contents : Fin n → Block
  broken : List Address

namespace BlockArray

variable {n : Nat}

/-- The array in which one block holds other data. -/
def put (place : Fin n) (data : Block) (array : BlockArray n) : BlockArray n :=
  { array with contents := fun other => if other = place then data else array.contents other }

/-- What the array answers to a read request. -/
def read (block : Address) (array : BlockArray n) : Message :=
  if h : block.toNat < n then
    if block ∈ array.broken then .readFailed block (-1)
    else .readResult block (array.contents ⟨block.toNat, h⟩)
  else .readFailed block (-2)

/-- What the array answers to a write request, and what it is afterwards. -/
def write (block : Address) (data : Block) (array : BlockArray n) : Message × BlockArray n :=
  if h : block.toNat < n then
    if block ∈ array.broken then (.writeResult block (-1), array)
    else (.writeResult block 0, array.put ⟨block.toNat, h⟩ data)
  else (.writeResult block (-2), array)

/-- What the array answers to a frame, and what it is afterwards.  Nothing but a
request is answered or changes anything. -/
def answer (frame : Bytes) (array : BlockArray n) : Option Message × BlockArray n :=
  match Message.decode frame with
  | .ok (.readRequest block) => (some (array.read block), array)
  | .ok (.writeRequest block data) => (array.write block data).map some id
  | _ => (none, array)

/-- The answers to a list of frames, and the array after the last of them. -/
def answerAll : List Bytes → BlockArray n → List (Option Message) × BlockArray n
  | [], array => ([], array)
  | frame :: rest, array =>
    let (reply, array) := array.answer frame
    let (replies, array) := answerAll rest array
    (reply :: replies, array)

/-- A list of an array's blocks with one of them replaced is a list of the blocks
of the array in which it is replaced. -/
theorem ofFn_put (place : Fin n) (data : Block) (array : BlockArray n) :
    List.ofFn (array.put place data).contents =
      (List.ofFn array.contents).set place.val data := by
  refine List.ext_getElem (by simp) fun other _ _ => ?_
  rw [List.getElem_ofFn, List.getElem_set, List.getElem_ofFn]
  simp only [put, Fin.ext_iff, eq_comm]

theorem broken_write (block : Address) (data : Block) (array : BlockArray n) :
    (array.write block data).2.broken = array.broken := by
  unfold write
  split
  · split <;> rfl
  · rfl

/-- No frame breaks or mends a block. -/
theorem broken_answer (frame : Bytes) (array : BlockArray n) :
    (array.answer frame).2.broken = array.broken := by
  unfold answer
  split
  · rfl
  · exact broken_write _ _ array
  · rfl

theorem broken_answerAll (frames : List Bytes) (array : BlockArray n) :
    (array.answerAll frames).2.broken = array.broken := by
  induction frames generalizing array with
  | nil => rfl
  | cons frame rest ih => exact (ih _).trans (broken_answer frame array)

end BlockArray

/-! ## The disk and the array -/

namespace RamDisk

variable {n : Nat}

/-- That a disk holds the blocks of an array, and that the same ones are broken. -/
structure Shows (array : BlockArray n) (disk : RamDisk) : Prop where
  blocks_eq : disk.blocks = List.ofFn array.contents
  faulty_eq : disk.faulty = array.broken

/-- The array that a disk is. -/
def toArray (disk : RamDisk) : BlockArray disk.blocks.length where
  contents place := disk.blocks[place]
  broken := disk.faulty

theorem shows_toArray (disk : RamDisk) : disk.Shows disk.toArray where
  blocks_eq := List.ofFn_getElem.symm
  faulty_eq := rfl

section

variable {array : BlockArray n} {disk : RamDisk} (h : disk.Shows array) {block : Address}
include h

theorem Shows.length_eq : disk.blocks.length = n := by
  rw [h.blocks_eq, List.length_ofFn]

theorem Shows.read_of_broken (hbroken : block ∈ array.broken) :
    disk.read block = (.error (.broken block), disk) :=
  if_pos (h.faulty_eq ▸ hbroken)

theorem Shows.write_of_broken (hbroken : block ∈ array.broken) (data : Block) :
    disk.write block data = (.error (.broken block), disk) :=
  if_pos (h.faulty_eq ▸ hbroken)

/-- A block that is not broken is read as the array has it, and the disk shows what
it showed. -/
theorem Shows.reads (hin : block.toNat < n) (hsound : block ∉ array.broken) :
    ∃ disk', disk.read block = (.ok (array.contents ⟨block.toNat, hin⟩), disk') ∧
      disk'.Shows array := by
  rw [← h.faulty_eq] at hsound
  have hcontents : disk.contents block = some (array.contents ⟨block.toNat, hin⟩) := by
    rw [contents, h.blocks_eq, List.getElem?_ofFn, dif_pos hin]
  refine ⟨{ disk with reads := disk.reads + 1 }, ?_, h.blocks_eq, h.faulty_eq⟩
  rw [read, if_neg hsound, hcontents]

/-- A block that is not broken is written, and the disk shows the array with that
block replaced. -/
theorem Shows.writes (hin : block.toNat < n) (hsound : block ∉ array.broken) (data : Block) :
    ∃ disk', disk.write block data = (.ok (), disk') ∧
      disk'.Shows (array.put ⟨block.toNat, hin⟩ data) := by
  have hlength : block.toNat < disk.blocks.length := h.length_eq.symm ▸ hin
  rw [← h.faulty_eq] at hsound
  refine ⟨{ disk with
    blocks := disk.blocks.set block.toNat data
    writes := disk.writes + 1 }, ?_, ?_, h.faulty_eq⟩
  · rw [write, if_neg hsound, if_pos hlength]
  · rw [BlockArray.ofFn_put, ← h.blocks_eq]

end

/-! ## The server and the array -/

section

variable {array : BlockArray n} {server : Server RamDisk} (h : server.device.Shows array)
include h

theorem shows_serverRead (block : Address) :
    (server.read device block).1 = array.read block ∧
      (server.read device block).2.1.device.Shows array := by
  have hcount : device.blockCount server.device = n := h.length_eq
  simp only [Server.read, BlockArray.read, hcount]
  by_cases hin : block.toNat < n
  · rw [if_pos hin, dif_pos hin]
    by_cases hbroken : block ∈ array.broken
    · have hread : device.read block server.device = (.error (.broken block), server.device) :=
        h.read_of_broken hbroken
      rw [if_pos hbroken, hread]
      exact ⟨rfl, h⟩
    · obtain ⟨disk, hread, hshows⟩ := h.reads hin hbroken
      have hread : device.read block server.device = _ := hread
      rw [if_neg hbroken, hread]
      exact ⟨rfl, hshows⟩
  · rw [if_neg hin, dif_neg hin]
    exact ⟨rfl, h⟩

theorem shows_serverWrite (block : Address) (data : Block) :
    (server.write device block data).1 = (array.write block data).1 ∧
      (server.write device block data).2.1.device.Shows (array.write block data).2 := by
  have hcount : device.blockCount server.device = n := h.length_eq
  simp only [Server.write, BlockArray.write, hcount]
  by_cases hin : block.toNat < n
  · rw [if_pos hin, dif_pos hin]
    by_cases hbroken : block ∈ array.broken
    · have hwrite : device.write block data server.device =
          (.error (.broken block), server.device) := h.write_of_broken hbroken data
      rw [if_pos hbroken, hwrite]
      exact ⟨rfl, h⟩
    · obtain ⟨disk, hwrite, hshows⟩ := h.writes hin hbroken data
      have hwrite : device.write block data server.device = _ := hwrite
      rw [if_neg hbroken, hwrite]
      exact ⟨rfl, hshows⟩
  · rw [if_neg hin, dif_neg hin]
    exact ⟨rfl, h⟩

/-- Handed a frame, the server replies as the array does, and its disk shows what
the array has become. -/
theorem shows_handleFrame (frame : Bytes) :
    (server.handleFrame device frame).1 = (array.answer frame).1.map Message.encode ∧
      (server.handleFrame device frame).2.1.device.Shows (array.answer frame).2 := by
  unfold Server.handleFrame BlockArray.answer
  cases Message.decode frame with
  | error fault => exact ⟨rfl, h⟩
  | ok message =>
    cases message with
    | readRequest block =>
      obtain ⟨hreply, hshows⟩ := shows_serverRead h block
      exact ⟨congrArg (fun reply => some (Message.encode reply)) hreply, hshows⟩
    | writeRequest block data =>
      obtain ⟨hreply, hshows⟩ := shows_serverWrite h block data
      exact ⟨congrArg (fun reply => some (Message.encode reply)) hreply, hshows⟩
    | readResult | readFailed | writeResult => exact ⟨rfl, h⟩

/-- So it is with any number of frames, by induction on them. -/
theorem shows_handleFrames (frames : List Bytes) :
    (server.handleFrames device frames).1 =
        (array.answerAll frames).1.map (Option.map Message.encode) ∧
      (server.handleFrames device frames).2.device.Shows (array.answerAll frames).2 := by
  induction frames generalizing server array with
  | nil => exact ⟨rfl, h⟩
  | cons frame rest ih =>
    obtain ⟨hreply, hshows⟩ := shows_handleFrame h frame
    obtain ⟨hreplies, hend⟩ := ih hshows
    refine ⟨?_, hend⟩
    simp only [Server.handleFrames, BlockArray.answerAll, List.map_cons]
    rw [hreply, hreplies]

end

end RamDisk

/-- A server of a RAM disk is an array of the disk's blocks.  Handed any frames, it
gives the replies that the array does, and the disk ends with what the array holds,
the same blocks being broken as before.  In particular a frame has a reply if and
only if it is a request, and the reply is a result for the same block and the same
operation. -/
theorem Server.handleFrames_ramDisk (frames : List Bytes) (server : Server RamDisk) :
    (server.handleFrames RamDisk.device frames).1 =
        (server.device.toArray.answerAll frames).1.map (Option.map Message.encode) ∧
      (server.handleFrames RamDisk.device frames).2.device.blocks =
        List.ofFn (server.device.toArray.answerAll frames).2.contents ∧
      (server.handleFrames RamDisk.device frames).2.device.faulty = server.device.faulty ∧
      List.Forall₂ Server.Answers frames (server.handleFrames RamDisk.device frames).1 := by
  obtain ⟨hreplies, hshows⟩ :=
    RamDisk.shows_handleFrames (RamDisk.shows_toArray server.device) frames
  refine ⟨hreplies, hshows.blocks_eq, ?_, answers_handleFrames RamDisk.device frames server⟩
  rw [hshows.faulty_eq, BlockArray.broken_answerAll]
  rfl

/-- Of two blocks the second is broken, and there is no third. -/
example :
    ((Server.mk ⟨[.zero, .zero], [1], 0, 0⟩ false {}).handleFrames RamDisk.device
      [(Message.readRequest 1).encode, (Message.readRequest 2).encode, [9], []]).1 =
      [some (Message.readFailed 1 (-1)).encode, some (Message.readFailed 2 (-2)).encode,
        none, none] := by
  rfl

end BlockBridge

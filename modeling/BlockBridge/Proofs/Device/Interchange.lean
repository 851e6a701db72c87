import BlockBridge.Device.ImageDisk
import BlockBridge.Device.RamDisk

/-!
# Blocks in memory and blocks in a file

A RAM disk and a disk image of the same size cannot be told apart by using them: the
file of the image is the blocks of the RAM disk, one after the other, and each use keeps
it so (`ImageDisk.Mirrors.use`).  For this the place of a block in the file has to be its
place among the blocks, and writing one block must not touch its neighbours
(`Block.slice?_join`, `Block.place_join`).

Nothing about the disk is kept outside the file, so whoever opens the image again has the
disk that was there before (`ImageDisk.Mirrors.openPath`).

Main statement: `ImageDisk.interchangeable`.
-/

namespace BlockBridge

/-! ## Blocks one after the other -/

namespace Block

/-- The bytes of some blocks, one after the other. -/
def join (blocks : List Block) : Bytes :=
  blocks.flatMap Block.bytes

theorem join_cons (block : Block) (blocks : List Block) :
    join (block :: blocks) = block.bytes ++ join blocks :=
  List.flatMap_cons

theorem join_append (blocks blocks' : List Block) :
    join (blocks ++ blocks') = join blocks ++ join blocks' :=
  List.flatMap_append

theorem length_join (blocks : List Block) :
    (join blocks).length = blocks.length * blockSize := by
  induction blocks with
  | nil => simp [join]
  | cons block rest ih =>
    rw [join_cons, List.length_append, block.length_eq, ih, List.length_cons, Nat.succ_mul,
      Nat.add_comm]

/-- Zeroed blocks are zeros. -/
theorem join_replicate_zero (n : Nat) :
    join (List.replicate n .zero) = List.replicate (n * blockSize) 0 := by
  induction n with
  | zero => simp [join]
  | succ n ih =>
    have hzero : zero.bytes = List.replicate blockSize 0 := rfl
    rw [List.replicate_succ, join_cons, ih, hzero, List.replicate_append_replicate, Nat.succ_mul,
      Nat.add_comm]

/-- What lies before a block, and what lies from it on. -/
theorem split_join (blocks : List Block) {i : Nat} (h : i ≤ blocks.length) :
    (join blocks).take (i * blockSize) = join (blocks.take i) ∧
      (join blocks).drop (i * blockSize) = join (blocks.drop i) := by
  have hjoin : join blocks = join (blocks.take i) ++ join (blocks.drop i) := by
    rw [← join_append, List.take_append_drop]
  have hlength : (join (blocks.take i)).length = i * blockSize := by
    rw [length_join, List.length_take_of_le h]
  rw [hjoin]
  exact ⟨List.take_left' hlength, List.drop_left' hlength⟩

/-- Every block lies at its place. -/
theorem slice?_join {blocks : List Block} {i : Nat} (h : i < blocks.length) :
    (join blocks).slice? (i * blockSize) blockSize = some blocks[i].bytes := by
  have hfits : i * blockSize + blockSize ≤ (join blocks).length := by
    rw [length_join, ← Nat.succ_mul]
    exact Nat.mul_le_mul_right blockSize h
  rw [Bytes.slice?, if_pos hfits, (split_join blocks (Nat.le_of_lt h)).2,
    List.drop_eq_getElem_cons h, join_cons, List.take_left' blocks[i].length_eq]

/-- Writing a block at its place changes this block and no other. -/
theorem place_join {blocks : List Block} {i : Nat} (h : i < blocks.length) (data : Block) :
    (join blocks).place (i * blockSize) data.bytes = join (blocks.set i data) := by
  have hbefore : (join blocks).resize (i * blockSize) = join (blocks.take i) := by
    have hnone : i * blockSize - (join blocks).length = 0 := by
      rw [length_join]
      exact Nat.sub_eq_zero_of_le (Nat.mul_le_mul_right blockSize (Nat.le_of_lt h))
    rw [Bytes.resize, hnone, List.replicate_zero, List.append_nil,
      (split_join blocks (Nat.le_of_lt h)).1]
  have hbehind : (join blocks).drop (i * blockSize + data.bytes.length) =
      join (blocks.drop (i + 1)) := by
    rw [data.length_eq, ← Nat.succ_mul, (split_join blocks h).2]
  rw [Bytes.place, hbefore, hbehind, List.set_eq_take_append_cons_drop, if_pos h, join_append,
    join_cons, List.append_assoc]

end Block

/-- Placing bytes inside a file changes no byte elsewhere. -/
theorem Bytes.getElem?_place_of_outside {bytes source : Bytes} {offset i : Nat}
    (hfits : offset + source.length ≤ bytes.length)
    (houtside : i < offset ∨ offset + source.length ≤ i) :
    (bytes.place offset source)[i]? = bytes[i]? := by
  have hlength : (bytes.place offset source).length = bytes.length := by
    rw [length_place]
    omega
  by_cases hi : i < bytes.length
  · rw [getElem?_place (by omega), if_neg (by omega), List.getElem?_eq_getElem hi,
      Option.getD_some]
  · rw [List.getElem?_eq_none (by omega), List.getElem?_eq_none (by omega)]

/-! ## Uses of a disk -/

namespace Device

variable {δ ε : Type}

/-- One use of a block device. -/
inductive Use where
  | read (block : Address)
  | write (block : Address) (data : Block)
  | erase (block : Address)
  | sync

/-- The block that is used. -/
def Use.block? : Use → Option Address
  | read block | write block _ | erase block => some block
  | sync => none

/-- The block whose contents a use may change. -/
def Use.changed? : Use → Option Address
  | write block _ | erase block => some block
  | read _ | sync => none

/-- Use a device once: what was read, if something was to be, and the device afterwards. -/
def use (kind : Device δ ε) : Use → δ → Except ε (Option Block) × δ
  | .read block, device => (kind.read block device).map (Except.map some) id
  | .write block data, device => (kind.write block data device).map (Except.map fun _ => none) id
  | .erase block, device => (kind.erase block device).map (Except.map fun _ => none) id
  | .sync, device => (kind.sync device).map (Except.map fun _ => none) id

/-- Use a device again and again: what each use came to, and the device afterwards. -/
def useAll (kind : Device δ ε) : List Use → δ → List (Except ε (Option Block)) × δ
  | [], device => ([], device)
  | first :: rest, device =>
    let (result, device) := kind.use first device
    let (results, device) := kind.useAll rest device
    (result :: results, device)

end Device

namespace ImageDisk

/-! ## An image that mirrors a RAM disk -/

/-- That an image holds the blocks of a RAM disk, none of which is broken. -/
structure Mirrors (ram : RamDisk) (disk : ImageDisk) : Prop where
  sound : ram.faulty = []
  blockCount_eq : disk.blockCount = ram.blocks.length
  toBytes_eq : disk.image.toBytes = Block.join ram.blocks
  linked : disk.linked = true

/-- A new image mirrors a new RAM disk. -/
theorem mirrors_create {blockCount : UInt32} {ram : RamDisk}
    (h : RamDisk.create blockCount = .ok ram) : (create blockCount).Mirrors ram := by
  unfold RamDisk.create at h
  split at h
  · cases h
  · obtain rfl := Except.ok.inj h
    refine ⟨rfl, List.length_replicate.symm, ?_, rfl⟩
    rw [Block.join_replicate_zero]
    exact SparseFile.toBytes_zeros _

variable {ram : RamDisk} {disk : ImageDisk}

theorem Mirrors.length_eq (h : disk.Mirrors ram) :
    disk.image.length = blockSize * disk.blockCount := by
  rw [← SparseFile.length_toBytes, h.toBytes_eq, Block.length_join, h.blockCount_eq, Nat.mul_comm]

/-- A read gives the same on both, and leaves the image as it is. -/
theorem Mirrors.read (h : disk.Mirrors ram) (block : Address) :
    disk.read block = ((ram.read block).1, disk) ∧ disk.Mirrors (ram.read block).2 := by
  have hsound : block ∉ ram.faulty := by
    rw [h.sound]
    exact List.not_mem_nil
  unfold ImageDisk.read RamDisk.read RamDisk.contents
  rw [if_neg hsound, h.blockCount_eq]
  by_cases hin : block.toNat < ram.blocks.length
  · have hslice : disk.image.slice? (offset block) blockSize =
        some ram.blocks[block.toNat].bytes := by
      rw [SparseFile.slice?_eq_slice?_toBytes, h.toBytes_eq]
      exact Block.slice?_join hin
    rw [if_pos hin, hslice, Option.bind_some, Block.ofBytes?_bytes, List.getElem?_eq_getElem hin]
    exact ⟨rfl, h.sound, h.blockCount_eq, h.toBytes_eq, h.linked⟩
  · rw [if_neg hin, List.getElem?_eq_none (Nat.le_of_not_lt hin)]
    exact ⟨rfl, h⟩

/-- A write ends the same on both, and they hold the same blocks afterwards. -/
theorem Mirrors.write (h : disk.Mirrors ram) (block : Address) (data : Block) :
    (disk.write block data).1 = (ram.write block data).1 ∧
      (disk.write block data).2.Mirrors (ram.write block data).2 := by
  have hsound : block ∉ ram.faulty := by
    rw [h.sound]
    exact List.not_mem_nil
  unfold ImageDisk.write RamDisk.write
  rw [if_neg hsound, h.blockCount_eq]
  by_cases hin : block.toNat < ram.blocks.length
  · rw [if_pos hin, if_pos hin]
    refine ⟨rfl, h.sound, ?_, ?_, h.linked⟩
    · rw [List.length_set]
    · show (disk.image.place (offset block) data.bytes).toBytes = _
      rw [SparseFile.toBytes_place, h.toBytes_eq]
      exact Block.place_join hin data
  · rw [if_neg hin, if_neg hin]
    exact ⟨rfl, h⟩

/-- So every use gives the same on both, and they hold the same blocks afterwards. -/
theorem Mirrors.use (h : disk.Mirrors ram) (use : Device.Use) :
    (device.use use disk).1 = (RamDisk.device.use use ram).1 ∧
      (device.use use disk).2.Mirrors (RamDisk.device.use use ram).2 := by
  cases use with
  | read block =>
    obtain ⟨hread, hmirrors⟩ := h.read block
    have hread : device.read block disk = ((RamDisk.device.read block ram).1, disk) := hread
    simp only [Device.use, hread]
    exact ⟨rfl, hmirrors⟩
  | write block data =>
    obtain ⟨hresult, hmirrors⟩ := h.write block data
    exact ⟨congrArg (Except.map fun _ => none) hresult, hmirrors⟩
  | erase block =>
    -- Neither disk knows better than to write zeros.
    obtain ⟨hresult, hmirrors⟩ := h.write block .zero
    exact ⟨congrArg (Except.map fun _ => none) hresult, hmirrors⟩
  | sync => exact ⟨rfl, h⟩

/-- So do any number of them, by induction on the uses. -/
theorem Mirrors.useAll (h : disk.Mirrors ram) (uses : List Device.Use) :
    (device.useAll uses disk).1 = (RamDisk.device.useAll uses ram).1 ∧
      (device.useAll uses disk).2.Mirrors (RamDisk.device.useAll uses ram).2 := by
  induction uses generalizing ram disk with
  | nil => exact ⟨rfl, h⟩
  | cons first rest ih =>
    obtain ⟨hresult, hnext⟩ := h.use first
    obtain ⟨hresults, hend⟩ := ih hnext
    refine ⟨?_, hend⟩
    simp only [Device.useAll]
    rw [hresult, hresults]

/-! ## What a use leaves alone -/

/-- No use changes the size of a disk image. -/
theorem blockCount_use (use : Device.Use) (disk : ImageDisk) :
    (device.use use disk).2.blockCount = disk.blockCount := by
  have hwrite (block : Address) (data : Block) :
      (disk.write block data).2.blockCount = disk.blockCount := by
    unfold ImageDisk.write
    split <;> rfl
  cases use with
  | read block =>
    show (disk.read block).2.blockCount = disk.blockCount
    unfold ImageDisk.read
    split
    · split <;> rfl
    · rfl
  | write block data => exact hwrite block data
  | erase block => exact hwrite block .zero
  | sync => rfl

theorem blockCount_useAll (uses : List Device.Use) (disk : ImageDisk) :
    (device.useAll uses disk).2.blockCount = disk.blockCount := by
  induction uses generalizing disk with
  | nil => rfl
  | cons first rest ih => exact (ih _).trans (blockCount_use first disk)

/-- A use of a block beyond the disk fails on both, and leaves the image as it is. -/
theorem Mirrors.use_of_beyond (h : disk.Mirrors ram) {use : Device.Use} {block : Address}
    (hblock : use.block? = some block) (hbeyond : disk.blockCount ≤ block.toNat) :
    (RamDisk.device.use use ram).1 = .error (.outOfRange block) ∧
      device.use use disk = (.error (.outOfRange block), disk) := by
  have hread : disk.read block = (.error (.outOfRange block), disk) :=
    if_neg (Nat.not_lt_of_le hbeyond)
  have hwrite (data : Block) : disk.write block data = (.error (.outOfRange block), disk) :=
    if_neg (Nat.not_lt_of_le hbeyond)
  have hdisk : device.use use disk = (.error (.outOfRange block), disk) := by
    cases use with
    | read other =>
      obtain rfl := Option.some.inj hblock
      exact congrArg (Prod.map (Except.map some) id) hread
    | write other data =>
      obtain rfl := Option.some.inj hblock
      exact congrArg (Prod.map (Except.map fun _ => none) id) (hwrite data)
    | erase other =>
      obtain rfl := Option.some.inj hblock
      exact congrArg (Prod.map (Except.map fun _ => none) id) (hwrite .zero)
    | sync => cases hblock
  refine ⟨?_, hdisk⟩
  rw [← (h.use use).1, hdisk]

/-- A write changes no byte of the image but those of its block. -/
theorem Mirrors.getElem?_write (h : disk.Mirrors ram) {block : Address} (data : Block) {i : Nat}
    (houtside : i < blockSize * block.toNat ∨ blockSize * block.toNat + blockSize ≤ i) :
    (disk.write block data).2.image.toBytes[i]? = disk.image.toBytes[i]? := by
  have hoffset : offset block = blockSize * block.toNat := Nat.mul_comm _ _
  unfold ImageDisk.write
  by_cases hin : block.toNat < disk.blockCount
  · have hfits : offset block + data.bytes.length ≤ disk.image.toBytes.length := by
      rw [data.length_eq, SparseFile.length_toBytes, h.length_eq, hoffset, ← Nat.mul_succ]
      exact Nat.mul_le_mul_left blockSize hin
    rw [if_pos hin]
    show (disk.image.place (offset block) data.bytes).toBytes[i]? = _
    rw [SparseFile.toBytes_place, Bytes.getElem?_place_of_outside hfits]
    rwa [data.length_eq, hoffset]
  · rw [if_neg hin]

theorem Mirrors.getElem?_use (h : disk.Mirrors ram) {use : Device.Use} {i : Nat}
    (houtside : ∀ block, use.changed? = some block →
      i < blockSize * block.toNat ∨ blockSize * block.toNat + blockSize ≤ i) :
    (device.use use disk).2.image.toBytes[i]? = disk.image.toBytes[i]? := by
  cases use with
  | read block =>
    have hread : device.read block disk = ((ram.read block).1, disk) := (h.read block).1
    simp only [Device.use, hread]
    rfl
  | write block data => exact h.getElem?_write data (houtside block rfl)
  | erase block => exact h.getElem?_write .zero (houtside block rfl)
  | sync => rfl

/-! ## Opening an image again -/

/-- Whoever opens the image again has the same disk. -/
theorem Mirrors.openPath (h : disk.Mirrors ram) (hcount : disk.blockCount ≤ maxBlocks)
    (path : String) (time : Timeline) : (openPath path disk.hostFile time).1 = .ok disk := by
  have hwhole : disk.image.length % blockSize = 0 := by
    rw [h.length_eq]
    exact Nat.mul_mod_right _ _
  have hblocks : disk.image.length / blockSize = disk.blockCount := by
    rw [h.length_eq]
    exact Nat.mul_div_cancel_left _ (by decide)
  have hsame : { image := disk.image, blockCount := disk.blockCount } = disk := by
    obtain ⟨image, blockCount, linked⟩ := disk
    obtain rfl : linked = true := h.linked
    rfl
  have hopened : ofHostFile disk.hostFile = .ok disk := by
    rw [hostFile, if_pos h.linked, ofHostFile, hblocks, if_pos ⟨hwhole, hcount⟩, hsame]
  rw [ImageDisk.openPath, hopened]

/-- A RAM disk and a new image of the same size, used in the same way, give the same
results, and the image is always the blocks of the RAM disk, one after the other, without
a byte more.  At any time the image can be opened again, which gives the same disk.  From
there on, a use of a block beyond the disk fails on both in the same way and leaves the
image as it is, and no use changes a byte of the image outside the block that it writes
or erases. -/
theorem interchangeable (blockCount : UInt32) (hsize : blockCount.toNat ≤ RamDisk.maxBlocks)
    (uses : List Device.Use) :
    ∃ fresh, RamDisk.create blockCount = .ok fresh ∧
      let ram := (RamDisk.device.useAll uses fresh).2
      let disk := (device.useAll uses (create blockCount)).2
      (device.useAll uses (create blockCount)).1 = (RamDisk.device.useAll uses fresh).1 ∧
      device.blockCount disk = blockCount.toNat ∧
      RamDisk.device.blockCount ram = blockCount.toNat ∧
      disk.image.toBytes = Block.join ram.blocks ∧
      disk.image.length = blockSize * blockCount.toNat ∧
      (∀ path time, (openPath path disk.hostFile time).1 = .ok disk) ∧
      (∀ use block, use.block? = some block → blockCount.toNat ≤ block.toNat →
        (RamDisk.device.use use ram).1 = .error (.outOfRange block) ∧
          device.use use disk = (.error (.outOfRange block), disk)) ∧
      ∀ use i, (∀ block, use.changed? = some block →
          i < blockSize * block.toNat ∨ blockSize * block.toNat + blockSize ≤ i) →
        (device.use use disk).2.image.toBytes[i]? = disk.image.toBytes[i]? := by
  obtain ⟨fresh, hfresh⟩ : ∃ fresh, RamDisk.create blockCount = .ok fresh :=
    ⟨_, if_neg (Nat.not_lt_of_le hsize)⟩
  refine ⟨fresh, hfresh, ?_⟩
  intro ram disk
  obtain ⟨hresults, hmirrors⟩ := (mirrors_create hfresh).useAll uses
  have hcount : disk.blockCount = blockCount.toNat := blockCount_useAll uses (create blockCount)
  have hlimit : disk.blockCount ≤ maxBlocks := hcount ▸ Nat.le_pred_of_lt blockCount.toNat_lt
  refine ⟨hresults, hcount, hmirrors.blockCount_eq.symm.trans hcount, hmirrors.toBytes_eq,
    hcount ▸ hmirrors.length_eq, hmirrors.openPath hlimit, ?_, ?_⟩
  · intro use block hblock hbeyond
    exact hmirrors.use_of_beyond hblock (hcount ▸ hbeyond)
  · intro use i houtside
    exact hmirrors.getElem?_use houtside

/-- Of two blocks the second is written, a third one does not take its data, and the
first is erased.  The image opens as it is, and what is written next to its first block
leaves the last byte of that alone. -/
theorem interchangeable_two_blocks :
    let uses : List Device.Use := [.write 1 (.fill 7), .write 2 (.fill 9), .erase 0, .read 1, .sync]
    let disk := (device.useAll uses (create 2)).2
    (2 : UInt32).toNat ≤ RamDisk.maxBlocks ∧
      (device.useAll uses (create 2)).1 =
        [.ok none, .error (.outOfRange 2), .ok none, .ok (some (.fill 7)), .ok none] ∧
      disk.image.toBytes = Block.join [.zero, .fill 7] ∧
      (openPath "card.img" disk.hostFile {}).1 = .ok disk ∧
      device.use (.erase 2) disk = (.error (.outOfRange 2), disk) ∧
      (device.use (.write 1 (.fill 3)) disk).2.image.toBytes[511]? = some 0 := by
  intro uses disk
  have hsize : (2 : UInt32).toNat ≤ RamDisk.maxBlocks := by decide
  obtain ⟨fresh, hfresh, hresults, _, _, hbytes, _, hopened, hbeyond, houtside⟩ :=
    interchangeable 2 hsize uses
  obtain rfl : RamDisk.mk [.zero, .zero] [] 0 0 = fresh := Except.ok.inj hfresh
  have hblocks : disk.image.toBytes = Block.join [.zero, .fill 7] := hbytes
  have hkept := houtside (.write 1 (.fill 3)) 511 fun block hblock => by
    obtain rfl := Option.some.inj hblock
    exact .inl (by decide)
  have hdisk : (device.useAll uses (create 2)).2 = disk := rfl
  rw [hdisk, hblocks] at hkept
  have hfirst : 511 < Block.zero.bytes.length := by
    rw [Block.zero.length_eq]
    decide
  refine ⟨hsize, hresults, hblocks, hopened _ _, (hbeyond (.erase 2) 2 rfl (by decide)).2, ?_⟩
  rw [hkept, Block.join_cons, List.getElem?_append_left hfirst]
  exact List.getElem?_replicate_of_lt (by decide)

end ImageDisk
end BlockBridge

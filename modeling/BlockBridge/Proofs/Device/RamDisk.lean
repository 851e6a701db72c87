import BlockBridge.Device.RamDisk
import BlockBridge.Proofs.Request

/-!
# Requests to a RAM disk

A block of a RAM disk holds what was last written to it, whatever else is read
or written, and whatever fails.

Main statements: a block is the same before and after any requests that do not
write it (`RamDisk.contents_carryOut`), and a server changes no more of a RAM disk
than the names of its faults (`RamDisk.served_read`, `RamDisk.served_write`).
-/

namespace BlockBridge
namespace RamDisk

/-- A write to another block leaves a block as it is. -/
theorem contents_write_of_ne {block other : Address} (h : other ≠ block) (data : Block)
    (disk : RamDisk) : (disk.write other data).2.contents block = disk.contents block := by
  have hplace : other.toNat ≠ block.toNat := fun heq => h (UInt32.toNat_inj.mp heq)
  unfold write
  split
  · rfl
  · split
    · exact List.getElem?_set_ne hplace
    · rfl

theorem contents_read (block other : Address) (disk : RamDisk) :
    (disk.read other).2.contents block = disk.contents block := by
  unfold read
  split
  · rfl
  · split <;> rfl

/-- A disk that is not broken anywhere gives what a block holds. -/
theorem read_unbroken (disk : RamDisk) (h : disk.faulty = []) {block : Address} {data : Block}
    (hcontents : disk.contents block = some data) :
    disk.read block = (.ok data, { disk with reads := disk.reads + 1 }) := by
  rw [read, h, if_neg List.not_mem_nil, hcontents]

/-- A disk that is not broken anywhere takes every block that it has. -/
theorem write_unbroken (disk : RamDisk) (h : disk.faulty = []) {block : Address} {old : Block}
    (hcontents : disk.contents block = some old) (data : Block) :
    disk.write block data =
      (.ok (), { disk with
        blocks := disk.blocks.set block.toNat data
        writes := disk.writes + 1 }) := by
  have hin : block.toNat < disk.blocks.length := (List.getElem?_eq_some_iff.mp hcontents).1
  rw [write, h, if_neg List.not_mem_nil, if_pos hin]

/-- A request that does not write a block leaves it as it is. -/
theorem contents_execute {block : Address} {request : Request}
    (h : ∀ data, request ≠ .write block data) (disk : RamDisk) :
    (request.execute device disk).2.contents block = disk.contents block := by
  cases request with
  | read other =>
    have hread := contents_read block other disk
    simp only [Request.execute]
    split
    · rw [show device.read other disk = disk.read other from rfl]
      split
      · rename_i hdone
        rw [hdone] at hread
        exact hread
      · rename_i hdone
        rw [hdone] at hread
        exact hread
    · rfl
  | write other data =>
    have hother : other ≠ block := by
      rintro rfl
      exact h data rfl
    have hwrite := contents_write_of_ne hother data disk
    simp only [Request.execute]
    split
    · rw [show device.write other data disk = disk.write other data from rfl]
      split
      · rename_i hdone
        rw [hdone] at hwrite
        exact hwrite
      · rename_i hdone
        rw [hdone] at hwrite
        exact hwrite
    · rfl

/-- So do any number of them, by induction on the requests. -/
theorem contents_carryOut {block : Address} {requests : List Request}
    (h : ∀ request ∈ requests, ∀ data, request ≠ .write block data) (disk : RamDisk) :
    (Request.carryOut device requests disk).contents block = disk.contents block := by
  induction requests generalizing disk with
  | nil => rfl
  | cons request rest ih =>
    have hrest := ih (fun later hmem => h later (List.mem_cons_of_mem _ hmem))
      (request.execute device disk).2
    exact hrest.trans (contents_execute (h request List.mem_cons_self) disk)

/-- After a write that was carried out, the block holds its data. -/
theorem contents_of_written {block : Address} {data : Block} {disk : RamDisk}
    (h : ((Request.write block data).execute device disk).1 = .written) :
    ((Request.write block data).execute device disk).2.contents block = some data := by
  simp only [Request.execute] at h ⊢
  by_cases hin : block.toNat < device.blockCount disk
  · rw [if_pos hin] at h ⊢
    have hlength : block.toNat < disk.blocks.length := hin
    have hwrite : device.write block data disk = disk.write block data := rfl
    by_cases hfaulty : block ∈ disk.faulty
    · rw [hwrite, write, if_pos hfaulty] at h
      cases h
    · rw [hwrite, write, if_neg hfaulty, if_pos hlength]
      exact List.getElem?_set_self hlength
  · rw [if_neg hin] at h
    cases h

/-- A read that was carried out returns what the block holds. -/
theorem contents_of_read {block : Address} {data : Block} {disk : RamDisk}
    (h : ((Request.read block).execute device disk).1 = .read data) :
    disk.contents block = some data := by
  simp only [Request.execute] at h
  by_cases hin : block.toNat < device.blockCount disk
  · rw [if_pos hin] at h
    have hread : device.read block disk = disk.read block := rfl
    by_cases hfaulty : block ∈ disk.faulty
    · rw [hread, read, if_pos hfaulty] at h
      cases h
    · rw [hread, read, if_neg hfaulty] at h
      cases hcontents : disk.contents block with
      | none =>
        rw [hcontents] at h
        cases h
      | some found =>
        rw [hcontents] at h
        exact congrArg some (Completion.read.inj h)
  · rw [if_neg hin] at h
    cases h

/-! ## A RAM disk behind a server -/

/-- A server lets a RAM disk be seen as it is, but for the names of its faults: a
block beyond the disk, which the server does not look for, would not be found. -/
theorem served_read (block : Address) (disk : RamDisk) :
    device.served.read block disk =
      ((disk.read block).1.mapError fun _ => device.fault block disk, (disk.read block).2) := by
  by_cases hin : block.toNat < disk.blocks.length
  · exact if_pos hin
  · have hbeyond : device.served.read block disk = (.error (device.fault block disk), disk) :=
      if_neg hin
    have hnone : disk.contents block = none := List.getElem?_eq_none (Nat.le_of_not_lt hin)
    rw [hbeyond, read, hnone]
    split <;> rfl

theorem served_write (block : Address) (data : Block) (disk : RamDisk) :
    device.served.write block data disk =
      ((disk.write block data).1.mapError fun _ => device.fault block disk,
        (disk.write block data).2) := by
  by_cases hin : block.toNat < disk.blocks.length
  · exact if_pos hin
  · have hbeyond : device.served.write block data disk =
        (.error (device.fault block disk), disk) := if_neg hin
    rw [hbeyond, write, if_neg hin]
    split <;> rfl

end RamDisk
end BlockBridge

import BlockBridge.Device
import BlockBridge.Device.DiskFault

/-!
# RAM disks

A disk whose blocks are kept in memory.  Single blocks can be broken, and then
every access to them fails until they are mended.

Main statement: a block that was written reads back (`RamDisk.read_write`).
-/

namespace BlockBridge

/-- The state of a RAM disk. -/
structure RamDisk where
  blocks : List Block
  /-- The broken blocks. -/
  faulty : List Address := []
  /-- Reads that succeeded. -/
  reads : Nat := 0
  /-- Writes that succeeded. -/
  writes : Nat := 0
  deriving DecidableEq

namespace RamDisk

/-- The most blocks that a RAM disk is set up with: one GiB. -/
def maxBlocks : Nat := 2097152

/-- A disk of so many zeroed blocks, unless it would be too large. -/
def create (blockCount : UInt32) : Except DiskFault RamDisk :=
  if maxBlocks < blockCount.toNat then .error (.tooLarge blockCount.toNat)
  else .ok { blocks := List.replicate blockCount.toNat .zero }

/-- Break a block; it need not be on the disk. -/
def breakBlock (block : Address) (disk : RamDisk) : RamDisk :=
  { disk with faulty := block :: disk.faulty }

/-- Mend a block. -/
def mendBlock (block : Address) (disk : RamDisk) : RamDisk :=
  { disk with faulty := disk.faulty.filter (· ≠ block) }

/-- What a block holds, broken or not. -/
def contents (block : Address) (disk : RamDisk) : Option Block :=
  disk.blocks[block.toNat]?

/-- Read a block, unless it is broken or beyond the disk. -/
def read (block : Address) (disk : RamDisk) : Except DiskFault Block × RamDisk :=
  if block ∈ disk.faulty then (.error (.broken block), disk)
  else
    match disk.contents block with
    | none => (.error (.outOfRange block), disk)
    | some data => (.ok data, { disk with reads := disk.reads + 1 })

/-- Write a block, unless it is broken or beyond the disk. -/
def write (block : Address) (data : Block) (disk : RamDisk) : Except DiskFault Unit × RamDisk :=
  if block ∈ disk.faulty then (.error (.broken block), disk)
  else if block.toNat < disk.blocks.length then
    (.ok (), { disk with
      blocks := disk.blocks.set block.toNat data
      writes := disk.writes + 1 })
  else (.error (.outOfRange block), disk)

/-- A block that was written reads back. -/
theorem read_write {block : Address} {data : Block} {disk disk' : RamDisk}
    (h : disk.write block data = (.ok (), disk')) : (disk'.read block).1 = .ok data := by
  unfold write at h
  by_cases hfaulty : block ∈ disk.faulty
  · rw [if_pos hfaulty] at h
    exact absurd (Prod.mk.inj h).1 (by simp)
  · rw [if_neg hfaulty] at h
    by_cases hin : block.toNat < disk.blocks.length
    · rw [if_pos hin] at h
      rw [← (Prod.mk.inj h).2]
      simp [read, contents, hfaulty, hin]
    · rw [if_neg hin] at h
      exact absurd (Prod.mk.inj h).1 (by simp)

/-- RAM disks as block devices. -/
def device : Device RamDisk DiskFault where
  blockCount disk := disk.blocks.length
  read := read
  write := write
  detail := DiskFault.detail

end RamDisk
end BlockBridge

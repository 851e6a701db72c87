import BlockBridge.HostFile
import BlockBridge.Text.Field

/-!
# Faults of a disk

Why a RAM disk or a disk image failed.
-/

namespace BlockBridge

/-- Why a disk could not be set up or a block not be reached. -/
inductive DiskFault where
  /-- The block lies beyond the medium. -/
  | outOfRange (block : Address)
  /-- The block is broken. -/
  | broken (block : Address)
  /-- The host failed. -/
  | file (fault : FileFault)
  /-- The image ends inside a block. -/
  | shortImage (length : Nat)
  /-- The RAM disk would be too large. -/
  | tooLarge (blocks : Nat)
  deriving DecidableEq

namespace DiskFault

/-- The sentence shown for a fault of a disk. -/
def message : DiskFault → String
  | outOfRange block => s!"block {block} out of range"
  | broken block => s!"block {block} faulted"
  | file fault => "I/O error: " ++ fault.message
  | shortImage length => s!"image length {length} is not whole blocks"
  | tooLarge blocks => s!"{blocks} blocks exceeds the RAM disk cap"

/-- The fault by name and parts. -/
def detail : DiskFault → String
  | outOfRange block => Text.record "OutOfRange" [("block", toString block)]
  | broken block => Text.record "Fault" [("block", toString block)]
  | file fault => Text.tagged "Io" fault.detail
  | shortImage length => Text.record "ShortImage" [("len", toString length)]
  | tooLarge blocks => Text.record "TooLarge" [("blocks", toString blocks)]

end DiskFault
end BlockBridge

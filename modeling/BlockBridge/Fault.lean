import BlockBridge.Block
import BlockBridge.Text.Field

/-!
# Faults

Why an operation failed, as a value: a frame that cannot be read, a failure
reported by the storage side, silence, a broken channel, a request that makes
no sense, or an unusable configuration.

Every fault has two texts.  `message` is the sentence shown to a user;
`detail` names the fault and its parts, for log lines and inspection.
-/

namespace BlockBridge

/-- Why a byte string is not a message. -/
inductive FrameFault where
  /-- There is no tag to look at. -/
  | empty
  /-- The first byte is no kind's tag. -/
  | unknownKind (tag : UInt8)
  /-- The frame ends before the shape its tag asks for. -/
  | truncated (tag : UInt8) (length needed : Nat)
  deriving DecidableEq

/-- A failure code reported for a block by the storage side. -/
structure StorageFault where
  block : Address
  code : ResultCode
  deriving DecidableEq

/-- A failure of the channel itself. -/
inductive ChannelFault where
  /-- The other end is gone. -/
  | disconnected
  /-- The outbound queue stayed full. -/
  | queueFull
  /-- The frame is longer than any message. -/
  | frameTooLarge
  /-- Anything else that went wrong in transport. -/
  | transport
  deriving DecidableEq

/-- A request that the client refuses. -/
inductive RequestFault where
  /-- A request for the same block is still in flight. -/
  | addressBusy (block : Address)
  /-- As many requests are in flight as the table admits. -/
  | tableFull
  /-- The data does not fit the block. -/
  | badLength (length : Nat)
  /-- No request for the block is in flight. -/
  | notPending (block : Address)
  deriving DecidableEq

/-- A condition that every usable configuration meets. -/
inductive ConfigRule where
  | blockCountPositive
  | timeoutPositive
  | inFlightBounded
  | logLevelKnown
  deriving DecidableEq

/-- Why there is no usable configuration. -/
inductive ConfigFault where
  /-- The configuration was read and breaks a rule. -/
  | invalid (rule : ConfigRule)
  /-- The file cannot be read as text. -/
  | unreadable
  /-- The text is no configuration. -/
  | unparseable
  deriving DecidableEq

/-- Why an operation of the bridge failed. -/
inductive Fault where
  | malformed (fault : FrameFault)
  | storage (fault : StorageFault)
  | timeout (block : Address)
  | channel (fault : ChannelFault)
  | request (fault : RequestFault)
  | config (fault : ConfigFault)
  deriving DecidableEq

/-! ## Texts -/

namespace FrameFault

/-- The sentence shown for a frame that cannot be read. -/
def message : FrameFault → String
  | empty => "empty frame"
  | unknownKind tag => "unknown kind tag 0x" ++ Text.hexByte tag
  | truncated tag length needed => s!"kind {tag} frame is {length} bytes, needs {needed}"

/-- The fault by name and parts. -/
def detail : FrameFault → String
  | empty => "Empty"
  | unknownKind tag => Text.tagged "UnknownKind" (toString tag)
  | truncated tag length needed =>
    Text.record "Truncated"
      [("kind", toString tag), ("len", toString length), ("needed", toString needed)]

end FrameFault

namespace StorageFault

/-- The sentence shown for a failure reported by the storage side. -/
def message (fault : StorageFault) : String :=
  s!"block {fault.block} failed with code {fault.code}"

/-- The fault by name and parts. -/
def detail (fault : StorageFault) : String :=
  Text.record "StorageFault"
    [("block", toString fault.block), ("code", toString fault.code)]

end StorageFault

namespace ChannelFault

/-- The sentence shown for a broken channel. -/
def message : ChannelFault → String
  | disconnected => "peer disconnected"
  | queueFull => "outbound queue full"
  | frameTooLarge => "frame too large"
  | transport => "transport failure"

/-- The fault by name. -/
def detail : ChannelFault → String
  | disconnected => "Disconnected"
  | queueFull => "QueueFull"
  | frameTooLarge => "FrameTooLarge"
  | transport => "Transport"

end ChannelFault

namespace RequestFault

/-- The sentence shown for a refused request. -/
def message : RequestFault → String
  | addressBusy block => s!"block {block} already in flight"
  | tableFull => "pending-request table full"
  | badLength length => s!"payload is {length} bytes, expected one block"
  | notPending block => s!"no request pending for block {block}"

/-- The fault by name and parts. -/
def detail : RequestFault → String
  | addressBusy block => Text.record "AddressBusy" [("block", toString block)]
  | tableFull => "TableFull"
  | badLength length => Text.record "BadLength" [("len", toString length)]
  | notPending block => Text.record "NotPending" [("block", toString block)]

end RequestFault

namespace ConfigRule

/-- The rule as a sentence. -/
def message : ConfigRule → String
  | blockCountPositive => "block_count must be > 0"
  | timeoutPositive => "response_timeout_ms must be > 0"
  | inFlightBounded => "max_in_flight must be within 1..=8"
  | logLevelKnown => "log_level is not a known level"

end ConfigRule

namespace ConfigFault

/-- The sentence shown for an unusable configuration. -/
def message : ConfigFault → String
  | invalid rule => "validation failed: " ++ rule.message
  | unreadable => "config file unreadable"
  | unparseable => "config file unparseable"

/-- The fault by name and parts. -/
def detail : ConfigFault → String
  | invalid rule => Text.tagged "ValidationFailed" ("\"" ++ rule.message ++ "\"")
  | unreadable => "Io"
  | unparseable => "Parse"

end ConfigFault

namespace Fault

/-- What went wrong, without the heading that says where. -/
def cause : Fault → String
  | malformed fault => fault.message
  | storage fault => fault.message
  | timeout block => s!"timed out waiting for block {block}"
  | channel fault => fault.message
  | request fault => fault.message
  | config fault => fault.message

/-- The heading under which a fault is reported; a timeout has none. -/
def heading : Fault → String
  | malformed _ => "malformed message: "
  | storage _ => "storage: "
  | timeout _ => ""
  | channel _ => "channel: "
  | request _ => "request: "
  | config _ => "config: "

/-- The sentence shown for a fault. -/
def message (fault : Fault) : String :=
  fault.heading ++ fault.cause

/-- The fault by name and parts. -/
def detail : Fault → String
  | malformed fault => Text.tagged "Malformed" fault.detail
  | storage fault => Text.tagged "Storage" fault.detail
  | timeout block => Text.record "Timeout" [("block", toString block)]
  | channel fault => Text.tagged "Channel" fault.detail
  | request fault => Text.tagged "Request" fault.detail
  | config fault => Text.tagged "Config" fault.detail

end Fault
end BlockBridge

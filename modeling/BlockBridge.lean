import BlockBridge.Block
import BlockBridge.Bridge
import BlockBridge.Channel
import BlockBridge.Channel.Attended
import BlockBridge.Channel.Drain
import BlockBridge.Channel.Inline
import BlockBridge.Channel.Loopback
import BlockBridge.Channel.Replay
import BlockBridge.Client
import BlockBridge.Client.Session
import BlockBridge.Config
import BlockBridge.Config.Document
import BlockBridge.Counters
import BlockBridge.Counters.Document
import BlockBridge.Device
import BlockBridge.Device.DeadCard
import BlockBridge.Device.DiskFault
import BlockBridge.Device.ImageDisk
import BlockBridge.Device.RamDisk
import BlockBridge.Device.Slot
import BlockBridge.Fault
import BlockBridge.FileBytes
import BlockBridge.HexDump
import BlockBridge.HostFile
import BlockBridge.Journal
import BlockBridge.Journal.Console
import BlockBridge.Json.Literal
import BlockBridge.Json.Token
import BlockBridge.Json.Tree
import BlockBridge.Main
import BlockBridge.Message
import BlockBridge.Message.Frame
import BlockBridge.Pending
import BlockBridge.Pending.Slots
import BlockBridge.Proofs.Bridge.Carries
import BlockBridge.Proofs.Bridge.Fate
import BlockBridge.Proofs.Bridge.FlowControl
import BlockBridge.Proofs.Bridge.LateResult
import BlockBridge.Proofs.Bridge.Moves
import BlockBridge.Proofs.Bridge.Run
import BlockBridge.Proofs.Bridge.Sequential
import BlockBridge.Proofs.Bridge.Tracks
import BlockBridge.Proofs.Bridge.Traffic
import BlockBridge.Proofs.Channel.Delivery
import BlockBridge.Proofs.Channel.Overflow
import BlockBridge.Proofs.Channel.Polling
import BlockBridge.Proofs.Channel.Timed
import BlockBridge.Proofs.Config.Layout
import BlockBridge.Proofs.Config.RoundTrip
import BlockBridge.Proofs.Device.Interchange
import BlockBridge.Proofs.Device.RamDisk
import BlockBridge.Proofs.Device.Resized
import BlockBridge.Proofs.HexDump.Reading
import BlockBridge.Proofs.Json.Lexing
import BlockBridge.Proofs.Json.Members
import BlockBridge.Proofs.Json.Numeral
import BlockBridge.Proofs.Json.Parsing
import BlockBridge.Proofs.Json.Writing
import BlockBridge.Proofs.Message.Buffer
import BlockBridge.Proofs.Message.Canonical
import BlockBridge.Proofs.Message.CutShort
import BlockBridge.Proofs.Message.Grammar
import BlockBridge.Proofs.Message.RoundTrip
import BlockBridge.Proofs.Pending.Entries
import BlockBridge.Proofs.Pending.Eviction
import BlockBridge.Proofs.Pending.History
import BlockBridge.Proofs.Pending.Rearranged
import BlockBridge.Proofs.Pending.Registry
import BlockBridge.Proofs.Pending.Run
import BlockBridge.Proofs.RemoteDisk.Span
import BlockBridge.Proofs.RemoteDisk.Splice
import BlockBridge.Proofs.RemoteDisk.Transparency
import BlockBridge.Proofs.Request
import BlockBridge.Proofs.SelfTest.ProbeBlock
import BlockBridge.Proofs.Server.Accounting
import BlockBridge.Proofs.Server.BlockArray
import BlockBridge.Proofs.Server.DeviceCalls
import BlockBridge.Proofs.Server.Frames
import BlockBridge.Proofs.Server.Serving
import BlockBridge.Proofs.Session.Accounting
import BlockBridge.Proofs.Session.Admission
import BlockBridge.Proofs.Session.Agreement
import BlockBridge.Proofs.Session.Bystanders
import BlockBridge.Proofs.Session.Call
import BlockBridge.Proofs.Session.Clock
import BlockBridge.Proofs.Session.Deadline
import BlockBridge.Proofs.Session.Exchange
import BlockBridge.Proofs.Session.Junk
import BlockBridge.Proofs.Session.Log
import BlockBridge.Proofs.Session.Outcome
import BlockBridge.Proofs.Session.Parked
import BlockBridge.Proofs.Session.Steps
import BlockBridge.Proofs.Session.StorageFault
import BlockBridge.Proofs.Text.Digits
import BlockBridge.RemoteDisk
import BlockBridge.SelfTest
import BlockBridge.Server
import BlockBridge.Server.Service
import BlockBridge.SparseFile
import BlockBridge.Text.Field
import BlockBridge.Word

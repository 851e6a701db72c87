import BlockBridge.Config
import BlockBridge.HostFile
import BlockBridge.Json.Tree

/-!
# Configuration documents

A configuration is written as a JSON object with a member for each setting, in
the order of `Config`'s fields.  When one is read, settings may be missing and
then keep their defaults, members of other names are passed over, and an array
may give the first few settings in order.
-/

namespace BlockBridge
namespace Config

/-- The names of the settings. -/
def fieldNames : List String :=
  ["block_count", "response_timeout_ms", "max_in_flight", "trace_blocks", "log_level"]

/-- A configuration as a JSON value. -/
def toJson (config : Config) : Json :=
  .object (List.zip (fieldNames.map some)
    [.ofNat config.blockCount.toNat, .ofNat config.responseTimeoutMs.toNat,
      .ofNat config.maxInFlight.toNat, .bool config.traceBlocks,
      .string (some config.logLevel)])

/-- A configuration as text. -/
def write (config : Config) : String := config.toJson.write

/-- A setting's value, or its default if it is missing. -/
def setting {α : Type} (read : Json → Option α) (default : α) : Option Json → Option α
  | none => some default
  | some value => read value

/-- The configuration that a JSON value gives, whether or not it is usable. -/
def ofJson? (document : Json) : Option Config := do
  match ← document.fields? fieldNames with
  | [blockCount, responseTimeoutMs, maxInFlight, traceBlocks, logLevel] =>
    let defaults : Config := {}
    return {
      blockCount := ← setting Json.toUInt32? defaults.blockCount blockCount
      responseTimeoutMs := ←
        setting Json.toUInt32? defaults.responseTimeoutMs responseTimeoutMs
      maxInFlight := ← setting Json.toUInt8? defaults.maxInFlight maxInFlight
      traceBlocks := ← setting Json.toBool? defaults.traceBlocks traceBlocks
      logLevel := ← setting Json.toText? defaults.logLevel logLevel }
  | _ => none

/-- The configuration that a text gives, whether or not it is usable. -/
def read? (text : String) : Option Config :=
  (Json.parse text).bind ofJson?

/-- The usable configuration that a text gives. -/
def parse (text : String) : Except ConfigFault Config :=
  match read? text with
  | none => .error .unparseable
  | some config =>
    match config.validate with
    | .error fault => .error fault
    | .ok () => .ok config

/-- The usable configuration that a file gives. -/
def load (file : HostFile) : Except ConfigFault Config :=
  match file.text? with
  | none => .error .unreadable
  | some text => parse text

end Config
end BlockBridge

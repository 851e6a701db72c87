import BlockBridge.Fault
import BlockBridge.Journal.Console
import BlockBridge.Pending

/-!
# Configuration

What can be set about a bridge, the defaults, and the rules that a usable
configuration meets.
-/

namespace BlockBridge

/-- The settings of a bridge. -/
@[ext]
structure Config where
  /-- Blocks on the medium. -/
  blockCount : UInt32 := 8192
  /-- How long the client waits for a result, in milliseconds. -/
  responseTimeoutMs : UInt32 := 5000
  /-- The most requests that the client keeps in flight. -/
  maxInFlight : UInt8 := 8
  /-- Whether the data of every block read or written is dumped to the journal. -/
  traceBlocks : Bool := false
  /-- The name of the console's verbosity. -/
  logLevel : String := "info"
  deriving DecidableEq, Inhabited

namespace Config

/-- The console's verbosity, if the name is known. -/
def verbosity? (config : Config) : Option Verbosity :=
  Verbosity.ofName? config.logLevel

/-- How long the client waits for a result, in microseconds. -/
def responseTimeout (config : Config) : Nat :=
  config.responseTimeoutMs.toNat * 1000

/-- Whether a configuration meets a rule. -/
def meets (config : Config) : ConfigRule → Bool
  | .blockCountPositive => 0 < config.blockCount
  | .timeoutPositive => 0 < config.responseTimeoutMs
  | .inFlightBounded => 1 ≤ config.maxInFlight ∧ config.maxInFlight.toNat ≤ Pending.maxInFlight
  | .logLevelKnown => config.verbosity?.isSome

/-- The rules in the order in which they are checked. -/
def rules : List ConfigRule :=
  [.blockCountPositive, .timeoutPositive, .inFlightBounded, .logLevelKnown]

/-- Find fault with the first rule that is broken. -/
def validate (config : Config) : Except ConfigFault Unit :=
  match rules.find? fun rule => !config.meets rule with
  | some rule => .error (.invalid rule)
  | none => .ok ()

theorem validate_eq_ok_iff (config : Config) :
    config.validate = .ok () ↔ ∀ rule ∈ rules, config.meets rule = true := by
  unfold validate
  split
  · -- A broken rule was found, so not all are met.
    rename_i rule h
    simp only [reduceCtorEq, false_iff]
    intro hall
    have hbroken := List.find?_some h
    rw [hall rule (List.mem_of_find?_eq_some h)] at hbroken
    exact absurd hbroken (by decide)
  · rename_i h
    simpa using h

end Config
end BlockBridge

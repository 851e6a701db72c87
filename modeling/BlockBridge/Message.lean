import BlockBridge.Block

/-!
# Messages

The two sides exchange four kinds of message: a write request, a read request
and one kind of result for each.  Every message names the block it is about.
A read result either carries the block's contents or a result code.
-/

namespace BlockBridge

/-- What a message is for.  Each kind has its own tag on the channel. -/
inductive Kind where
  | writeRequest
  | readRequest
  | readResult
  | writeResult
  deriving DecidableEq

namespace Kind

/-- The first byte of a frame of this kind. -/
def tag : Kind → UInt8
  | writeRequest => 1
  | readRequest => 2
  | readResult => 3
  | writeResult => 4

/-- The kind with a given tag; every other byte names none. -/
def ofTag? (tag : UInt8) : Option Kind :=
  if tag = 1 then some writeRequest
  else if tag = 2 then some readRequest
  else if tag = 3 then some readResult
  else if tag = 4 then some writeResult
  else none

/-- Requests travel from the client to the server, results the other way. -/
def isRequest : Kind → Bool
  | writeRequest | readRequest => true
  | readResult | writeResult => false

/-- The kind's name in log lines. -/
def name : Kind → String
  | writeRequest => "BlockWriteRequest"
  | readRequest => "BlockReadRequest"
  | readResult => "BlockReadResult"
  | writeResult => "BlockWriteResult"

theorem ofTag?_tag (kind : Kind) : ofTag? kind.tag = some kind := by
  cases kind <;> rfl

theorem tag_of_ofTag? {tag : UInt8} {kind : Kind} (h : ofTag? tag = some kind) :
    kind.tag = tag := by
  unfold ofTag? at h
  by_cases h₁ : tag = 1
  · rw [if_pos h₁] at h
    rw [← Option.some.inj h, h₁]
    rfl
  rw [if_neg h₁] at h
  by_cases h₂ : tag = 2
  · rw [if_pos h₂] at h
    rw [← Option.some.inj h, h₂]
    rfl
  rw [if_neg h₂] at h
  by_cases h₃ : tag = 3
  · rw [if_pos h₃] at h
    rw [← Option.some.inj h, h₃]
    rfl
  rw [if_neg h₃] at h
  by_cases h₄ : tag = 4
  · rw [if_pos h₄] at h
    rw [← Option.some.inj h, h₄]
    rfl
  rw [if_neg h₄] at h
  exact absurd h (by simp)

end Kind

/-- A decoded message. -/
inductive Message where
  /-- Store `data` in `block`. -/
  | writeRequest (block : Address) (data : Block)
  /-- Send back what `block` holds. -/
  | readRequest (block : Address)
  /-- The contents of `block`. -/
  | readResult (block : Address) (data : Block)
  /-- The read of `block` failed with this code. -/
  | readFailed (block : Address) (code : ResultCode)
  /-- The write of `block` ended with this code; a negative one is a failure. -/
  | writeResult (block : Address) (code : ResultCode)
  deriving DecidableEq

namespace Message

/-- The kind of a message.  Both outcomes of a read are read results. -/
def kind : Message → Kind
  | writeRequest .. => .writeRequest
  | readRequest .. => .readRequest
  | readResult .. => .readResult
  | readFailed .. => .readResult
  | writeResult .. => .writeResult

/-- The block a message is about. -/
def block : Message → Address
  | writeRequest block _ | readRequest block | readResult block _
  | readFailed block _ | writeResult block _ => block

end Message
end BlockBridge

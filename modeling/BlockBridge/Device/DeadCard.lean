import BlockBridge.Device

/-!
# A card that was pulled out

A card that is no longer in its slot still has its size, but every access fails.
-/

namespace BlockBridge

/-- The state of a card that was pulled out. -/
structure DeadCard where
  blockCount : UInt32
  /-- Accesses that were tried. -/
  attempts : Nat := 0
  deriving DecidableEq

/-- The one thing that goes wrong with a card that was pulled out. -/
inductive DeadCard.Fault where
  | cardRemoved
  deriving DecidableEq

namespace DeadCard

/-- Count an access that fails. -/
def refuse {α : Type} (card : DeadCard) : Except Fault α × DeadCard :=
  (.error .cardRemoved, { card with attempts := card.attempts + 1 })

/-- Cards that were pulled out as block devices. -/
def device : Device DeadCard Fault where
  blockCount card := card.blockCount.toNat
  read _ card := card.refuse
  write _ _ card := card.refuse
  detail _ := "CardRemoved"

end DeadCard
end BlockBridge

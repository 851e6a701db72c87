import BlockBridge.Block

/-!
# Block devices

A block device holds numbered blocks.  Its state is a value of any type `δ`,
and what can go wrong with it is a value of any type `ε`.

Erasing writes zeros unless a device knows better, and a device that keeps
nothing back has nothing to synchronise.
-/

namespace BlockBridge

/-- A medium addressed in blocks. -/
structure Device (δ ε : Type) where
  /-- The number of blocks; the valid addresses lie below it. -/
  blockCount : δ → Nat
  /-- Read one block. -/
  read : Address → δ → Except ε Block × δ
  /-- Write one block. -/
  write : Address → Block → δ → Except ε Unit × δ
  /-- Erase one block. -/
  erase : Address → δ → Except ε Unit × δ := fun block => write block .zero
  /-- Make everything that was written durable. -/
  sync : δ → Except ε Unit × δ := fun device => (.ok (), device)
  /-- A fault by name and parts, for log lines. -/
  detail : ε → String

/-- Read one block into a buffer, which a failed read leaves alone. -/
def Device.readInto {δ ε : Type} (kind : Device δ ε) (block : Address) (buffer : Bytes)
    (device : δ) : Except ε Unit × Bytes × δ :=
  match kind.read block device with
  | (.ok data, device) => (.ok (), data.bytes, device)
  | (.error fault, device) => (.error fault, buffer, device)

end BlockBridge

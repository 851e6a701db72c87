import BlockBridge.Block

/-!
# Four-byte words

Block numbers and result codes cross the channel as 32-bit words, least
significant byte first.  A result code is the word with the same two's
complement bits.

Main statements: reading a written word gives it back
(`Word.ofBytes_toBytes`), and writing a read word gives its four bytes back
(`Word.toBytes_ofBytes`).
-/

namespace BlockBridge
namespace Word

/-- The four bytes of a word, least significant first. -/
def toBytes (w : UInt32) : Bytes :=
  [UInt8.ofNat w.toNat, UInt8.ofNat (w.toNat / 256),
    UInt8.ofNat (w.toNat / 65536), UInt8.ofNat (w.toNat / 16777216)]

/-- The word with the given bytes, least significant first. -/
def ofBytes (b₀ b₁ b₂ b₃ : UInt8) : UInt32 :=
  UInt32.ofNat (b₀.toNat + 256 * b₁.toNat + 65536 * b₂.toNat + 16777216 * b₃.toNat)

/-- The word that starts at `offset`; the bound says that its four bytes are there. -/
def read (bs : Bytes) (offset : Nat) (h : offset + 4 ≤ bs.length) : UInt32 :=
  ofBytes bs[offset] bs[offset + 1] bs[offset + 2] bs[offset + 3]

@[simp]
theorem length_toBytes (w : UInt32) : (toBytes w).length = 4 := rfl

theorem ofBytes_toBytes (w : UInt32) :
    ofBytes (UInt8.ofNat w.toNat) (UInt8.ofNat (w.toNat / 256))
      (UInt8.ofNat (w.toNat / 65536)) (UInt8.ofNat (w.toNat / 16777216)) = w := by
  have hw : w.toNat < 4294967296 := w.toNat_lt
  apply UInt32.toNat_inj.mp
  simp only [ofBytes, UInt8.toNat_ofNat', UInt32.toNat_ofNat']
  omega

theorem toBytes_ofBytes (b₀ b₁ b₂ b₃ : UInt8) :
    toBytes (ofBytes b₀ b₁ b₂ b₃) = [b₀, b₁, b₂, b₃] := by
  have h₀ : b₀.toNat < 256 := b₀.toNat_lt
  have h₁ : b₁.toNat < 256 := b₁.toNat_lt
  have h₂ : b₂.toNat < 256 := b₂.toNat_lt
  have h₃ : b₃.toNat < 256 := b₃.toNat_lt
  simp only [toBytes, ofBytes, UInt32.toNat_ofNat', List.cons.injEq, and_true]
  refine ⟨?_, ?_, ?_, ?_⟩ <;>
    (apply UInt8.toNat_inj.mp; simp only [UInt8.toNat_ofNat']; omega)

end Word
end BlockBridge

import BlockBridge.Text.Field

/-!
# Numerals read back

A number written to a base up to sixteen begins with no zero (`Text.head?_toDigits`).  In
hexadecimal it is read back from its digits, and zeros in front of them change nothing
(`Text.ofHex?_hex`), so a column that is filled up with zeros still shows the number.
-/

namespace BlockBridge
namespace Text

/-! ## Digits to a base -/

/-- Each digit of a numeral is that of a number below the base. -/
theorem exists_digit {base n : Nat} (hbase : 1 < base) {c : Char}
    (h : c ∈ Nat.toDigits base n) : ∃ digit < base, c = digit.digitChar := by
  induction n using Nat.strongRecOn with
  | ind n ih =>
    rw [Nat.toDigits_eq_if hbase] at h
    split at h
    · rename_i hsmall
      exact ⟨n, hsmall, List.mem_singleton.mp h⟩
    · rename_i hlarge
      rcases List.mem_append.mp h with hfront | hlast
      · exact ih (n / base) (Nat.div_lt_self (by omega) hbase) hfront
      · exact ⟨n % base, Nat.mod_lt _ (by omega), List.mem_singleton.mp hlast⟩

/-- The numeral of a positive number begins with no zero. -/
theorem head?_toDigits {base n : Nat} (hbase : 1 < base) (hdigits : base ≤ 16) (h : 0 < n) :
    (Nat.toDigits base n).head? ≠ some '0' := by
  induction n using Nat.strongRecOn with
  | ind n ih =>
    rw [Nat.toDigits_eq_if hbase]
    split
    · have hdigit : ∀ digit < 16, 0 < digit → [digit.digitChar].head? ≠ some '0' := by decide
      exact hdigit n (by omega) h
    · rename_i hlarge
      have hfirst := ih (n / base) (Nat.div_lt_self h hbase) (Nat.div_pos (by omega) (by omega))
      -- The digits in front are not empty, so the first of them is the first of all.
      cases hfront : Nat.toDigits base (n / base) with
      | nil => exact absurd hfront Nat.toDigits_ne_nil
      | cons c rest => rwa [hfront] at hfirst

/-! ## Hexadecimal -/

/-- The number that a hexadecimal digit in lower case stands for. -/
def hexDigit? (c : Char) : Option Nat :=
  if '0' ≤ c ∧ c ≤ '9' then some (c.toNat - '0'.toNat)
  else if 'a' ≤ c ∧ c ≤ 'f' then some (c.toNat - 'a'.toNat + 10)
  else none

/-- The number that a row of hexadecimal digits in lower case stands for. -/
def ofHex? (text : List Char) : Option Nat :=
  text.foldlM (fun n c => (hexDigit? c).map (16 * n + ·)) 0

theorem hexDigit?_digitChar : ∀ digit < 16, hexDigit? digit.digitChar = some digit := by
  decide

/-- One more digit. -/
theorem ofHex?_append_singleton (text : List Char) (c : Char) :
    ofHex? (text ++ [c]) = (ofHex? text).bind fun n => (hexDigit? c).map (16 * n + ·) := by
  simp [ofHex?, List.foldlM_append]

theorem ofHex?_toDigits (n : Nat) : ofHex? (Nat.toDigits 16 n) = some n := by
  induction n using Nat.strongRecOn with
  | ind n ih =>
    rw [Nat.toDigits_eq_if (by decide)]
    split
    · rename_i hsmall
      simp [ofHex?, hexDigit?_digitChar n hsmall]
    · rename_i hlarge
      rw [ofHex?_append_singleton, ih (n / 16) (Nat.div_lt_self (by omega) (by decide)),
        hexDigit?_digitChar _ (Nat.mod_lt n (by decide)), Option.bind_some, Option.map_some,
        Nat.div_add_mod]

/-- Zeros in front change nothing. -/
theorem ofHex?_zeros_append (count : Nat) (text : List Char) :
    ofHex? (List.replicate count '0' ++ text) = ofHex? text := by
  induction count with
  | zero => rfl
  | succ count ih =>
    rw [List.replicate_succ, List.cons_append, ← ih]
    rfl

/-- A number is read back from its column, however wide. -/
theorem ofHex?_hex (width n : Nat) : ofHex? (hex width n) = some n :=
  (ofHex?_zeros_append _ _).trans (ofHex?_toDigits n)

/-- Each character of a column is a hexadecimal digit in lower case. -/
theorem exists_hexDigit {width n : Nat} {c : Char} (h : c ∈ hex width n) :
    ∃ digit < 16, c = digit.digitChar := by
  rcases List.mem_append.mp h with hzero | hdigit
  · exact ⟨0, by decide, List.eq_of_mem_replicate hzero⟩
  · exact exists_digit (by decide) hdigit

/-- A column that is wider than asked for is not filled up. -/
theorem head?_hex {width n : Nat} (h : width < (hex width n).length) (hwidth : 0 < width) :
    (hex width n).head? ≠ some '0' := by
  have hlong : width < (Nat.toDigits 16 n).length := by
    rw [hex, length_padStart] at h
    omega
  -- Zero has one digit and so is always filled up.
  have hpos : 0 < n := by
    rcases Nat.eq_zero_or_pos n with rfl | hpos
    · have hone : (Nat.toDigits 16 0).length = 1 := rfl
      omega
    · exact hpos
  have hnone : hex width n = Nat.toDigits 16 n := by
    rw [hex, padStart, Nat.sub_eq_zero_of_le (Nat.le_of_lt hlong)]
    rfl
  rw [hnone]
  exact head?_toDigits (by decide) (by decide) hpos

/-- A byte is shown by its two digits. -/
theorem hex_two {n : Nat} (h : n < 256) :
    hex 2 n = [(n / 16).digitChar, (n % 16).digitChar] := by
  rw [hex, Nat.toDigits_eq_if (by decide)]
  split
  · rename_i hsmall
    rw [Nat.div_eq_of_lt hsmall, Nat.mod_eq_of_lt hsmall]
    rfl
  · rw [Nat.toDigits_of_lt_base (by omega)]
    rfl

end Text
end BlockBridge

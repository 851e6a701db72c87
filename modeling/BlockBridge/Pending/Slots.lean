/-!
# Slots

A short list of keyed entries, in order.  A new entry goes to the end; when one
is removed the last entry moves into its place, so nothing else shifts.

Main statements: removal drops the first entry of its key and permutes the
rest (`Slots.swapErase_perm`), so keys that are unique stay unique
(`Slots.nodup_keys_swapErase`), and every other key is found as before
(`Slots.find?_swapErase`).
-/

namespace BlockBridge
namespace Slots

variable {κ ν : Type} [DecidableEq κ]

/-- The keys in order. -/
def keys (entries : List (κ × ν)) : List κ :=
  entries.map Prod.fst

/-- The value kept under a key. -/
def find? (key : κ) : List (κ × ν) → Option ν
  | [] => none
  | entry :: rest => if entry.1 = key then some entry.2 else find? key rest

/-- Change the value kept under a key. -/
def modify (key : κ) (f : ν → ν) (entries : List (κ × ν)) : List (κ × ν) :=
  entries.map fun entry => if entry.1 = key then (entry.1, f entry.2) else entry

/-- Remove the entry of a key; the last entry takes its place. -/
def swapErase (key : κ) : List (κ × ν) → List (κ × ν)
  | [] => []
  | entry :: rest =>
    if entry.1 = key then
      match rest.getLast? with
      | none => []
      | some last => last :: rest.dropLast
    else entry :: swapErase key rest

theorem find?_eq_none_iff {key : κ} {entries : List (κ × ν)} :
    find? key entries = none ↔ key ∉ keys entries := by
  induction entries with
  | nil => simp [find?, keys]
  | cons entry rest ih =>
    have ih' : find? key rest = none ↔ key ∉ rest.map Prod.fst := ih
    by_cases h : entry.1 = key
    · simp [find?, keys, h]
    · simp only [find?, keys, h, if_false, ih', List.map_cons, List.mem_cons, not_or]
      exact ⟨fun hr => ⟨Ne.symm h, hr⟩, fun hr => hr.2⟩

@[simp]
theorem keys_modify (key : κ) (f : ν → ν) (entries : List (κ × ν)) :
    keys (modify key f entries) = keys entries := by
  simp only [keys, modify, List.map_map]
  apply List.map_congr_left
  intro entry _
  simp only [Function.comp]
  split <;> rfl

@[simp]
theorem length_modify (key : κ) (f : ν → ν) (entries : List (κ × ν)) :
    (modify key f entries).length = entries.length := by
  simp [modify]

theorem find?_modify (key other : κ) (f : ν → ν) (entries : List (κ × ν)) :
    find? other (modify key f entries) =
      (find? other entries).map (if other = key then f else id) := by
  induction entries with
  | nil => rfl
  | cons entry rest ih =>
    have hcons : modify key f (entry :: rest) =
        (if entry.1 = key then (entry.1, f entry.2) else entry) :: modify key f rest := rfl
    rw [hcons]
    by_cases hother : entry.1 = other
    · by_cases hkey : entry.1 = key
      · simp [find?, ← hother, hkey]
      · simp [find?, ← hother, hkey]
    · by_cases hkey : entry.1 = key
      · simp only [find?, hkey, if_true, ih]
        rw [hkey] at hother
        simp [hother]
      · simp [find?, hother, hkey, ih]

/-- Removal drops one entry and otherwise only reorders. -/
theorem swapErase_perm (key : κ) (entries : List (κ × ν)) :
    (swapErase key entries).Perm (entries.eraseP fun entry => entry.1 = key) := by
  induction entries with
  | nil => exact .nil
  | cons entry rest ih =>
    by_cases h : entry.1 = key
    · rw [List.eraseP_cons_of_pos (by simpa using h)]
      simp only [swapErase, h, if_true]
      cases hl : rest.getLast? with
      | none => rw [List.getLast?_eq_none_iff.mp hl]
      | some last =>
        obtain ⟨front, rfl⟩ := List.getLast?_eq_some_iff.mp hl
        rw [List.dropLast_concat]
        exact (List.perm_append_singleton last front).symm
    · rw [List.eraseP_cons_of_neg (by simpa using h)]
      simp only [swapErase, h, if_false]
      exact ih.cons entry

theorem length_swapErase_le (key : κ) (entries : List (κ × ν)) :
    (swapErase key entries).length ≤ entries.length := by
  rw [(swapErase_perm key entries).length_eq]
  exact List.length_eraseP_le

theorem nodup_keys_swapErase {key : κ} {entries : List (κ × ν)}
    (h : (keys entries).Nodup) : (keys (swapErase key entries)).Nodup := by
  have hperm : (keys (swapErase key entries)).Perm
      (keys (entries.eraseP fun entry => entry.1 = key)) :=
    (swapErase_perm key entries).map Prod.fst
  rw [hperm.nodup_iff]
  exact h.sublist (List.eraseP_sublist.map Prod.fst)

theorem nodup_keys_concat {key : κ} {value : ν} {entries : List (κ × ν)}
    (h : (keys entries).Nodup) (hkey : find? key entries = none) :
    (keys (entries ++ [(key, value)])).Nodup := by
  have hnot : key ∉ entries.map Prod.fst := find?_eq_none_iff.mp hkey
  simp only [keys, List.map_append, List.map_cons, List.map_nil]
  rw [List.nodup_append]
  refine ⟨h, by simp, ?_⟩
  intro a ha b hb
  rw [List.mem_singleton] at hb
  subst hb
  exact fun heq => hnot (heq ▸ ha)

/-! ## Looking up after a change -/

/-- When keys are unique, looking up a key is asking for its entry. -/
theorem find?_eq_some_iff {key : κ} {value : ν} {entries : List (κ × ν)}
    (h : (keys entries).Nodup) :
    find? key entries = some value ↔ (key, value) ∈ entries := by
  induction entries with
  | nil => simp [find?]
  | cons entry rest ih =>
    obtain ⟨hfresh, hrest⟩ := List.nodup_cons.mp h
    rw [List.mem_cons]
    by_cases hkey : entry.1 = key
    · rw [find?, if_pos hkey]
      constructor
      · intro hvalue
        exact .inl (by rw [← hkey, ← Option.some.inj hvalue])
      · intro hmem
        rcases hmem with heq | hmem
        · rw [← heq]
        · -- A second entry of the key would make the keys repeat.
          exact absurd (hkey ▸ List.mem_map_of_mem hmem) hfresh
    · rw [find?, if_neg hkey, ih hrest]
      constructor
      · exact .inr
      · intro hmem
        rcases hmem with heq | hmem
        · exact absurd (by rw [← heq]) hkey
        · exact hmem

/-- The order of entries does not matter to a lookup. -/
theorem find?_eq_of_perm {key : κ} {entries entries' : List (κ × ν)}
    (hperm : entries.Perm entries') (h : (keys entries).Nodup) :
    find? key entries = find? key entries' := by
  have h' : (keys entries').Nodup := (hperm.map Prod.fst).nodup_iff.mp h
  apply Option.ext
  intro value
  rw [find?_eq_some_iff h, find?_eq_some_iff h', hperm.mem_iff]

theorem find?_concat (key other : κ) (value : ν) (entries : List (κ × ν)) :
    find? other (entries ++ [(key, value)]) =
      (find? other entries).or (if key = other then some value else none) := by
  induction entries with
  | nil => rfl
  | cons entry rest ih =>
    rw [List.cons_append]
    by_cases hentry : entry.1 = other
    · rw [find?, find?, if_pos hentry, if_pos hentry, Option.some_or]
    · rw [find?, find?, if_neg hentry, if_neg hentry, ih]

/-- After a removal the key is gone, and every other key is found as before. -/
theorem find?_swapErase {key other : κ} {entries : List (κ × ν)} (h : (keys entries).Nodup) :
    find? other (swapErase key entries) = if other = key then none else find? other entries := by
  have herased : find? other (entries.eraseP fun entry => entry.1 = key) =
      if other = key then none else find? other entries := by
    induction entries with
    | nil => simp [find?]
    | cons entry rest ih =>
      obtain ⟨hfresh, hrest⟩ := List.nodup_cons.mp h
      by_cases hkey : entry.1 = key
      · rw [List.eraseP_cons_of_pos (by simpa using hkey)]
        by_cases hother : other = key
        · rw [if_pos hother, find?_eq_none_iff, hother, ← hkey]
          exact hfresh
        · rw [if_neg hother, find?, if_neg (fun heq => hother (heq.symm.trans hkey))]
      · rw [List.eraseP_cons_of_neg (by simpa using hkey)]
        by_cases hentry : entry.1 = other
        · rw [find?, find?, if_pos hentry, if_pos hentry,
            if_neg (fun heq => hkey (hentry.trans heq))]
        · rw [find?, find?, if_neg hentry, if_neg hentry, ih hrest]
  rw [← herased]
  exact find?_eq_of_perm (swapErase_perm key entries) (nodup_keys_swapErase h)

end Slots
end BlockBridge

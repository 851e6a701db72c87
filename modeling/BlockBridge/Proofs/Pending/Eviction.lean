import BlockBridge.Proofs.Pending.Entries

/-!
# Evictions

An eviction is told in one sweep: the requests that have expired are listed in table
order, and then the listed blocks are removed one after the other, the last entry moving
into each hole.  Here the two loops behind it are set beside it.  One puts block after
block into a list with room for as many entries as any table admits, and never finds it
full.  The other looks up the place of each listed block, which an earlier removal may
have changed, and never finds that the block is gone.

Main statement: `Pending.Table.evict_exactly`.
-/

namespace BlockBridge

namespace Slots

variable {κ ν : Type} [DecidableEq κ]

/-- Take out the entry at a place; the last entry moves there. -/
def swapRemove {α : Type} (place : Nat) (entries : List α) : List α :=
  match entries.getLast? with
  | none => []
  | some last => (entries.set place last).dropLast

/-- Take out the entry of a key from the place where it is, if it is there. -/
def remove? (key : κ) (entries : List (κ × ν)) : Option (List (κ × ν)) :=
  (entries.findIdx? fun entry => entry.1 = key).map (swapRemove · entries)

theorem swapErase_cons_self {entry : κ × ν} {key : κ} (h : entry.1 = key)
    (rest : List (κ × ν)) : swapErase key (entry :: rest) = swapRemove 0 (entry :: rest) := by
  rw [swapErase, if_pos h, swapRemove, List.getLast?_cons]
  cases hlast : rest.getLast? with
  | none => rw [List.getLast?_eq_none_iff.mp hlast]; rfl
  | some last =>
    have hrest : rest ≠ [] := by
      rintro rfl
      cases hlast
    exact (List.dropLast_cons_of_ne_nil hrest).symm

theorem swapRemove_cons_succ {α : Type} (entry : α) {place : Nat} {rest : List α}
    (h : place < rest.length) :
    swapRemove (place + 1) (entry :: rest) = entry :: swapRemove place rest := by
  obtain ⟨last, hlast⟩ : ∃ last, rest.getLast? = some last := by
    cases rest with
    | nil => cases h
    | cons first others => exact ⟨_, List.getLast?_eq_some_getLast (List.cons_ne_nil first others)⟩
  have hmoved : rest.set place last ≠ [] := by
    intro hnil
    rw [← List.length_set (a := last) (i := place), hnil] at h
    cases h
  rw [swapRemove, swapRemove, hlast, List.getLast?_cons, hlast]
  show (entry :: rest.set place last).dropLast = entry :: (rest.set place last).dropLast
  exact List.dropLast_cons_of_ne_nil hmoved

/-- An entry that is there is taken out from its place. -/
theorem remove?_of_find? {key : κ} {value : ν} {entries : List (κ × ν)}
    (h : find? key entries = some value) : remove? key entries = some (swapErase key entries) := by
  induction entries with
  | nil => cases h
  | cons entry rest ih =>
    by_cases hkey : entry.1 = key
    · rw [remove?, List.findIdx?_cons, decide_eq_true hkey, if_pos rfl, Option.map_some,
        swapErase_cons_self hkey]
    · rw [find?, if_neg hkey] at h
      obtain ⟨place, hplace, hrest⟩ := Option.map_eq_some_iff.mp (ih h)
      have hlt : place < rest.length := (List.findIdx?_eq_some_iff_getElem.mp hplace).1
      rw [remove?, List.findIdx?_cons, decide_eq_false hkey, if_neg Bool.false_ne_true, hplace,
        swapErase, if_neg hkey, ← hrest]
      exact congrArg some (swapRemove_cons_succ entry hlt)

end Slots

namespace Pending

/-- Whether a request was issued `timeout` or more before `now`.  One that was issued
later than that is no time old. -/
def Entry.expired (now timeout : Nat) (entry : Entry) : Bool :=
  (timeout : Int) ≤ max 0 ((now : Int) - entry.issuedAt)

theorem Entry.expired_iff {now timeout : Nat} {entry : Entry} :
    entry.expired now timeout = true ↔ timeout ≤ now - entry.issuedAt := by
  rw [Entry.expired, decide_eq_true_iff]
  omega

/-- Put the block of an entry that has expired into a list, if there is room left. -/
def collect? (room now timeout : Nat) (found : List Address) (entry : Address × Entry) :
    Option (List Address) :=
  if entry.2.expired now timeout then
    if found.length < room then some (found ++ [entry.1]) else none
  else some found

namespace Table

theorem expired_eq (table : Table) (now timeout : Nat) :
    table.expired now timeout =
      (table.entries.filter fun entry => entry.2.expired now timeout).map Prod.fst := by
  rw [expired, Slots.keys]
  congr 2
  funext entry
  rw [← Bool.coe_iff_coe, decide_eq_true_iff, Entry.expired_iff]

/-! ## Listing what has expired -/

/-- A list with room for all the entries has room for those that have expired. -/
theorem foldlM_collect? {room now timeout : Nat} {entries : List (Address × Entry)}
    {found : List Address} (hroom : found.length + entries.length ≤ room) :
    entries.foldlM (collect? room now timeout) found =
      some (found ++ (entries.filter fun entry => entry.2.expired now timeout).map Prod.fst) := by
  induction entries generalizing found with
  | nil => simp
  | cons entry rest ih =>
    rw [List.length_cons] at hroom
    rw [List.foldlM_cons]
    by_cases hlate : entry.2.expired now timeout = true
    · have hpush : collect? room now timeout found entry = some (found ++ [entry.1]) := by
        rw [collect?, if_pos hlate, if_pos (by omega)]
      rw [hpush, List.filter_cons, if_pos hlate]
      show rest.foldlM (collect? room now timeout) (found ++ [entry.1]) = _
      rw [ih (by rw [List.length_append, List.length_singleton]; omega), List.append_assoc]
      rfl
    · have hskip : collect? room now timeout found entry = some found := by
        rw [collect?, if_neg hlate]
      rw [hskip, List.filter_cons, if_neg hlate]
      exact ih (by omega)

/-! ## Removing what was listed -/

/-- Blocks that are all there, and are listed once each, are removed from where they are. -/
theorem foldlM_remove? {blocks : List Address} {table : Table} (hnodup : blocks.Nodup)
    (hthere : ∀ block ∈ blocks, (table.find? block).isSome) :
    blocks.foldlM (fun entries block => Slots.remove? block entries) table.entries =
      some (blocks.foldl erase table).entries := by
  induction blocks generalizing table with
  | nil => rfl
  | cons block rest ih =>
    obtain ⟨hfresh, hrest⟩ := List.nodup_cons.mp hnodup
    obtain ⟨entry, hfind⟩ := Option.isSome_iff_exists.mp (hthere block List.mem_cons_self)
    have hleft : ∀ other ∈ rest, ((table.erase block).find? other).isSome := by
      intro other hother
      have hne : other ≠ block := fun heq => hfresh (heq ▸ hother)
      rw [find?_erase, if_neg hne]
      exact hthere other (List.mem_cons_of_mem _ hother)
    rw [List.foldlM_cons, Slots.remove?_of_find? hfind]
    exact ih hrest hleft

/-! ## Both -/

theorem mem_evicted_iff {table : Table} {now timeout : Nat} {block : Address} :
    block ∈ (table.evict now timeout).1 ↔
      ∃ entry, table.find? block = some entry ∧ entry.expired now timeout = true := by
  simp only [Entry.expired_iff]
  exact mem_expired_iff

/-- Nothing is left to expire. -/
theorem expired_evict (table : Table) (now timeout : Nat) :
    (table.evict now timeout).2.expired now timeout = [] := by
  rw [List.eq_nil_iff_forall_not_mem]
  intro block hmem
  obtain ⟨entry, hfind, hlate⟩ := mem_expired_iff.mp hmem
  rw [find?_evict, Option.filter_eq_some_iff, decide_eq_true_iff] at hfind
  exact Nat.not_lt.mpr hlate hfind.2

/-- An eviction reports each block whose request has expired once, in table order, and
no other block.  The entries left are all others as they were, in the order that removing
the reported blocks one after the other leaves, each from the place where it is found and
the last entry moving there.  A list with room for eight blocks takes all that are
reported, and another eviction at the same time reports and changes nothing. -/
theorem evict_exactly (table : Table) (now timeout : Nat) :
    let evicted := (table.evict now timeout).1
    let left := (table.evict now timeout).2
    (evicted.Nodup ∧ evicted.Sublist (Slots.keys table.entries) ∧
      ∀ block, block ∈ evicted ↔ ∃ entry, table.find? block = some entry ∧
        (timeout : Int) ≤ max 0 ((now : Int) - entry.issuedAt)) ∧
    (left.entries.Perm (table.entries.filter fun entry =>
        max 0 ((now : Int) - entry.2.issuedAt) < timeout) ∧
      evicted.foldlM (fun entries block => Slots.remove? block entries) table.entries =
        some left.entries ∧
      left.limit = table.limit) ∧
    table.entries.foldlM (collect? 8 now timeout) [] = some evicted ∧
    left.evict now timeout = ([], left) := by
  intro evicted left
  have hevicted : evicted =
      (table.entries.filter fun entry => entry.2.expired now timeout).map Prod.fst :=
    table.expired_eq now timeout
  have hnodup : evicted.Nodup := table.nodup_expired now timeout
  refine ⟨⟨hnodup, ?_, ?_⟩, ⟨?_, ?_, ?_⟩, ?_, ?_⟩
  · rw [hevicted]
    exact List.filter_sublist.map Prod.fst
  · intro block
    have hmem : block ∈ evicted ↔ _ := mem_evicted_iff
    simp only [hmem, Entry.expired, decide_eq_true_iff]
  · have hearly : (table.entries.filter fun entry =>
          max 0 ((now : Int) - entry.2.issuedAt) < timeout) =
        table.entries.filter fun entry => now - entry.2.issuedAt < timeout := by
      congr 1
      funext entry
      rw [decide_eq_decide]
      omega
    rw [hearly]
    exact table.entries_evict_perm now timeout
  · apply foldlM_remove? hnodup
    intro block hmem
    obtain ⟨entry, hfind, _⟩ := mem_evicted_iff.mp hmem
    rw [hfind]
    rfl
  · exact table.limit_evict now timeout
  · have hroom : ([] : List Address).length + table.entries.length ≤ 8 := by
      rw [List.length_nil, Nat.zero_add]
      exact Nat.le_trans table.length_le table.limit_le
    rw [foldlM_collect? hroom, hevicted]
    rfl
  · exact evict_of_expired_eq_nil (table.expired_evict now timeout)

/-- Of four requests the first and the third have expired.  The fourth is moved into the
place of the first, and the third, which is the last by then, leaves no hole. -/
example :
    let table : Table :=
      { limit := 4
        entries := [(1, ⟨.read, 0, none⟩), (2, ⟨.read, 9, none⟩), (3, ⟨.write, 1, none⟩),
          (4, ⟨.read, 8, none⟩)]
        nodup := by decide
        length_le := by decide
        limit_pos := by decide
        limit_le := by decide }
    (table.evict 10 5).1 = [1, 3] ∧ Slots.keys (table.evict 10 5).2.entries = [4, 2] := by
  decide

end Table
end Pending
end BlockBridge

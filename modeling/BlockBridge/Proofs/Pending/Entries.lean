import BlockBridge.Pending

/-!
# Counting the requests in flight

Which entries a table holds is settled by what is found under each block: keys
are unique, so the entries are a permutation of any list without repetition
that says the same.  From this follow the entries after each change, and from
those how many of them are settled.

Main statements: the entries beside one that is there
(`Pending.Table.entries_perm_cons_erase`), the entries left by an eviction
(`Pending.Table.entries_evict_perm`), and the counts after each change.
-/

namespace BlockBridge
namespace Pending

theorem Slots.swapErase_of_absent {κ ν : Type} [DecidableEq κ] {key : κ}
    {entries : List (κ × ν)} (h : Slots.find? key entries = none) :
    Slots.swapErase key entries = entries := by
  induction entries with
  | nil => rfl
  | cons entry rest ih =>
    by_cases hkey : entry.1 = key
    · rw [Slots.find?, if_pos hkey] at h
      cases h
    · rw [Slots.find?, if_neg hkey] at h
      rw [Slots.swapErase, if_neg hkey, ih h]

theorem Slots.swapErase_concat {κ ν : Type} [DecidableEq κ] {key : κ} {entries : List (κ × ν)}
    (h : Slots.find? key entries = none) (value : ν) :
    Slots.swapErase key (entries ++ [(key, value)]) = entries := by
  induction entries with
  | nil => simp [Slots.swapErase]
  | cons entry rest ih =>
    by_cases hkey : entry.1 = key
    · rw [Slots.find?, if_pos hkey] at h
      cases h
    · rw [Slots.find?, if_neg hkey] at h
      rw [List.cons_append, Slots.swapErase, if_neg hkey, ih h]

namespace Table

/-- The number of requests whose result has arrived and waits to be taken. -/
def settledCount (table : Table) : Nat :=
  table.entries.countP fun entry => entry.2.outcome.isSome

/-- The number of requests that still wait for their result. -/
def unsettledCount (table : Table) : Nat :=
  table.entries.countP fun entry => entry.2.outcome.isNone

theorem mem_entries_iff {table : Table} {block : Address} {entry : Entry} :
    (block, entry) ∈ table.entries ↔ table.find? block = some entry :=
  (Slots.find?_eq_some_iff table.nodup).symm

theorem nodup_entries (table : Table) : table.entries.Nodup :=
  List.Pairwise.of_map Prod.fst (fun _ _ hkeys hentries => hkeys (congrArg Prod.fst hentries))
    table.nodup

theorem settledCount_add_unsettledCount (table : Table) :
    table.settledCount + table.unsettledCount = table.size := by
  have hcount := List.length_eq_countP_add_countP
    (fun entry : Address × Entry => entry.2.outcome.isSome) (l := table.entries)
  have hnone : table.unsettledCount =
      table.entries.countP fun entry => decide ¬entry.2.outcome.isSome = true := by
    apply List.countP_congr
    intro entry _
    cases entry.2.outcome <;> simp
  rw [hnone]
  exact hcount.symm

/-- Entries are told apart by what is found under each block. -/
theorem entries_perm {table : Table} {entries : List (Address × Entry)} (hnodup : entries.Nodup)
    (hsame : ∀ block entry, (block, entry) ∈ entries ↔ table.find? block = some entry) :
    table.entries.Perm entries := by
  rw [List.perm_ext_iff_of_nodup table.nodup_entries hnodup]
  rintro ⟨block, entry⟩
  rw [hsame, mem_entries_iff]

theorem nodup_cons_erase (table : Table) (block : Address) (entry : Entry) :
    ((block, entry) :: (table.erase block).entries).Nodup := by
  rw [List.nodup_cons]
  constructor
  · rw [mem_entries_iff, find?_erase, if_pos rfl]
    exact nofun
  · exact (table.erase block).nodup_entries

/-- An entry that is there and what erasing it leaves are all the entries. -/
theorem entries_perm_cons_erase {table : Table} {block : Address} {entry : Entry}
    (hfind : table.find? block = some entry) :
    table.entries.Perm ((block, entry) :: (table.erase block).entries) := by
  apply entries_perm (table.nodup_cons_erase block _)
  intro other found
  rw [List.mem_cons, mem_entries_iff, find?_erase]
  by_cases hother : other = block
  · subst hother
    rw [if_pos rfl, hfind]
    simp [eq_comm]
  · simp [hother]

theorem entries_settle_perm {table : Table} {block : Address} {entry : Entry}
    (hfind : table.find? block = some entry) (outcome : Completion) :
    (table.settle block outcome).entries.Perm
      ((block, { entry with outcome := some outcome }) :: (table.erase block).entries) := by
  apply entries_perm (table.nodup_cons_erase block _)
  intro other found
  rw [List.mem_cons, mem_entries_iff, find?_erase, find?_settle]
  by_cases hother : other = block
  · subst hother
    rw [if_pos rfl, hfind]
    simp [eq_comm]
  · cases hfound : table.find? other <;> simp [hother]

/-! ## Deliveries -/

theorem awaits_iff {entry : Entry} {operation : Operation} :
    entry.awaits operation = true ↔ entry.operation = operation ∧ entry.outcome = none := by
  simp [Entry.awaits]

/-- A delivery is stale and changes nothing, or settles the entry that was
waiting for it. -/
theorem deliver_cases (table : Table) (message : Message) :
    table.deliver message = (.stale, table) ∨
      ∃ entry outcome,
        table.find? message.block = some entry ∧ entry.outcome = none ∧
        message.outcome? = some (entry.operation, outcome) ∧
        table.deliver message = (.completed, table.settle message.block outcome) := by
  rcases houtcome : message.outcome? with _ | ⟨operation, outcome⟩
  · exact .inl (deliver_of_request houtcome)
  rcases hfind : table.find? message.block with _ | entry
  · exact .inl (deliver_of_absent hfind)
  cases hawaits : entry.awaits operation with
  | false => exact .inl (deliver_of_deaf houtcome hfind hawaits)
  | true =>
    obtain ⟨rfl, hopen⟩ := awaits_iff.mp hawaits
    exact .inr ⟨entry, outcome, rfl, hopen, rfl, deliver_of_awaits houtcome hfind hawaits⟩

/-! ## Taking an outcome -/

theorem take_of_absent {table : Table} {block : Address} (h : table.find? block = none) :
    table.take block = none := by
  simp [take, h]

theorem take_of_unsettled {table : Table} {block : Address} {entry : Entry}
    (hfind : table.find? block = some entry) (hopen : entry.outcome = none) :
    table.take block = none := by
  simp [take, hfind, hopen]

theorem take_of_settled {table : Table} {block : Address} {entry : Entry} {outcome : Completion}
    (hfind : table.find? block = some entry) (hsettled : entry.outcome = some outcome) :
    table.take block = some ((entry.operation, outcome), table.erase block) := by
  simp [take, hfind, hsettled]

/-! ## Registrations -/

/-- A free block is registered if there is room. -/
theorem exists_register {table : Table} {block : Address} (hfree : table.find? block = none)
    (hroom : table.size < table.limit) (operation : Operation) (now : Nat) :
    ∃ table', table.register block operation now = .ok table' := by
  unfold register
  split
  · rename_i hbusy
    rw [hfree] at hbusy
    cases hbusy
  · rw [dif_pos hroom]
    exact ⟨_, rfl⟩

/-- A registration is refused for one of two reasons. -/
theorem fault_of_register {table : Table} {block : Address} {operation : Operation} {now : Nat}
    {fault : RequestFault} (h : table.register block operation now = .error fault) :
    fault = .addressBusy block ∨ fault = .tableFull := by
  unfold register at h
  split at h
  · exact .inl (Except.error.inj h).symm
  · split at h
    · cases h
    · exact .inr (Except.error.inj h).symm

/-! ## Evictions -/

theorem find?_foldl_erase (blocks : List Address) (table : Table) (block : Address) :
    (blocks.foldl erase table).find? block =
      if block ∈ blocks then none else table.find? block := by
  induction blocks generalizing table with
  | nil => simp
  | cons first rest ih =>
    rw [List.foldl_cons, ih, find?_erase]
    by_cases hrest : block ∈ rest
    · simp [hrest]
    · simp [hrest]

theorem mem_expired_iff {table : Table} {now timeout : Nat} {block : Address} :
    block ∈ table.expired now timeout ↔
      ∃ entry, table.find? block = some entry ∧ timeout ≤ now - entry.issuedAt := by
  constructor
  · intro hmem
    obtain ⟨⟨key, entry⟩, hentry, rfl⟩ := List.mem_map.mp hmem
    obtain ⟨hthere, hlate⟩ := List.mem_filter.mp hentry
    exact ⟨entry, mem_entries_iff.mp hthere, of_decide_eq_true hlate⟩
  · rintro ⟨entry, hfind, hlate⟩
    exact List.mem_map.mpr ⟨(block, entry),
      List.mem_filter.mpr ⟨mem_entries_iff.mpr hfind, decide_eq_true hlate⟩, rfl⟩

/-- No block expires twice. -/
theorem nodup_expired (table : Table) (now timeout : Nat) : (table.expired now timeout).Nodup :=
  table.nodup.sublist (List.filter_sublist.map Prod.fst)

/-- An eviction leaves what has not expired. -/
theorem find?_evict (table : Table) (now timeout : Nat) (block : Address) :
    (table.evict now timeout).2.find? block =
      (table.find? block).filter fun entry => now - entry.issuedAt < timeout := by
  have hleft : (table.evict now timeout).2.find? block =
      if block ∈ table.expired now timeout then none else table.find? block :=
    find?_foldl_erase _ table block
  rw [hleft]
  cases hfind : table.find? block with
  | none => simp
  | some entry =>
    by_cases hlate : timeout ≤ now - entry.issuedAt
    · rw [if_pos (mem_expired_iff.mpr ⟨entry, hfind, hlate⟩), Option.filter_some,
        if_neg (by simpa using hlate)]
    · rw [if_neg]
      · rw [Option.filter_some, if_pos (by simpa using hlate)]
      · intro hmem
        obtain ⟨found, hfound, hgone⟩ := mem_expired_iff.mp hmem
        rw [hfind] at hfound
        exact hlate (Option.some.inj hfound ▸ hgone)

theorem limit_evict (table : Table) (now timeout : Nat) :
    (table.evict now timeout).2.limit = table.limit := by
  show ((table.expired now timeout).foldl erase table).limit = table.limit
  induction table.expired now timeout generalizing table with
  | nil => rfl
  | cons block blocks ih => exact ih (table.erase block)

theorem entries_evict_perm (table : Table) (now timeout : Nat) :
    (table.evict now timeout).2.entries.Perm
      (table.entries.filter fun entry => now - entry.2.issuedAt < timeout) := by
  apply entries_perm (table.nodup_entries.filter _)
  intro block entry
  rw [List.mem_filter, mem_entries_iff, find?_evict, Option.filter_eq_some_iff]

/-- A table in which nothing expires is left as it is. -/
theorem evict_of_expired_eq_nil {table : Table} {now timeout : Nat}
    (h : table.expired now timeout = []) : table.evict now timeout = ([], table) := by
  rw [evict, h]
  rfl

/-! ## Counts after a change -/

/-- There is nothing to forget about a block that is free. -/
theorem erase_of_absent {table : Table} {block : Address} (h : table.find? block = none) :
    table.erase block = table :=
  Table.ext rfl (Slots.swapErase_of_absent h)

/-- Forgetting a request that has just been registered leaves the table as it was. -/
theorem erase_of_register {table table' : Table} {block : Address}
    {operation : Operation} {now : Nat} (h : table.register block operation now = .ok table') :
    table'.erase block = table := by
  obtain ⟨hfree, _, hlimit, hentries⟩ := Table.register_eq_ok_iff.mp h
  apply Table.ext
  · exact hlimit
  · show Slots.swapErase block table'.entries = table.entries
    rw [hentries]
    exact Slots.swapErase_concat hfree _

theorem size_erase {table : Table} {block : Address} {entry : Entry}
    (hfind : table.find? block = some entry) :
    (table.erase block).size + 1 = table.size :=
  (entries_perm_cons_erase hfind).length_eq.symm

theorem settledCount_erase {table : Table} {block : Address} {entry : Entry}
    (hfind : table.find? block = some entry) :
    (table.erase block).settledCount + (if entry.outcome.isSome then 1 else 0) =
      table.settledCount := by
  rw [settledCount, settledCount, (entries_perm_cons_erase hfind).countP_eq, List.countP_cons]

theorem size_settle (table : Table) (block : Address) (outcome : Completion) :
    (table.settle block outcome).size = table.size := by
  rw [size, settle, Slots.length_modify, size]

theorem settledCount_settle {table : Table} {block : Address} {entry : Entry}
    (hfind : table.find? block = some entry) (hopen : entry.outcome = none)
    (outcome : Completion) :
    (table.settle block outcome).settledCount = table.settledCount + 1 := by
  have herase := settledCount_erase hfind
  rw [hopen] at herase
  rw [settledCount, (entries_settle_perm hfind outcome).countP_eq, List.countP_cons, ← herase]
  rfl

theorem size_register {table table' : Table} {block : Address} {operation : Operation}
    {now : Nat} (h : table.register block operation now = .ok table') :
    table'.size = table.size + 1 := by
  obtain ⟨_, _, _, hentries⟩ := register_eq_ok_iff.mp h
  rw [size, hentries, List.length_append]
  rfl

theorem settledCount_register {table table' : Table} {block : Address} {operation : Operation}
    {now : Nat} (h : table.register block operation now = .ok table') :
    table'.settledCount = table.settledCount := by
  obtain ⟨_, _, _, hentries⟩ := register_eq_ok_iff.mp h
  rw [settledCount, hentries, List.countP_append]
  rfl

/-- An eviction takes out as many entries as it reports. -/
theorem size_evict (table : Table) (now timeout : Nat) :
    (table.evict now timeout).2.size + (table.evict now timeout).1.length = table.size := by
  have hreported : (table.evict now timeout).1.length =
      table.entries.countP fun entry => decide (timeout ≤ now - entry.2.issuedAt) := by
    rw [List.countP_eq_length_filter]
    exact List.length_map ..
  have hleft : (table.evict now timeout).2.size =
      table.entries.countP fun entry => decide (now - entry.2.issuedAt < timeout) := by
    rw [List.countP_eq_length_filter]
    exact (entries_evict_perm table now timeout).length_eq
  have hall := List.length_eq_countP_add_countP
    (fun entry : Address × Entry => decide (timeout ≤ now - entry.2.issuedAt))
    (l := table.entries)
  simp only [decide_eq_true_eq, Nat.not_le] at hall
  rw [hreported, hleft, size, hall]
  exact Nat.add_comm _ _

/-- The number of expired requests whose result has arrived nevertheless. -/
def expiredSettledCount (table : Table) (now timeout : Nat) : Nat :=
  table.entries.countP fun entry =>
    entry.2.outcome.isSome && decide (timeout ≤ now - entry.2.issuedAt)

theorem settledCount_evict (table : Table) (now timeout : Nat) :
    (table.evict now timeout).2.settledCount + table.expiredSettledCount now timeout =
      table.settledCount := by
  have hsplit := List.countP_eq_countP_filter_add table.entries
    (fun entry : Address × Entry => entry.2.outcome.isSome)
    (fun entry => decide (now - entry.2.issuedAt < timeout))
  have hlate : (table.entries.filter fun entry =>
      !decide (now - entry.2.issuedAt < timeout)).countP (fun entry => entry.2.outcome.isSome) =
        table.expiredSettledCount now timeout := by
    simp only [List.countP_filter, ← decide_not, Nat.not_lt]
    rfl
  rw [settledCount, (entries_evict_perm table now timeout).countP_eq, ← hlate]
  exact hsplit.symm

end Table
end Pending
end BlockBridge

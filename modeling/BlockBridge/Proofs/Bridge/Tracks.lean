import BlockBridge.Proofs.Bridge.Carries
import BlockBridge.Proofs.Pending.Entries

/-!
# The table and what is on its way

In a run that abandons no request, every request that waits for its result is
about exactly one exchange that the client has yet to hear of, and no two of
these are about the same block.  So the first reply always finds its request
waiting, and what is on its way is no more than what the table admits.

Main statements: what a submission, a reply and the end of a wait do to this
(`Bridge.Tracks.register`, `deliver`, `erase`), and the count that follows
(`Bridge.Tracks.length_eq`).
-/

namespace BlockBridge
namespace Bridge

/-- The entries that wait for a result are about the exchanges on their way, each
about another one, and the outcomes are those that a sequential device keeps. -/
structure Tracks (pending : Pending.Table) (onTheWay : List Exchange)
    (ending : Address → Option Completion) : Prop where
  distinct : (onTheWay.map fun exchange => exchange.request.block).Nodup
  awaited : ∀ exchange ∈ onTheWay, ∃ entry,
    pending.find? exchange.request.block = some entry ∧
      entry.awaits exchange.request.operation = true ∧
      ending exchange.request.block = some exchange.ending
  unsettled : ∀ block entry, pending.find? block = some entry → entry.outcome = none →
    ∃ exchange ∈ onTheWay, exchange.request.block = block
  settled : ∀ block entry outcome, pending.find? block = some entry →
    entry.outcome = some outcome → ending block = some outcome
  absent : ∀ block, pending.find? block = none → ending block = none

namespace Tracks

variable {pending : Pending.Table} {onTheWay : List Exchange}
  {ending : Address → Option Completion}

/-- Nothing is on its way about a block whose request does not wait. -/
theorem ne_of_not_open (h : Tracks pending onTheWay ending) {block : Address}
    (hblock : ∀ entry, pending.find? block = some entry → entry.outcome ≠ none) :
    ∀ exchange ∈ onTheWay, exchange.request.block ≠ block := by
  intro exchange hmem heq
  obtain ⟨entry, hfind, hawaits, _⟩ := h.awaited exchange hmem
  rw [heq] at hfind
  exact hblock entry hfind (Pending.Table.awaits_iff.mp hawaits).2

/-- A request is accepted. -/
theorem register (h : Tracks pending onTheWay ending) {pending' : Pending.Table}
    {exchange : Exchange} {now : Nat}
    (hregister : pending.register exchange.request.block exchange.request.operation now =
      .ok pending') :
    Tracks pending' (onTheWay ++ [exchange])
      (Function.update ending exchange.request.block (some exchange.ending)) := by
  have hfind := Pending.Table.find?_of_register hregister
  obtain ⟨hfree, _, _, _⟩ := Pending.Table.register_eq_ok_iff.mp hregister
  have hother : ∀ known ∈ onTheWay, known.request.block ≠ exchange.request.block := by
    apply h.ne_of_not_open
    intro entry hentry
    rw [hfree] at hentry
    exact absurd hentry nofun
  constructor
  case distinct =>
    rw [List.map_append, List.nodup_append]
    refine ⟨h.distinct, by simp, ?_⟩
    intro block hmem block' hmem' heq
    obtain ⟨known, hknown, rfl⟩ := List.mem_map.mp hmem
    rw [List.map_singleton, List.mem_singleton] at hmem'
    exact hother known hknown (heq.trans hmem')
  case awaited =>
    intro known hmem
    rcases List.mem_append.mp hmem with hold | hnew
    · obtain ⟨entry, hentry, hawaits, hending⟩ := h.awaited known hold
      refine ⟨entry, ?_, hawaits, ?_⟩
      · rw [hfind, if_neg (hother known hold)]
        exact hentry
      · rw [Function.update_of_ne (hother known hold)]
        exact hending
    · rw [List.mem_singleton] at hnew
      subst hnew
      refine ⟨_, by rw [hfind, if_pos rfl], ?_, Function.update_self ..⟩
      exact Pending.Table.awaits_iff.mpr ⟨rfl, rfl⟩
  case unsettled =>
    intro block entry hentry hopen
    by_cases hblock : block = exchange.request.block
    · exact ⟨exchange, by simp, hblock.symm⟩
    · rw [hfind, if_neg hblock] at hentry
      obtain ⟨known, hknown, hsame⟩ := h.unsettled block entry hentry hopen
      exact ⟨known, List.mem_append_left _ hknown, hsame⟩
  case settled =>
    intro block entry outcome hentry houtcome
    by_cases hblock : block = exchange.request.block
    · rw [hfind, if_pos hblock] at hentry
      rw [← Option.some.inj hentry] at houtcome
      exact absurd houtcome nofun
    · rw [hfind, if_neg hblock] at hentry
      rw [Function.update_of_ne hblock]
      exact h.settled block entry outcome hentry houtcome
  case absent =>
    intro block hnone
    by_cases hblock : block = exchange.request.block
    · rw [hfind, if_pos hblock] at hnone
      exact absurd hnone nofun
    · rw [hfind, if_neg hblock] at hnone
      rw [Function.update_of_ne hblock]
      exact h.absent block hnone

/-- The first reply is taken in.  Its request waits for it. -/
theorem deliver {exchange : Exchange} (h : Tracks pending (exchange :: onTheWay) ending) :
    Tracks (pending.settle exchange.request.block exchange.ending) onTheWay ending := by
  obtain ⟨hfirst, hdistinct⟩ := List.nodup_cons.mp h.distinct
  have hother : ∀ known ∈ onTheWay, known.request.block ≠ exchange.request.block := by
    intro known hknown heq
    apply hfirst
    show exchange.request.block ∈ _
    rw [← heq]
    exact List.mem_map_of_mem hknown
  constructor
  case distinct => exact hdistinct
  case awaited =>
    intro known hknown
    obtain ⟨entry, hentry, hawaits, hending⟩ := h.awaited known (List.mem_cons_of_mem _ hknown)
    refine ⟨entry, ?_, hawaits, hending⟩
    rw [Pending.Table.find?_settle, hentry, Option.map_some, if_neg (hother known hknown)]
  case unsettled =>
    intro block entry hentry hopen
    rw [Pending.Table.find?_settle, Option.map_eq_some_iff] at hentry
    obtain ⟨before, hbefore, rfl⟩ := hentry
    by_cases hblock : block = exchange.request.block
    · rw [if_pos hblock] at hopen
      exact absurd hopen nofun
    · rw [if_neg hblock] at hopen
      obtain ⟨known, hknown, hsame⟩ := h.unsettled block before hbefore hopen
      rcases List.mem_cons.mp hknown with rfl | hlater
      · exact absurd hsame.symm hblock
      · exact ⟨known, hlater, hsame⟩
  case settled =>
    intro block entry outcome hentry houtcome
    rw [Pending.Table.find?_settle, Option.map_eq_some_iff] at hentry
    obtain ⟨before, hbefore, rfl⟩ := hentry
    by_cases hblock : block = exchange.request.block
    · rw [if_pos hblock] at houtcome
      obtain ⟨_, _, _, hending⟩ := h.awaited exchange List.mem_cons_self
      rw [hblock, hending]
      exact houtcome
    · rw [if_neg hblock] at houtcome
      exact h.settled block before outcome hbefore houtcome
  case absent =>
    intro block hnone
    rw [Pending.Table.find?_settle, Option.map_eq_none_iff] at hnone
    exact h.absent block hnone

/-- A request that does not wait any more is forgotten. -/
theorem erase (h : Tracks pending onTheWay ending) {block : Address}
    (hblock : ∀ entry, pending.find? block = some entry → entry.outcome ≠ none) :
    Tracks (pending.erase block) onTheWay (Function.update ending block none) := by
  have hother := h.ne_of_not_open hblock
  constructor
  case distinct => exact h.distinct
  case awaited =>
    intro known hknown
    obtain ⟨entry, hentry, hawaits, hending⟩ := h.awaited known hknown
    refine ⟨entry, ?_, hawaits, ?_⟩
    · rw [Pending.Table.find?_erase, if_neg (hother known hknown)]
      exact hentry
    · rw [Function.update_of_ne (hother known hknown)]
      exact hending
  case unsettled =>
    intro other entry hentry hopen
    rw [Pending.Table.find?_erase] at hentry
    by_cases hsame : other = block
    · rw [if_pos hsame] at hentry
      exact absurd hentry nofun
    · rw [if_neg hsame] at hentry
      exact h.unsettled other entry hentry hopen
  case settled =>
    intro other entry outcome hentry houtcome
    rw [Pending.Table.find?_erase] at hentry
    by_cases hsame : other = block
    · rw [if_pos hsame] at hentry
      exact absurd hentry nofun
    · rw [if_neg hsame] at hentry
      rw [Function.update_of_ne hsame]
      exact h.settled other entry outcome hentry houtcome
  case absent =>
    intro other hnone
    rw [Pending.Table.find?_erase] at hnone
    by_cases hsame : other = block
    · rw [hsame]
      exact Function.update_self ..
    · rw [if_neg hsame] at hnone
      rw [Function.update_of_ne hsame]
      exact h.absent other hnone

/-- There are as many exchanges on their way as requests that wait: their blocks
are the keys of these. -/
theorem length_eq (h : Tracks pending onTheWay ending) :
    onTheWay.length = pending.unsettledCount := by
  have hperm : (onTheWay.map fun exchange => exchange.request.block).Perm
      ((pending.entries.filter fun entry => entry.2.outcome.isNone).map Prod.fst) := by
    have hkeys : ((pending.entries.filter fun entry => entry.2.outcome.isNone).map
        Prod.fst).Nodup :=
      pending.nodup.sublist (List.filter_sublist.map Prod.fst)
    rw [List.perm_ext_iff_of_nodup h.distinct hkeys]
    intro block
    constructor
    · intro hmem
      obtain ⟨exchange, hexchange, rfl⟩ := List.mem_map.mp hmem
      obtain ⟨entry, hentry, hawaits, _⟩ := h.awaited exchange hexchange
      refine List.mem_map.mpr ⟨(exchange.request.block, entry), ?_, rfl⟩
      rw [List.mem_filter, Pending.Table.mem_entries_iff]
      refine ⟨hentry, ?_⟩
      rw [(Pending.Table.awaits_iff.mp hawaits).2]
      rfl
    · intro hmem
      obtain ⟨⟨key, entry⟩, hentry, rfl⟩ := List.mem_map.mp hmem
      rw [List.mem_filter, Pending.Table.mem_entries_iff] at hentry
      obtain ⟨exchange, hexchange, hblock⟩ :=
        h.unsettled key entry hentry.1 (Option.isNone_iff_eq_none.mp hentry.2)
      exact List.mem_map.mpr ⟨exchange, hexchange, hblock⟩
  have hlength := hperm.length_eq
  rw [List.length_map, List.length_map] at hlength
  rw [hlength, Pending.Table.unsettledCount, List.countP_eq_length_filter]

/-- What is on its way has room in one queue. -/
theorem length_le_depth (h : Tracks pending onTheWay ending) :
    onTheWay.length ≤ pending.size ∧ pending.size ≤ pending.limit ∧
      pending.limit ≤ Loopback.depth := by
  have hcount := pending.settledCount_add_unsettledCount
  have hlength := h.length_eq
  refine ⟨by omega, pending.length_le, ?_⟩
  show pending.limit ≤ Pending.maxInFlight
  exact pending.limit_le

end Tracks
end Bridge
end BlockBridge

import BlockBridge.Proofs.Pending.Run
import Mathlib.Data.Finmap

/-!
# The table as a finite map

A table keeps its entries in an order which removals change: the last entry moves
into the hole.  Whoever uses the table sees nothing of that.  To say so, the table is
set beside a registry, which is a finite map from blocks to requests with a capacity,
and has no order at all.

Reading a table as a registry forgets the order (`Pending.Registry.ofTable`).  Every
query is answered alike before and after that, and leads to the same registry
(`Pending.Registry.ask_ofTable`); only the blocks that an eviction reports come in an
order, and the answer leaves it out.

Main statement: `Pending.Table.answers_as_registry`.
-/

namespace BlockBridge

/-- Put a value under a key.  A new key goes to the end, and is refused if there are
as many entries as there is room for. -/
def Slots.insert? {κ ν : Type} [DecidableEq κ] (room : Nat) (key : κ) (value : ν)
    (entries : List (κ × ν)) : Option (List (κ × ν)) :=
  if (find? key entries).isSome then some (modify key (fun _ => value) entries)
  else if entries.length < room then some (entries ++ [(key, value)])
  else none

namespace Pending

/-! ## Queries -/

/-- Something asked of a table: a use of it, or a look at it. -/
inductive Query where
  | use (call : Call)
  | issuedAt (block : Address)
  | contains (block : Address)
  | size
  | isEmpty

/-- What a query is answered with.  The blocks of an eviction are in no order. -/
inductive Answer where
  | registered (result : Except RequestFault Unit)
  | delivered (verdict : Delivery)
  | taken (outcome : Option (Operation × Completion))
  | cancelled (found : Bool)
  | evicted (blocks : Multiset Address)
  | issuedAt (time : Option Nat)
  | contains (found : Bool)
  | size (count : Nat)
  | isEmpty (empty : Bool)
  deriving DecidableEq

/-- What an event answers. -/
def Event.answer : Event → Answer
  | registered .. => .registered (.ok ())
  | refused fault => .registered (.error fault)
  | delivered _ verdict => .delivered verdict
  | taken _ outcome => .taken outcome
  | cancelled _ found => .cancelled found
  | evicted blocks => .evicted blocks

namespace Table

/-- Put a query to a table. -/
def ask : Query → Table → Answer × Table
  | .use call, table => (table.call call).map Event.answer id
  | .issuedAt block, table => (.issuedAt (table.issuedAt block), table)
  | .contains block, table => (.contains (table.contains block), table)
  | .size, table => (.size table.size, table)
  | .isEmpty, table => (.isEmpty table.isEmpty, table)

/-- Put one query after the other; the answers come in that order. -/
def askAll : List Query → Table → List Answer × Table
  | [], table => ([], table)
  | query :: rest, table =>
    let asked := table.ask query
    let others := askAll rest asked.2
    (asked.1 :: others.1, others.2)

end Table

/-! ## Registries -/

/-- The requests in flight as a finite map, and how many of them there may be. -/
structure Registry where
  capacity : Nat
  requests : Finmap fun _ : Address => Entry

namespace Registry

/-- A registry of this capacity in which nothing is in flight. -/
def empty (capacity : Nat) : Registry := ⟨capacity, ∅⟩

/-- The number of requests in flight. -/
def size (registry : Registry) : Nat := registry.requests.keys.card

/-- A block that has a request already is refused; if there is none, a registry at its
capacity refuses any. -/
def register (block : Address) (operation : Operation) (now : Nat) (registry : Registry) :
    Except RequestFault Unit × Registry :=
  if block ∈ registry.requests then (.error (.addressBusy block), registry)
  else if registry.capacity ≤ registry.size then (.error .tableFull, registry)
  else
    (.ok (), { registry with
      requests := registry.requests.insert block { operation, issuedAt := now } })

/-- A message completes the request that is open for its block, if it answers that. -/
def deliver (message : Message) (registry : Registry) : Delivery × Registry :=
  match registry.requests.lookup message.block with
  | none => (.stale, registry)
  | some entry =>
    match entry.outcome, message.answer? message.block entry.operation with
    | none, some outcome =>
      (.completed, { registry with
        requests :=
          registry.requests.insert message.block { entry with outcome := some outcome } })
    | none, none | some _, _ => (.stale, registry)

/-- Forget the request for a block. -/
def erase (block : Address) (registry : Registry) : Registry :=
  { registry with requests := registry.requests.erase block }

/-- A request that is completed is handed out and forgotten. -/
def take (block : Address) (registry : Registry) :
    Option (Operation × Completion) × Registry :=
  match registry.requests.lookup block with
  | none => (none, registry)
  | some entry =>
    match entry.outcome with
    | none => (none, registry)
    | some outcome => (some (entry.operation, outcome), registry.erase block)

/-- The requests of a finite map that satisfy a condition. -/
def keep (condition : Entry → Bool) (requests : Finmap fun _ : Address => Entry) :
    Finmap fun _ : Address => Entry where
  entries := requests.entries.filter fun item => condition item.2
  nodupKeys := by
    rw [← Multiset.nodup_keys]
    exact Multiset.nodup_of_le (Multiset.map_le_map (Multiset.filter_le _ _))
      requests.nodupKeys.nodup_keys

theorem lookup_keep (condition : Entry → Bool) (requests : Finmap fun _ : Address => Entry)
    (block : Address) :
    (keep condition requests).lookup block = (requests.lookup block).filter condition := by
  apply Option.ext
  intro entry
  rw [Finmap.lookup_eq_some_iff, keep, Multiset.mem_filter, ← Finmap.lookup_eq_some_iff,
    Option.filter_eq_some_iff]

/-- Forget the requests that were issued `timeout` or more before `now`. -/
def evict (now timeout : Nat) (registry : Registry) : Multiset Address × Registry :=
  ((keep (fun entry => timeout ≤ now - entry.issuedAt) registry.requests).keys.val,
    { registry with
      requests := keep (fun entry => now - entry.issuedAt < timeout) registry.requests })

/-- Put a query to a registry. -/
def ask : Query → Registry → Answer × Registry
  | .use (.register block operation now), registry =>
    (registry.register block operation now).map .registered id
  | .use (.deliver message), registry => (registry.deliver message).map .delivered id
  | .use (.take block), registry => (registry.take block).map .taken id
  | .use (.cancel block), registry =>
    (.cancelled (block ∈ registry.requests), registry.erase block)
  | .use (.evict now timeout), registry => (registry.evict now timeout).map .evicted id
  | .issuedAt block, registry =>
    (.issuedAt ((registry.requests.lookup block).map Entry.issuedAt), registry)
  | .contains block, registry => (.contains (block ∈ registry.requests), registry)
  | .size, registry => (.size registry.size, registry)
  | .isEmpty, registry => (.isEmpty (registry.size = 0), registry)

/-- Put one query after the other; the answers come in that order. -/
def askAll : List Query → Registry → List Answer × Registry
  | [], registry => ([], registry)
  | query :: rest, registry =>
    let asked := registry.ask query
    let others := askAll rest asked.2
    (asked.1 :: others.1, others.2)

end Registry

/-! ## Tables read as registries -/

namespace Table

/-- The entries of a table without their order. -/
def requests (table : Table) : Finmap fun _ : Address => Entry where
  entries := (table.entries.map fun entry => (⟨entry.1, entry.2⟩ : Sigma fun _ => Entry) :
    List (Sigma fun _ : Address => Entry))
  nodupKeys := by
    rw [Multiset.coe_nodupKeys, List.NodupKeys, List.keys, List.map_map]
    exact table.nodup

@[simp]
theorem lookup_requests (table : Table) (block : Address) :
    table.requests.lookup block = table.find? block := by
  apply Option.ext
  intro entry
  rw [Finmap.lookup_eq_some_iff, ← mem_entries_iff, requests, Multiset.mem_coe, List.mem_map]
  constructor
  · rintro ⟨⟨block', entry'⟩, hmem, heq⟩
    cases heq
    exact hmem
  · intro hmem
    exact ⟨(block, entry), hmem, rfl⟩

theorem mem_requests_iff (table : Table) (block : Address) :
    block ∈ table.requests ↔ table.contains block = true := by
  rw [← Finmap.lookup_isSome, lookup_requests, contains]

theorem card_keys_requests (table : Table) : table.requests.keys.card = table.size := by
  rw [Finmap.keys, Finset.card_mk, Multiset.keys, Multiset.card_map, requests, Multiset.coe_card,
    List.length_map, size]

/-- A finite map that says the same of every block is what the table comes to. -/
theorem requests_eq {table : Table} {requests : Finmap fun _ : Address => Entry}
    (h : ∀ block, table.find? block = requests.lookup block) : table.requests = requests := by
  apply Finmap.ext_lookup
  intro block
  rw [lookup_requests, h]

/-! ### After a change -/

theorem requests_erase (table : Table) (block : Address) :
    (table.erase block).requests = table.requests.erase block := by
  apply requests_eq
  intro other
  rw [find?_erase]
  by_cases hother : other = block
  · rw [if_pos hother, hother, Finmap.lookup_erase]
  · rw [if_neg hother, Finmap.lookup_erase_ne hother, lookup_requests]

theorem requests_of_register {table table' : Table} {block : Address} {operation : Operation}
    {now : Nat} (h : table.register block operation now = .ok table') :
    table'.requests = table.requests.insert block { operation, issuedAt := now } := by
  apply requests_eq
  intro other
  rw [find?_of_register h]
  by_cases hother : other = block
  · rw [if_pos hother, hother, Finmap.lookup_insert]
  · rw [if_neg hother, Finmap.lookup_insert_of_ne _ hother, lookup_requests]

theorem requests_settle {table : Table} {block : Address} {entry : Entry}
    (hfind : table.find? block = some entry) (outcome : Completion) :
    (table.settle block outcome).requests =
      table.requests.insert block { entry with outcome := some outcome } := by
  apply requests_eq
  intro other
  rw [find?_settle]
  by_cases hother : other = block
  · rw [hother, Finmap.lookup_insert, hfind, Option.map_some, if_pos rfl]
  · rw [Finmap.lookup_insert_of_ne _ hother, lookup_requests]
    simp only [if_neg hother, Option.map_id']

theorem requests_evict (table : Table) (now timeout : Nat) :
    (table.evict now timeout).2.requests =
      Registry.keep (fun entry => now - entry.issuedAt < timeout) table.requests := by
  apply requests_eq
  intro block
  rw [find?_evict, Registry.lookup_keep, lookup_requests]

theorem coe_expired (table : Table) (now timeout : Nat) :
    (table.expired now timeout : Multiset Address) =
      (Registry.keep (fun entry => timeout ≤ now - entry.issuedAt) table.requests).keys.val := by
  show (table.expired now timeout : Multiset Address) = Multiset.map Sigma.fst
    (Multiset.filter (fun item => decide (timeout ≤ now - item.2.issuedAt)) table.requests.entries)
  rw [requests, Multiset.filter_coe, Multiset.map_coe, List.filter_map, List.map_map, expired,
    Slots.keys]
  simp only [Function.comp_def, Bool.decide_eq_true]

/-! ### Registrations -/

theorem register_of_contains {table : Table} {block : Address}
    (h : table.contains block = true) (operation : Operation) (now : Nat) :
    table.register block operation now = .error (.addressBusy block) := by
  obtain ⟨entry, hfind⟩ := Option.isSome_iff_exists.mp h
  unfold register
  split
  · rfl
  · rename_i hfree
    rw [hfind] at hfree
    cases hfree

theorem contains_eq_false_iff {table : Table} {block : Address} :
    table.contains block = false ↔ table.find? block = none := by
  rw [contains, Option.isSome_eq_false_iff, Option.isNone_iff_eq_none]

theorem register_of_full {table : Table} {block : Address} (hfree : table.contains block = false)
    (hfull : table.limit ≤ table.size) (operation : Operation) (now : Nat) :
    table.register block operation now = .error .tableFull := by
  unfold register
  split
  · rename_i entry hfind
    rw [contains_eq_false_iff.mp hfree] at hfind
    cases hfind
  · rw [dif_neg (Nat.not_lt.mpr hfull)]

/-- Slots for as many entries as any table admits have room for whatever is registered. -/
theorem insert?_of_register {table table' : Table} {block : Address} {operation : Operation}
    {now : Nat} (h : table.register block operation now = .ok table') :
    Slots.insert? maxInFlight block { operation, issuedAt := now } table.entries =
      some table'.entries := by
  obtain ⟨hfree, hroom, _, hentries⟩ := register_eq_ok_iff.mp h
  have hfree : (Slots.find? block table.entries).isSome = false := by
    rw [show Slots.find? block table.entries = none from hfree]
    rfl
  have hslots : table.entries.length < maxInFlight := Nat.lt_of_lt_of_le hroom table.limit_le
  rw [Slots.insert?, hfree, if_neg Bool.false_ne_true, if_pos hslots, hentries]

end Table

/-! ## Answers -/

namespace Registry

/-- A table read as a registry. -/
def ofTable (table : Table) : Registry := ⟨table.limit, table.requests⟩

theorem ofTable_empty (limit : Nat) :
    ofTable (.empty limit) = empty (max 1 (min limit maxInFlight)) := rfl

/-- Nothing is left of the order. -/
theorem ofTable_of_perm {table table' : Table} (hlimit : table.limit = table'.limit)
    (hperm : table.entries.Perm table'.entries) : ofTable table = ofTable table' := by
  have hrequests : table.requests = table'.requests :=
    Finmap.ext (Multiset.coe_eq_coe.mpr (hperm.map _))
  rw [ofTable, ofTable, hlimit, hrequests]

theorem size_ofTable (table : Table) : (ofTable table).size = table.size :=
  table.card_keys_requests

theorem ofTable_erase (table : Table) (block : Address) :
    ofTable (table.erase block) = (ofTable table).erase block :=
  congrArg (Registry.mk table.limit) (table.requests_erase block)

theorem register_ofTable (table : Table) (block : Address) (operation : Operation) (now : Nat) :
    (ofTable table).register block operation now =
      match table.register block operation now with
      | .ok table' => (.ok (), ofTable table')
      | .error fault => (.error fault, ofTable table) := by
  have hmem : block ∈ (ofTable table).requests ↔ table.contains block = true :=
    table.mem_requests_iff block
  rw [register, size_ofTable]
  cases hcontains : table.contains block with
  | true =>
    rw [if_pos (hmem.mpr hcontains), Table.register_of_contains hcontains]
  | false =>
    have hnot : block ∉ (ofTable table).requests := by
      rw [hmem, hcontains]
      exact Bool.false_ne_true
    rw [if_neg hnot]
    by_cases hfull : (ofTable table).capacity ≤ table.size
    · rw [if_pos hfull, Table.register_of_full hcontains hfull]
    · obtain ⟨table', hregister⟩ := Table.exists_register
        (Table.contains_eq_false_iff.mp hcontains) (Nat.lt_of_not_le hfull) operation now
      obtain ⟨_, _, hlimit, _⟩ := Table.register_eq_ok_iff.mp hregister
      rw [if_neg hfull, hregister]
      simp only [ofTable, hlimit, Table.requests_of_register hregister]

theorem deliver_ofTable (table : Table) (message : Message) :
    (ofTable table).deliver message =
      ((table.deliver message).1, ofTable (table.deliver message).2) := by
  have hlookup : (ofTable table).requests.lookup message.block = table.find? message.block :=
    table.lookup_requests message.block
  have hcompleted := table.deliver_eq_completed_iff message
  rw [deliver, hlookup]
  rcases table.deliver_cases message with hstale | ⟨entry, outcome, hfind, hopen, houtcome, hdone⟩
  · rw [hstale] at hcompleted ⊢
    rcases hfind : table.find? message.block with _ | entry
    · rfl
    · rcases hopen : entry.outcome with _ | settled
      · -- An open request that the message answers would have been completed.
        rcases hanswer : message.answer? message.block entry.operation with _ | outcome
        · simp only [hopen, hanswer]
        · have hnot := hcompleted.mpr ⟨entry, hfind, hopen, by rw [hanswer]; rfl⟩
          cases hnot
      · simp only [hopen]
  · have hanswer : message.answer? message.block entry.operation = some outcome :=
      Message.answer?_eq_some_iff.mpr ⟨rfl, houtcome⟩
    rw [hdone, hfind]
    simp only [hopen, hanswer]
    rw [ofTable, ofTable, Table.requests_settle hfind]
    rfl

theorem take_ofTable (table : Table) (block : Address) :
    (ofTable table).take block =
      match table.take block with
      | some (outcome, table') => (some outcome, ofTable table')
      | none => (none, ofTable table) := by
  have hlookup : (ofTable table).requests.lookup block = table.find? block :=
    table.lookup_requests block
  rw [take, hlookup]
  rcases hfind : table.find? block with _ | entry
  · rw [Table.take_of_absent hfind]
  · rcases hsettled : entry.outcome with _ | outcome
    · rw [Table.take_of_unsettled hfind hsettled]
      simp only [hsettled]
    · rw [Table.take_of_settled hfind hsettled]
      simp only [hsettled, ofTable_erase]

theorem evict_ofTable (table : Table) (now timeout : Nat) :
    (ofTable table).evict now timeout =
      (((table.evict now timeout).1 : Multiset Address), ofTable (table.evict now timeout).2) := by
  have hexpired : ((table.evict now timeout).1 : Multiset Address) =
      (keep (fun entry => timeout ≤ now - entry.issuedAt) table.requests).keys.val :=
    table.coe_expired now timeout
  have hlimit : (table.evict now timeout).2.limit = table.limit := table.limit_evict now timeout
  rw [evict, hexpired, ofTable, ofTable, hlimit, Table.requests_evict]

theorem decide_mem_ofTable (table : Table) (block : Address) :
    decide (block ∈ (ofTable table).requests) = table.contains block := by
  rw [Bool.eq_iff_iff, decide_eq_true_eq]
  exact table.mem_requests_iff block

theorem isEmpty_eq_decide (table : Table) : table.isEmpty = decide (table.size = 0) := by
  rw [Bool.eq_iff_iff, decide_eq_true_eq]
  exact List.isEmpty_iff_length_eq_zero

/-- Every query is answered alike by a table and by the registry that it comes to. -/
theorem ask_ofTable (query : Query) (table : Table) :
    (ofTable table).ask query = ((table.ask query).1, ofTable (table.ask query).2) := by
  cases query with
  | use call =>
    cases call with
    | register block operation now =>
      rw [ask, register_ofTable, Table.ask, Table.call]
      cases table.register block operation now <;> rfl
    | deliver message =>
      rw [ask, deliver_ofTable]
      rfl
    | take block =>
      rw [ask, take_ofTable, Table.ask, Table.call]
      cases table.take block <;> rfl
    | cancel block =>
      rw [ask, decide_mem_ofTable, ← ofTable_erase]
      rfl
    | evict now timeout =>
      rw [ask, evict_ofTable]
      rfl
  | issuedAt block =>
    have hlookup : (ofTable table).requests.lookup block = table.find? block :=
      table.lookup_requests block
    rw [ask, hlookup]
    rfl
  | contains block =>
    rw [ask, decide_mem_ofTable]
    rfl
  | size =>
    rw [ask, size_ofTable]
    rfl
  | isEmpty =>
    rw [ask, size_ofTable, ← isEmpty_eq_decide]
    rfl

/-- So is every list of queries, by induction on it. -/
theorem askAll_ofTable (queries : List Query) (table : Table) :
    (ofTable table).askAll queries =
      ((table.askAll queries).1, ofTable (table.askAll queries).2) := by
  induction queries generalizing table with
  | nil => rfl
  | cons query rest ih =>
    rw [askAll, ask_ofTable]
    simp only [ih]
    rfl

end Registry

namespace Table

theorem limit_ask (query : Query) (table : Table) : (table.ask query).2.limit = table.limit := by
  cases query with
  | use call =>
    cases call with
    | register block operation now =>
      simp only [ask, call]
      rcases hregister : table.register block operation now with _ | table'
      · rfl
      · exact (register_eq_ok_iff.mp hregister).2.2.1
    | deliver message =>
      show (table.deliver message).2.limit = table.limit
      rcases table.deliver_table message with hsame | ⟨outcome, hsettled⟩
      · rw [hsame]
      · rw [hsettled]
        rfl
    | take block =>
      simp only [ask, call]
      rcases htake : table.take block with _ | ⟨⟨operation, outcome⟩, table'⟩
      · rfl
      · obtain ⟨_, _, _, _, rfl⟩ := take_eq_some_iff.mp htake
        rfl
    | cancel block => rfl
    | evict now timeout => exact table.limit_evict now timeout
  | issuedAt | contains | size | isEmpty => rfl

theorem limit_askAll (queries : List Query) (table : Table) :
    (table.askAll queries).2.limit = table.limit := by
  induction queries generalizing table with
  | nil => rfl
  | cons query rest ih => exact (ih (table.ask query).2).trans (table.limit_ask query)

/-- A table answers as a finite map does.  Let queries of any kind be put to a fresh
table.  They are answered as by an empty registry of the capacity that the table was
asked for, as near to it as one to eight allow.  No two entries are for one block, and
there are never more than the capacity.  A registration fails for a block that is there
and, if there is none, at capacity; it then changes nothing.  Otherwise it succeeds, and
eight slots take the entry.  The order of the entries has no part in what is answered
from then on. -/
theorem answers_as_registry (limit : Nat) (queries : List Query) :
    let capacity := max 1 (min limit 8)
    let answers := ((empty limit).askAll queries).1
    let table := ((empty limit).askAll queries).2
    answers = ((Registry.empty capacity).askAll queries).1 ∧
    ((Slots.keys table.entries).Nodup ∧ table.size ≤ capacity) ∧
    (∀ block operation now,
      let asked := table.ask (.use (.register block operation now))
      (table.contains block = true →
        asked = (.registered (.error (.addressBusy block)), table)) ∧
      (table.contains block = false → table.size = capacity →
        asked = (.registered (.error .tableFull), table)) ∧
      (table.contains block = false → table.size ≠ capacity →
        asked.1 = .registered (.ok ()) ∧
          Slots.insert? 8 block { operation, issuedAt := now } table.entries =
            some asked.2.entries)) ∧
    ∀ table' : Table, table'.limit = capacity → table'.entries.Perm table.entries →
      ∀ later, (table'.askAll later).1 = (table.askAll later).1 := by
  intro capacity answers table
  have hlimit : table.limit = capacity := limit_askAll queries (empty limit)
  have hbound : table.size ≤ capacity := hlimit ▸ table.length_le
  refine ⟨?_, ⟨table.nodup, hbound⟩, ?_, ?_⟩
  · have hanswers := Registry.askAll_ofTable queries (empty limit)
    rw [Registry.ofTable_empty] at hanswers
    exact (congrArg Prod.fst hanswers).symm
  · intro block operation now asked
    have hasked : asked = table.ask (.use (.register block operation now)) := rfl
    rw [ask, call] at hasked
    refine ⟨?_, ?_, ?_⟩
    · intro hbusy
      rw [hasked, register_of_contains hbusy]
      rfl
    · intro hfree hfull
      rw [hasked, register_of_full hfree (by omega)]
      rfl
    · intro hfree hroom
      obtain ⟨table', hregister⟩ := exists_register (contains_eq_false_iff.mp hfree)
        (by omega : table.size < table.limit) operation now
      rw [hasked, hregister]
      exact ⟨rfl, insert?_of_register hregister⟩
  · intro table' hlimit' hperm later
    have hsame : Registry.ofTable table' = Registry.ofTable table :=
      Registry.ofTable_of_perm (hlimit'.trans hlimit.symm) hperm
    have hanswers := Registry.askAll_ofTable later table'
    rw [hsame, Registry.askAll_ofTable] at hanswers
    exact (congrArg Prod.fst hanswers).symm

/-- A table of three that is full; and two tables of the same two requests, of which a
cancellation has turned the one around. -/
theorem answers_as_registry_turned_around :
    let two : List Query := [.use (.register 2 .write 5), .use (.register 3 .read 7)]
    let three : List Query := .use (.register 1 .read 0) :: two
    let later : List Query := [.use (.evict 9 2), .size, .use (.take 2)]
    let full := ((empty 3).askAll three).2
    let holed := ((empty 3).askAll (three ++ [.use (.cancel 1)])).2
    let plain := ((empty 3).askAll two).2
    (full.contains 2 = true ∧
      full.ask (.use (.register 2 .read 9)) = (.registered (.error (.addressBusy 2)), full)) ∧
    (full.contains 4 = false ∧ full.size = 3 ∧
      full.ask (.use (.register 4 .read 9)) = (.registered (.error .tableFull), full)) ∧
    (holed.contains 4 = false ∧ holed.size ≠ 3 ∧
      (holed.ask (.use (.register 4 .read 9))).1 = .registered (.ok ())) ∧
    (Slots.keys holed.entries = [3, 2] ∧ Slots.keys plain.entries = [2, 3]) ∧
    plain.limit = 3 ∧ plain.entries.Perm holed.entries ∧
      (plain.askAll later).1 = (holed.askAll later).1 := by
  intro two three later full holed plain
  obtain ⟨_, _, hfull, _⟩ := answers_as_registry 3 three
  obtain ⟨_, _, hholed, horder⟩ := answers_as_registry 3 (three ++ [.use (.cancel 1)])
  have hbusy : full.contains 2 = true := by decide
  have hfree : full.contains 4 = false := by decide
  have hsize : full.size = 3 := by decide
  have hfree' : holed.contains 4 = false := by decide
  have hsize' : holed.size ≠ 3 := by decide
  have hlimit : plain.limit = 3 := by decide
  have hperm : plain.entries.Perm holed.entries := by decide
  exact ⟨⟨hbusy, (hfull 2 .read 9).1 hbusy⟩,
    ⟨hfree, hsize, (hfull 4 .read 9).2.1 hfree hsize⟩,
    ⟨hfree', hsize', ((hholed 4 .read 9).2.2 hfree' hsize').1⟩,
    ⟨by decide, by decide⟩, hlimit, hperm, horder plain hlimit hperm later⟩

end Table

end Pending
end BlockBridge

import BlockBridge.Fault
import BlockBridge.Message
import BlockBridge.Pending.Slots

/-!
# Requests in flight

The client keeps one entry for each block it has asked about: which operation
it asked for, when, and the outcome once a matching result has arrived.  The
table never holds two entries for one block, and never more than its limit.

A result is matched by its block and operation alone.  One that finds no entry
waiting for it is stale.

Main statements: what is found under a block after each change
(`Pending.Table.find?_of_register`, `find?_settle`, `find?_erase`), and that a
result never changes when a request was issued
(`Pending.Table.issuedAt_deliver`).
-/

namespace BlockBridge

/-- What a request asks for. -/
inductive Operation where
  | read
  | write
  deriving DecidableEq

/-- The operation's name in log lines. -/
def Operation.name : Operation → String
  | read => "Read"
  | write => "Write"

/-- How a request ended. -/
inductive Completion where
  /-- The contents of the block that was read. -/
  | read (data : Block)
  /-- The block was written. -/
  | written
  /-- The storage side reported a failure. -/
  | failed (code : ResultCode)
  deriving DecidableEq

/-- What became of a result that arrived. -/
inductive Delivery where
  /-- It settled a request. -/
  | completed
  /-- No request was waiting for it. -/
  | stale
  deriving DecidableEq

/-- The outcome that a result reports, and for which operation.  A request reports none. -/
def Message.outcome? : Message → Option (Operation × Completion)
  | readResult _ data => some (.read, .read data)
  | readFailed _ code => some (.read, .failed code)
  | writeResult _ code => some (.write, if code < 0 then .failed code else .written)
  | writeRequest .. | readRequest .. => none

namespace Pending

/-- The most requests that any table admits. -/
def maxInFlight : Nat := 8

/-- A request in flight. -/
structure Entry where
  operation : Operation
  issuedAt : Nat
  outcome : Option Completion := none
  deriving DecidableEq

/-- Whether an entry still waits for a result of the given operation. -/
def Entry.awaits (entry : Entry) (operation : Operation) : Bool :=
  entry.operation = operation ∧ entry.outcome = none

/-- The requests in flight, in the order that submission and removal leave them. -/
@[ext]
structure Table where
  limit : Nat
  entries : List (Address × Entry)
  nodup : (Slots.keys entries).Nodup
  length_le : entries.length ≤ limit
  limit_pos : 0 < limit
  limit_le : limit ≤ maxInFlight
  deriving DecidableEq

namespace Table

/-- The empty table that admits `limit` requests, or as near to it as one to
eight allow. -/
def empty (limit : Nat) : Table where
  limit := max 1 (min limit maxInFlight)
  entries := []
  nodup := .nil
  length_le := Nat.zero_le _
  limit_pos := by omega
  limit_le := by unfold maxInFlight; omega

/-- The number of requests in flight. -/
def size (table : Table) : Nat := table.entries.length

/-- Whether no request is in flight. -/
def isEmpty (table : Table) : Bool := table.entries.isEmpty

/-- The request in flight for a block. -/
def find? (table : Table) (block : Address) : Option Entry :=
  Slots.find? block table.entries

/-- Whether a request for the block is in flight. -/
def contains (table : Table) (block : Address) : Bool :=
  (table.find? block).isSome

/-- When the request for the block was issued. -/
def issuedAt (table : Table) (block : Address) : Option Nat :=
  (table.find? block).map Entry.issuedAt

/-- Put a new request at the end.  A block that is busy is refused before a full
table is. -/
def register (table : Table) (block : Address) (operation : Operation) (now : Nat) :
    Except RequestFault Table :=
  match h : table.find? block with
  | some _ => .error (.addressBusy block)
  | none =>
    if hroom : table.size < table.limit then
      .ok { table with
        entries := table.entries ++ [(block, { operation, issuedAt := now })]
        nodup := Slots.nodup_keys_concat table.nodup h
        length_le := by
          unfold size at hroom
          rw [List.length_append, List.length_singleton]
          exact hroom }
    else .error .tableFull

/-- Keep an outcome with the request for a block. -/
def settle (table : Table) (block : Address) (outcome : Completion) : Table :=
  { table with
    entries := Slots.modify block ({ · with outcome := some outcome }) table.entries
    nodup := by rw [Slots.keys_modify]; exact table.nodup
    length_le := by rw [Slots.length_modify]; exact table.length_le }

/-- Let a result settle the request it answers. -/
def deliver (table : Table) (message : Message) : Delivery × Table :=
  match message.outcome? with
  | none => (.stale, table)
  | some (operation, outcome) =>
    match table.find? message.block with
    | none => (.stale, table)
    | some entry =>
      if entry.awaits operation then (.completed, table.settle message.block outcome)
      else (.stale, table)

/-- Forget the request for a block; the last entry takes its place. -/
def erase (table : Table) (block : Address) : Table :=
  { table with
    entries := Slots.swapErase block table.entries
    nodup := Slots.nodup_keys_swapErase table.nodup
    length_le := Nat.le_trans (Slots.length_swapErase_le _ _) table.length_le }

/-- Abandon the request for a block; says whether there was one. -/
def cancel (table : Table) (block : Address) : Bool × Table :=
  (table.contains block, table.erase block)

/-- Take the outcome for a block, if it has arrived, and forget the request. -/
def take (table : Table) (block : Address) : Option ((Operation × Completion) × Table) :=
  match table.find? block with
  | none => none
  | some entry =>
    match entry.outcome with
    | none => none
    | some outcome => some ((entry.operation, outcome), table.erase block)

/-- The blocks whose requests were issued `timeout` or more before `now`, in
table order. -/
def expired (table : Table) (now timeout : Nat) : List Address :=
  Slots.keys (table.entries.filter fun entry => timeout ≤ now - entry.2.issuedAt)

/-- Forget the requests that have expired; says which. -/
def evict (table : Table) (now timeout : Nat) : List Address × Table :=
  (table.expired now timeout, (table.expired now timeout).foldl erase table)

/-! ## Looking up after a change -/

/-- A request is registered exactly when its block is free and there is room;
it then comes last. -/
theorem register_eq_ok_iff {table table' : Table} {block : Address} {operation : Operation}
    {now : Nat} :
    table.register block operation now = .ok table' ↔
      table.find? block = none ∧ table.size < table.limit ∧ table'.limit = table.limit ∧
        table'.entries = table.entries ++ [(block, { operation, issuedAt := now })] := by
  unfold register
  constructor
  · intro h
    split at h
    · exact absurd h (by simp)
    · rename_i hfree
      split at h
      · rename_i hroom
        rw [← Except.ok.inj h]
        exact ⟨hfree, hroom, rfl, rfl⟩
      · exact absurd h (by simp)
  · intro h
    obtain ⟨hfree, hroom, hlimit, hentries⟩ := h
    split
    · rename_i hbusy
      rw [hfree] at hbusy
      exact absurd hbusy (by simp)
    · rw [dif_pos hroom]
      congr 1
      exact Table.ext hlimit.symm hentries.symm

theorem find?_of_register {table table' : Table} {block : Address} {operation : Operation}
    {now : Nat} (h : table.register block operation now = .ok table') (other : Address) :
    table'.find? other =
      if other = block then some { operation, issuedAt := now } else table.find? other := by
  obtain ⟨hfree, _, _, hentries⟩ := register_eq_ok_iff.mp h
  rw [find?, hentries, Slots.find?_concat]
  by_cases hother : other = block
  · subst hother
    have hnone : Slots.find? other table.entries = none := hfree
    rw [hnone, Option.none_or, if_pos rfl, if_pos rfl]
  · rw [if_neg (Ne.symm hother), if_neg hother, Option.or_none]
    rfl

theorem find?_settle (table : Table) (block other : Address) (outcome : Completion) :
    (table.settle block outcome).find? other =
      (table.find? other).map fun entry =>
        if other = block then { entry with outcome := some outcome } else entry := by
  have hmodify := Slots.find?_modify block other
    (fun entry : Entry => { entry with outcome := some outcome }) table.entries
  rw [find?, settle, hmodify]
  by_cases hother : other = block
  · simp only [if_pos hother, find?]
  · simp only [if_neg hother, find?]
    rfl

theorem find?_erase (table : Table) (block other : Address) :
    (table.erase block).find? other = if other = block then none else table.find? other :=
  Slots.find?_swapErase table.nodup

/-! ## What a delivery does -/

theorem deliver_of_request {table : Table} {message : Message} (h : message.outcome? = none) :
    table.deliver message = (.stale, table) := by
  simp [deliver, h]

theorem deliver_of_absent {table : Table} {message : Message}
    (h : table.find? message.block = none) : table.deliver message = (.stale, table) := by
  cases houtcome : message.outcome? with
  | none => exact deliver_of_request houtcome
  | some answer => simp [deliver, houtcome, h]

theorem deliver_of_deaf {table : Table} {message : Message} {operation : Operation}
    {outcome : Completion} {entry : Entry} (houtcome : message.outcome? = some (operation, outcome))
    (hfind : table.find? message.block = some entry) (hdeaf : entry.awaits operation = false) :
    table.deliver message = (.stale, table) := by
  simp [deliver, houtcome, hfind, hdeaf]

theorem deliver_of_awaits {table : Table} {message : Message} {operation : Operation}
    {outcome : Completion} {entry : Entry} (houtcome : message.outcome? = some (operation, outcome))
    (hfind : table.find? message.block = some entry) (hawaits : entry.awaits operation = true) :
    table.deliver message = (.completed, table.settle message.block outcome) := by
  simp [deliver, houtcome, hfind, hawaits]

/-- A delivery leaves the table alone or settles the request of the message's block. -/
theorem deliver_table (table : Table) (message : Message) :
    (table.deliver message).2 = table ∨
      ∃ outcome, (table.deliver message).2 = table.settle message.block outcome := by
  cases houtcome : message.outcome? with
  | none => exact .inl (by rw [deliver_of_request houtcome])
  | some answer =>
    obtain ⟨operation, outcome⟩ := answer
    cases hfind : table.find? message.block with
    | none => exact .inl (by rw [deliver_of_absent hfind])
    | some entry =>
      cases hawaits : entry.awaits operation with
      | false => exact .inl (by rw [deliver_of_deaf houtcome hfind hawaits])
      | true => exact .inr ⟨outcome, by rw [deliver_of_awaits houtcome hfind hawaits]⟩

theorem issuedAt_settle (table : Table) (block other : Address) (outcome : Completion) :
    (table.settle block outcome).issuedAt other = table.issuedAt other := by
  simp only [issuedAt, find?_settle, Option.map_map]
  congr 1
  funext entry
  show (if other = block then { entry with outcome := some outcome } else entry).issuedAt =
    entry.issuedAt
  split <;> rfl

theorem issuedAt_deliver (table : Table) (message : Message) (block : Address) :
    (table.deliver message).2.issuedAt block = table.issuedAt block := by
  rcases deliver_table table message with hsame | ⟨outcome, hsettled⟩
  · rw [hsame]
  · rw [hsettled, issuedAt_settle]

end Table
end Pending
end BlockBridge

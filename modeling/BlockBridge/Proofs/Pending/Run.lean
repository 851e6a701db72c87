import BlockBridge.Proofs.Pending.Entries

/-!
# Uses of a table

A table is used in five ways, in any order: requests are registered, messages
delivered, outcomes taken, requests cancelled and the late ones evicted.  A use
comes to an event, which says what the user of the table gets to see of it, and
the events of a run are its history.

The event alone tells what a use does to the entry of a block
(`Pending.Table.find?_call`): it makes one, removes it, or lets it hear an
answer, of which the first one stays.
-/

namespace BlockBridge

/-- The outcome that a message carries for a request of this operation on this
block.  Only results carry one, and each of them for one operation. -/
def Message.answer? (block : Address) (operation : Operation) : Message → Option Completion
  | readResult about data => if about = block ∧ operation = .read then some (.read data) else none
  | readFailed about code => if about = block ∧ operation = .read then some (.failed code) else none
  | writeResult about code =>
    if about = block ∧ operation = .write then
      some (if code < 0 then .failed code else .written)
    else none
  | writeRequest .. | readRequest .. => none

theorem Message.answer?_eq_some_iff {message : Message} {block : Address} {operation : Operation}
    {outcome : Completion} :
    message.answer? block operation = some outcome ↔
      message.block = block ∧ message.outcome? = some (operation, outcome) := by
  cases message with
  | writeRequest | readRequest => simp [answer?, outcome?]
  | readResult | readFailed | writeResult =>
    simp only [answer?, outcome?, Message.block, Option.some.injEq, Prod.mk.injEq]
    split <;> simp_all [eq_comm]

namespace Pending

/-- One use of a table. -/
inductive Call where
  | register (block : Address) (operation : Operation) (now : Nat)
  | deliver (message : Message)
  | take (block : Address)
  | cancel (block : Address)
  | evict (now timeout : Nat)

/-- What a use of a table came to. -/
inductive Event where
  | registered (block : Address) (operation : Operation) (now : Nat)
  | refused (fault : RequestFault)
  | delivered (message : Message) (verdict : Delivery)
  | taken (block : Address) (outcome : Option (Operation × Completion))
  | cancelled (block : Address) (found : Bool)
  | evicted (blocks : List Address)
  deriving DecidableEq

namespace Event

/-- The entry that an event makes for a block, if it registers a request for it. -/
def made? (block : Address) : Event → Option Entry
  | registered about operation now =>
    if about = block then some { operation, issuedAt := now } else none
  | refused _ | delivered .. | taken .. | cancelled .. | evicted _ => none

/-- Whether the request for a block was taken, cancelled or evicted. -/
def removes (block : Address) : Event → Bool
  | taken about outcome => about = block ∧ outcome.isSome
  | cancelled about _ => about = block
  | evicted blocks => block ∈ blocks
  | registered .. | refused _ | delivered .. => false

/-- The outcome for a request of this operation on this block that was delivered. -/
def answer? (block : Address) (operation : Operation) : Event → Option Completion
  | delivered message _ => message.answer? block operation
  | registered .. | refused _ | taken .. | cancelled .. | evicted _ => none

end Event

namespace Table

/-- Use a table once. -/
def call : Call → Table → Event × Table
  | .register block operation now, table =>
    match table.register block operation now with
    | .ok table => (.registered block operation now, table)
    | .error fault => (.refused fault, table)
  | .deliver message, table => (table.deliver message).map (.delivered message) id
  | .take block, table =>
    match table.take block with
    | some (outcome, table) => (.taken block (some outcome), table)
    | none => (.taken block none, table)
  | .cancel block, table => (table.cancel block).map (.cancelled block) id
  | .evict now timeout, table => (table.evict now timeout).map .evicted id

/-- Use a table again and again; what came of it is the history, oldest first. -/
def run : List Call → Table → List Event × Table
  | [], table => ([], table)
  | call :: calls, table =>
    let called := table.call call
    let rest := run calls called.2
    (called.1 :: rest.1, rest.2)

/-- Every use adds one event, so a part of a history is that of a part of the run. -/
theorem exists_split_of_run {calls : List Call} {table : Table} {earlier later : List Event}
    (h : (table.run calls).1 = earlier ++ later) :
    ∃ before after, calls = before ++ after ∧ (table.run before).1 = earlier ∧
      ((table.run before).2.run after).1 = later := by
  induction earlier generalizing calls table with
  | nil => exact ⟨[], calls, rfl, rfl, h⟩
  | cons event earlier ih =>
    cases calls with
    | nil => cases h
    | cons call calls =>
      obtain ⟨hevent, hrest⟩ := List.cons.inj h
      obtain ⟨before, after, rfl, hbefore, hafter⟩ := ih hrest
      refine ⟨call :: before, after, rfl, ?_, hafter⟩
      rw [run, hbefore, ← hevent]

end Table

/-! ## What one use does to the entry of a block -/

theorem Event.made?_eq_some_iff {event : Event} {block : Address} {entry : Entry} :
    event.made? block = some entry ↔
      event = .registered block entry.operation entry.issuedAt ∧ entry.outcome = none := by
  obtain ⟨operation, now, outcome⟩ := entry
  cases event with
  | registered about operation' now' =>
    simp only [made?, registered.injEq]
    split <;> simp_all [eq_comm, and_assoc]
  | refused | delivered | taken | cancelled | evicted => simp [made?]

/-- An entry that has heard an answer, if there was one.  The first answer stays. -/
def Entry.hear (answer : Option Completion) (entry : Entry) : Entry :=
  { entry with outcome := entry.outcome.or answer }

@[simp]
theorem Entry.hear_none (entry : Entry) : entry.hear none = entry := by
  simp [hear]

theorem Entry.hear_of_settled {entry : Entry} {outcome : Completion}
    (h : entry.outcome = some outcome) (answer : Option Completion) :
    entry.hear answer = entry := by
  rw [hear, h, Option.some_or, ← h]

/-- What is found under a block after an event, by what was found before. -/
def Event.effect (block : Address) : Event → Option Entry → Option Entry
  | registered about operation now, found =>
    if about = block then some { operation, issuedAt := now } else found
  | refused _, found => found
  | delivered message _, found =>
    found.map fun entry => entry.hear (message.answer? block entry.operation)
  | taken about outcome, found => if about = block ∧ outcome.isSome then none else found
  | cancelled about _, found => if about = block then none else found
  | evicted blocks, found => if block ∈ blocks then none else found

/-- An event makes an entry, removes it, or lets it hear an answer. -/
theorem Event.effect_eq (block : Address) (event : Event) (found : Option Entry) :
    event.effect block found =
      match event.made? block with
      | some entry => some entry
      | none =>
        if event.removes block then none
        else found.map fun entry => entry.hear (event.answer? block entry.operation) := by
  cases event with
  | registered about =>
    by_cases hblock : about = block <;> simp [effect, made?, removes, answer?, hblock]
  | refused | delivered | taken | cancelled | evicted =>
    simp [effect, made?, removes, answer?]

namespace Table

/-- A delivery lets the request of the message's block hear what the message
carries for it. -/
theorem find?_deliver (table : Table) (message : Message) (block : Address) :
    (table.deliver message).2.find? block =
      (table.find? block).map fun entry => entry.hear (message.answer? block entry.operation) := by
  rcases table.deliver_cases message with hstale | ⟨entry, outcome, hfind, hopen, houtcome, hdone⟩
  · rw [hstale]
    rcases hfind : table.find? block with _ | entry
    · rfl
    -- An answer that would have been heard would not have been stale.
    have hsame : entry.hear (message.answer? block entry.operation) = entry := by
      rcases hanswer : message.answer? block entry.operation with _ | outcome
      · exact entry.hear_none
      obtain ⟨rfl, houtcome⟩ := Message.answer?_eq_some_iff.mp hanswer
      rcases hopen : entry.outcome with _ | earlier
      · have hawaits : entry.awaits entry.operation = true := awaits_iff.mpr ⟨rfl, hopen⟩
        rw [deliver_of_awaits houtcome hfind hawaits] at hstale
        cases hstale
      · exact entry.hear_of_settled hopen _
    rw [Option.map_some, hsame]
  · rw [hdone, find?_settle]
    by_cases hblock : block = message.block
    · subst hblock
      have hanswer : message.answer? message.block entry.operation = some outcome :=
        Message.answer?_eq_some_iff.mpr ⟨rfl, houtcome⟩
      rw [hfind, Option.map_some, Option.map_some, hanswer, if_pos rfl]
      simp [Entry.hear, hopen]
    · have hnone (operation : Operation) : message.answer? block operation = none := by
        rw [Option.eq_none_iff_forall_ne_some]
        intro answer hanswer
        exact hblock (Message.answer?_eq_some_iff.mp hanswer).1.symm
      simp [hnone, hblock]

/-- A message settles a request exactly if it answers one that is still open. -/
theorem deliver_eq_completed_iff (table : Table) (message : Message) :
    (table.deliver message).1 = .completed ↔
      ∃ entry, table.find? message.block = some entry ∧ entry.outcome = none ∧
        (message.answer? message.block entry.operation).isSome := by
  constructor
  · intro hverdict
    rcases table.deliver_cases message with hstale | ⟨entry, outcome, hfind, hopen, houtcome, _⟩
    · rw [hstale] at hverdict
      cases hverdict
    · refine ⟨entry, hfind, hopen, ?_⟩
      rw [Message.answer?_eq_some_iff.mpr ⟨rfl, houtcome⟩]
      rfl
  · rintro ⟨entry, hfind, hopen, hanswer⟩
    obtain ⟨outcome, hanswer⟩ := Option.isSome_iff_exists.mp hanswer
    obtain ⟨_, houtcome⟩ := Message.answer?_eq_some_iff.mp hanswer
    rw [deliver_of_awaits houtcome hfind (awaits_iff.mpr ⟨rfl, hopen⟩)]

/-- An outcome is handed out exactly if it is there, and its request is forgotten. -/
theorem take_eq_some_iff {table table' : Table} {block : Address} {operation : Operation}
    {outcome : Completion} :
    table.take block = some ((operation, outcome), table') ↔
      ∃ entry, table.find? block = some entry ∧ entry.operation = operation ∧
        entry.outcome = some outcome ∧ table.erase block = table' := by
  rcases hfind : table.find? block with _ | entry
  · simp [take_of_absent hfind]
  rcases hopen : entry.outcome with _ | settled
  · simp [take_of_unsettled hfind hopen, hopen]
  · simp [take_of_settled hfind hopen, hopen, and_assoc]

/-- A use of a table does to the entry of each block what its event says. -/
theorem find?_call (call : Call) (table : Table) (block : Address) :
    (table.call call).2.find? block = (table.call call).1.effect block (table.find? block) := by
  cases call with
  | register about operation now =>
    simp only [Table.call]
    rcases hregister : table.register about operation now with fault | table'
    · rfl
    · simp only [Event.effect, find?_of_register hregister, eq_comm]
  | deliver message => exact find?_deliver table message block
  | take about =>
    simp only [Table.call]
    rcases htake : table.take about with _ | ⟨⟨operation, outcome⟩, table'⟩
    · simp [Event.effect]
    · obtain ⟨_, _, _, _, rfl⟩ := take_eq_some_iff.mp htake
      simp [Event.effect, find?_erase, eq_comm]
  | cancel about =>
    simp [Table.call, cancel, Event.effect, find?_erase, eq_comm]
  | evict now timeout => exact find?_foldl_erase (table.expired now timeout) table block

/-- A request is registered only for a block that is free. -/
theorem find?_of_made {call : Call} {table : Table} {block : Address} {entry : Entry}
    (h : (table.call call).1.made? block = some entry) : table.find? block = none := by
  cases call with
  | register about operation now =>
    simp only [Table.call] at h
    rcases hregister : table.register about operation now with fault | table'
    · rw [hregister] at h
      cases h
    · rw [hregister] at h
      obtain ⟨hfree, _⟩ := register_eq_ok_iff.mp hregister
      simp only [Event.made?] at h
      split at h
      · rename_i hblock
        exact hblock ▸ hfree
      · cases h
  | take about =>
    simp only [Table.call] at h
    split at h <;> cases h
  | deliver | cancel | evict => cases h

end Table

end Pending
end BlockBridge

import BlockBridge.Proofs.Pending.Run
import Mathlib.Logic.Equiv.Defs

/-!
# Results in another order

Results for different blocks may arrive in any order.  A delivery concerns the request of
one block, so what a list of messages does to a request depends on the messages about its
block alone: it hears the first answer among them
(`Pending.Table.entries_run_deliver`).  Which answer that is, and which messages came
before another one about the same block, stays the same when the list is put into another
order that keeps the order of the messages about each block (`Pending.Rearranges`).

Takes are alike: what a take hands out depends on the request of its block and on the
takes of that block before.

Main statement: `Pending.Table.deliveries_rearranged`.
-/

namespace BlockBridge

theorem Delivery.eq_of_completed_iff {verdict verdict' : Delivery}
    (h : verdict = .completed ↔ verdict' = .completed) : verdict = verdict' := by
  cases verdict with
  | completed => exact (h.mp rfl).symm
  | stale =>
    cases verdict' with
    | completed => exact h.mpr rfl
    | stale => rfl

/-! ## The first of a list with an answer -/

section

variable {α β : Type} {f : α → Option β} {items : List α}

theorem findSome?_cons_eq_or (item : α) :
    (item :: items).findSome? f = (f item).or (items.findSome? f) := by
  rw [List.findSome?_cons]
  cases f item <;> rfl

theorem findSome?_take_eq_none_iff {place : Fin items.length} :
    (items.take place).findSome? f = none ↔ ∀ earlier < place, f items[earlier] = none := by
  rw [List.findSome?_eq_none_iff]
  constructor
  · intro h earlier hearlier
    exact h _ (List.mem_take_iff_getElem.mpr ⟨earlier, by omega, rfl⟩)
  · intro h item hmem
    obtain ⟨earlier, hearlier, rfl⟩ := List.mem_take_iff_getElem.mp hmem
    exact h ⟨earlier, by omega⟩ (Fin.mk_lt_of_lt_val (by omega))

/-- The answer found is that of some item, and no item before that has any. -/
theorem findSome?_eq_some_iff_place {answer : β} :
    items.findSome? f = some answer ↔
      ∃ place : Fin items.length, f items[place] = some answer ∧
        (items.take place).findSome? f = none := by
  constructor
  · intro h
    obtain ⟨before, item, after, rfl, hitem, hbefore⟩ := List.findSome?_eq_some_iff.mp h
    refine ⟨⟨before.length, by simp⟩, by simpa using hitem, ?_⟩
    rw [List.findSome?_eq_none_iff]
    simpa using hbefore
  · rintro ⟨place, hplace, hearlier⟩
    have hplace : f items[place.val] = some answer := hplace
    have hsplit := List.take_append_drop place.val items
    rw [List.drop_eq_getElem_cons place.isLt] at hsplit
    rw [← hsplit, List.findSome?_append, hearlier, Option.none_or, List.findSome?_cons, hplace]

end

namespace Slots

variable {κ ν : Type} [DecidableEq κ]

/-- Entries are told apart by their keys, in order, and by what is found under each. -/
theorem eq_of_find? {entries entries' : List (κ × ν)} (hnodup : (keys entries).Nodup)
    (hkeys : keys entries' = keys entries) (hfind : ∀ key, find? key entries' = find? key entries) :
    entries' = entries := by
  induction entries generalizing entries' with
  | nil => exact List.map_eq_nil_iff.mp hkeys
  | cons entry rest ih =>
    obtain ⟨hfresh, hrest⟩ := List.nodup_cons.mp hnodup
    cases entries' with
    | nil => cases hkeys
    | cons entry' rest' =>
      obtain ⟨hkey, hkeys⟩ := List.cons.inj hkeys
      have hvalue : entry'.2 = entry.2 := by
        have hfirst := hfind entry.1
        rw [find?, find?, if_pos hkey, if_pos rfl] at hfirst
        exact Option.some.inj hfirst
      rw [Prod.ext hkey hvalue, ih hrest hkeys]
      intro key
      by_cases hsame : entry.1 = key
      · -- The key of the first entry is found in neither rest.
        have hnone {others : List (κ × ν)} (hothers : keys others = keys rest) :
            find? key others = none := by
          rw [find?_eq_none_iff, hothers, ← hsame]
          exact hfresh
        rw [hnone hkeys, hnone rfl]
      · have hothers := hfind key
        rwa [find?, find?, if_neg hsame, if_neg (hkey ▸ hsame)] at hothers

end Slots

namespace Pending

/-! ## Another order -/

/-- That messages are put into another order, in which those about one block keep theirs.
Each message goes to its `place`. -/
structure Rearranges (messages messages' : List Message)
    (place : Fin messages.length ≃ Fin messages'.length) : Prop where
  same : ∀ i, messages'[place i] = messages[i]
  keeps : ∀ i j, i < j → messages[i].block = messages[j].block → place i < place j

namespace Rearranges

variable {messages messages' : List Message} {place : Fin messages.length ≃ Fin messages'.length}

theorem lt_iff (h : Rearranges messages messages' place) {i j : Fin messages.length}
    (hblock : messages[i].block = messages[j].block) : place i < place j ↔ i < j := by
  constructor
  · intro hlt
    rcases Nat.lt_trichotomy i j with hbefore | heq | hafter
    · exact hbefore
    · rw [Fin.ext heq] at hlt
      exact absurd hlt (Nat.lt_irrefl _)
    · exact absurd hlt (Nat.lt_asymm (h.keeps j i hafter hblock.symm))
  · intro hlt
    exact h.keeps i j hlt hblock

/-- The first order comes back in the same way. -/
theorem symm (h : Rearranges messages messages' place) :
    Rearranges messages' messages place.symm where
  same i := by simpa using (h.same (place.symm i)).symm
  keeps i j hlt hblock := by
    have hblock' : messages[place.symm i].block = messages[place.symm j].block := by
      simpa [← h.same] using hblock
    rw [← h.lt_iff hblock', Equiv.apply_symm_apply, Equiv.apply_symm_apply]
    exact hlt

/-- That only messages about the block have this answer. -/
def About (block : Address) (f : Message → Option Completion) : Prop :=
  ∀ message, message.block ≠ block → f message = none

theorem about_answer? (block : Address) (operation : Operation) :
    About block (Message.answer? block operation) := by
  intro message hother
  rw [Option.eq_none_iff_forall_ne_some]
  intro outcome hanswer
  exact hother (Message.answer?_eq_some_iff.mp hanswer).1

/-- No message about the block comes before a message about it that did not before. -/
theorem earlier (h : Rearranges messages messages' place) {i : Fin messages.length}
    {f : Message → Option Completion} (hf : About messages[i].block f)
    (hnone : (messages.take i).findSome? f = none) :
    (messages'.take (place i)).findSome? f = none := by
  rw [findSome?_take_eq_none_iff] at hnone ⊢
  intro j hj
  have hsame : messages'[j] = messages[place.symm j] := (h.symm.same j).symm
  rw [hsame]
  by_cases hblock : messages[place.symm j].block = messages[i].block
  · apply hnone
    rw [← h.lt_iff hblock, Equiv.apply_symm_apply]
    exact hj
  · exact hf _ hblock

theorem earlier_iff (h : Rearranges messages messages' place) {i : Fin messages.length}
    {f : Message → Option Completion} (hf : About messages[i].block f) :
    (messages'.take (place i)).findSome? f = none ↔ (messages.take i).findSome? f = none := by
  constructor
  · intro hnone
    have hback := h.symm.earlier (by rw [h.same]; exact hf) hnone
    rwa [Equiv.symm_apply_apply] at hback
  · exact h.earlier hf

theorem findSome?_of_some (h : Rearranges messages messages' place) {block : Address}
    {f : Message → Option Completion} (hf : About block f) {outcome : Completion}
    (hsome : messages.findSome? f = some outcome) : messages'.findSome? f = some outcome := by
  obtain ⟨i, hanswer, hearlier⟩ := findSome?_eq_some_iff_place.mp hsome
  have hblock : messages[i].block = block := by
    by_cases hother : messages[i].block = block
    · exact hother
    · rw [hf _ hother] at hanswer
      cases hanswer
  refine findSome?_eq_some_iff_place.mpr ⟨place i, by rw [h.same]; exact hanswer, ?_⟩
  exact h.earlier (hblock ▸ hf) hearlier

/-- The first answer is the same in both orders. -/
theorem findSome?_eq (h : Rearranges messages messages' place) {block : Address}
    {f : Message → Option Completion} (hf : About block f) :
    messages'.findSome? f = messages.findSome? f := by
  apply Option.ext
  intro outcome
  exact ⟨h.symm.findSome?_of_some hf, h.findSome?_of_some hf⟩

end Rearranges

/-! ## Deliveries one after the other -/

/-- Whether an event is a delivery that settled a request. -/
def Event.settles : Event → Bool
  | delivered _ verdict => verdict = .completed
  | registered .. | refused _ | taken .. | cancelled .. | evicted _ => false

/-- Whether an event is a take for this block. -/
def Event.takes (block : Address) : Event → Bool
  | taken about _ => about = block
  | registered .. | refused _ | delivered .. | cancelled .. | evicted _ => false

theorem Entry.hear_hear (entry : Entry) (answer later : Option Completion) :
    (entry.hear answer).hear later = entry.hear (answer.or later) := by
  simp [hear, Option.or_assoc]

namespace Table

/-- An entry that has heard what is answered for its block and operation. -/
def heard (answer : Address → Operation → Option Completion) (entry : Address × Entry) :
    Address × Entry :=
  (entry.1, entry.2.hear (answer entry.1 entry.2.operation))

theorem heard_heard (answer later : Address → Operation → Option Completion)
    (entry : Address × Entry) :
    heard later (heard answer entry) =
      heard (fun block operation => (answer block operation).or (later block operation)) entry :=
  Prod.ext rfl (entry.2.hear_hear _ _)

theorem keys_map_heard (answer : Address → Operation → Option Completion)
    (entries : List (Address × Entry)) :
    Slots.keys (entries.map (heard answer)) = Slots.keys entries := by
  rw [Slots.keys, List.map_map]
  rfl

theorem find?_map_heard (answer : Address → Operation → Option Completion) (block : Address)
    (entries : List (Address × Entry)) :
    Slots.find? block (entries.map (heard answer)) =
      (Slots.find? block entries).map fun entry => entry.hear (answer block entry.operation) := by
  induction entries with
  | nil => rfl
  | cons entry rest ih =>
    have hcons : Slots.find? block ((entry :: rest).map (heard answer)) =
        if entry.1 = block then some (entry.2.hear (answer entry.1 entry.2.operation))
        else Slots.find? block (rest.map (heard answer)) := rfl
    rw [hcons, Slots.find?]
    by_cases hblock : entry.1 = block
    · rw [if_pos hblock, if_pos hblock, ← hblock]
      rfl
    · rw [if_neg hblock, if_neg hblock, ih]

theorem keys_deliver (table : Table) (message : Message) :
    Slots.keys (table.deliver message).2.entries = Slots.keys table.entries := by
  rcases deliver_table table message with hsame | ⟨outcome, hsettled⟩
  · rw [hsame]
  · rw [hsettled, settle, Slots.keys_modify]

/-- A delivery leaves every entry in its place, and lets it hear what the message
carries for it. -/
theorem entries_deliver (table : Table) (message : Message) :
    (table.deliver message).2.entries =
      table.entries.map (heard fun block operation => message.answer? block operation) := by
  apply Slots.eq_of_find?
  · rw [keys_map_heard]
    exact table.nodup
  · rw [keys_map_heard, keys_deliver]
  · intro block
    rw [find?_map_heard]
    exact table.find?_deliver message block

theorem run_deliver_cons (message : Message) (messages : List Message) (table : Table) :
    table.run ((message :: messages).map .deliver) =
      (.delivered message (table.deliver message).1 ::
          ((table.deliver message).2.run (messages.map .deliver)).1,
        ((table.deliver message).2.run (messages.map .deliver)).2) := rfl

/-- So each entry hears the first answer among all that are delivered, by induction on
the messages. -/
theorem entries_run_deliver (messages : List Message) (table : Table) :
    (table.run (messages.map .deliver)).2.entries =
      table.entries.map
        (heard fun block operation => messages.findSome? (Message.answer? block operation)) := by
  induction messages generalizing table with
  | nil =>
    have hsame : (heard fun block operation =>
        [].findSome? (Message.answer? block operation)) = id := by
      funext entry
      exact Prod.ext rfl entry.2.hear_none
    rw [hsame, List.map_id]
    rfl
  | cons message messages ih =>
    rw [run_deliver_cons, ih, entries_deliver, List.map_map]
    congr 1
    funext entry
    rw [Function.comp, heard_heard]
    simp only [findSome?_cons_eq_or]

theorem limit_run_deliver (messages : List Message) (table : Table) :
    (table.run (messages.map .deliver)).2.limit = table.limit := by
  induction messages generalizing table with
  | nil => rfl
  | cons message messages ih =>
    rw [run_deliver_cons, ih]
    rcases deliver_table table message with hsame | ⟨outcome, hsettled⟩
    · rw [hsame]
    · rw [hsettled]
      rfl

theorem find?_run_deliver (messages : List Message) (table : Table) (block : Address) :
    (table.run (messages.map .deliver)).2.find? block =
      (table.find? block).map fun entry =>
        entry.hear (messages.findSome? (Message.answer? block entry.operation)) := by
  rw [find?, entries_run_deliver, find?_map_heard]
  rfl

/-- A message settles a request exactly if it answers one that is open, and none of the
messages before did. -/
theorem deliver_after_eq_completed_iff (earlier : List Message) (table : Table)
    (message : Message) :
    ((table.run (earlier.map .deliver)).2.deliver message).1 = .completed ↔
      ∃ entry, table.find? message.block = some entry ∧ entry.outcome = none ∧
        earlier.findSome? (Message.answer? message.block entry.operation) = none ∧
        (message.answer? message.block entry.operation).isSome := by
  simp only [deliver_eq_completed_iff, find?_run_deliver, Option.map_eq_some_iff]
  constructor
  · rintro ⟨_, ⟨entry, hfind, rfl⟩, hopen, hanswer⟩
    obtain ⟨hopen, hearlier⟩ := Option.or_eq_none_iff.mp hopen
    exact ⟨entry, hfind, hopen, hearlier, hanswer⟩
  · rintro ⟨entry, hfind, hopen, hearlier, hanswer⟩
    exact ⟨_, ⟨entry, hfind, rfl⟩, Option.or_eq_none_iff.mpr ⟨hopen, hearlier⟩, hanswer⟩

/-- The verdict on a message is the one it gets after the messages before it. -/
theorem getElem?_run_deliver (messages : List Message) (table : Table)
    (place : Fin messages.length) :
    (table.run (messages.map .deliver)).1[place.val]? =
      some (.delivered messages[place]
        ((table.run ((messages.take place).map .deliver)).2.deliver messages[place]).1) := by
  induction messages generalizing table with
  | nil => exact place.elim0
  | cons message messages ih =>
    cases place using Fin.cases with
    | zero => rfl
    | succ place => exact ih (table.deliver message).2 place

/-! ### Counting -/

/-- Every delivery that settles a request makes one settled entry more. -/
theorem settledCount_run_deliver (messages : List Message) (table : Table) :
    (table.run (messages.map .deliver)).2.settledCount =
      table.settledCount + (table.run (messages.map .deliver)).1.countP Event.settles := by
  induction messages generalizing table with
  | nil => rfl
  | cons message messages ih =>
    rw [run_deliver_cons, ih, List.countP_cons]
    rcases table.deliver_cases message with hstale | ⟨entry, outcome, hfind, hopen, -, hdone⟩
    · rw [hstale]
      rfl
    · rw [hdone, settledCount_settle hfind hopen]
      simp only [Event.settles, decide_true, if_true]
      omega

/-- The entries that became settled are those that are settled less those that were. -/
theorem settledCount_run_deliver_eq_add (messages : List Message) (table : Table) :
    (table.run (messages.map .deliver)).2.settledCount =
      table.settledCount +
        (table.entries.zip (table.run (messages.map .deliver)).2.entries).countP
          fun (before, after) => before.2.outcome.isNone && after.2.outcome.isSome := by
  rw [settledCount, settledCount, entries_run_deliver]
  generalize table.entries = entries
  induction entries with
  | nil => rfl
  | cons entry rest ih =>
    rw [List.map_cons, List.zip_cons_cons, List.countP_cons, List.countP_cons, List.countP_cons, ih]
    cases hopen : entry.2.outcome with
    | none => simp [heard, Entry.hear, hopen]; omega
    | some => simp [heard, Entry.hear, hopen]; omega

/-! ## Takes one after the other -/

/-- The outcome that is kept for a block, and for which operation. -/
def outcome? (table : Table) (block : Address) : Option (Operation × Completion) :=
  (table.find? block).bind fun entry => entry.outcome.map fun outcome => (entry.operation, outcome)

theorem event_take (table : Table) (block : Address) :
    (table.call (.take block)).1 = .taken block (table.outcome? block) := by
  rw [outcome?]
  simp only [call]
  rcases hfind : table.find? block with _ | entry
  · rw [take_of_absent hfind]
    rfl
  rcases hopen : entry.outcome with _ | outcome
  · rw [take_of_unsettled hfind hopen, Option.bind_some, hopen]
    rfl
  · rw [take_of_settled hfind hopen, Option.bind_some, hopen]
    rfl

theorem run_take_cons (block : Address) (blocks : List Address) (table : Table) :
    (table.run ((block :: blocks).map .take)).1 =
      .taken block (table.outcome? block) ::
        ((table.call (.take block)).2.run (blocks.map .take)).1 := by
  rw [← event_take]
  rfl

/-- Takes for other blocks change nothing for a block, by induction on the takes. -/
theorem filter_run_take {table table' : Table} {block : Address}
    (h : table.find? block = table'.find? block) (blocks : List Address) :
    (table.run (blocks.map .take)).1.filter (Event.takes block) =
      (table'.run ((blocks.filter (· = block)).map .take)).1 := by
  induction blocks generalizing table table' with
  | nil => rfl
  | cons about rest ih =>
    have hafter := table.find?_call (.take about) block
    rw [event_take] at hafter
    rw [run_take_cons]
    by_cases hblock : about = block
    · subst hblock
      have houtcome : table.outcome? about = table'.outcome? about := by
        rw [outcome?, outcome?, h]
      have hafter' := table'.find?_call (.take about) about
      rw [event_take, ← h, ← houtcome, ← hafter] at hafter'
      have hkept : (about :: rest).filter (· = about) = about :: rest.filter (· = about) := by simp
      rw [hkept, run_take_cons, ← houtcome, ← ih hafter'.symm]
      exact List.filter_cons_of_pos (decide_eq_true rfl)
    · have hskipped : (about :: rest).filter (· = block) = rest.filter (· = block) := by
        simp [hblock]
      rw [Event.effect, if_neg (fun hboth => hblock hboth.1), h] at hafter
      rw [hskipped, ← ih hafter]
      exact List.filter_cons_of_neg (by simpa [Event.takes] using hblock)

/-- In whatever order the takes come, those for one block hand out the same. -/
theorem filter_run_take_of_perm (table : Table) {blocks blocks' : List Address}
    (hperm : blocks.Perm blocks') (block : Address) :
    (table.run (blocks.map .take)).1.filter (Event.takes block) =
      (table.run (blocks'.map .take)).1.filter (Event.takes block) := by
  have hsame : blocks.filter (· = block) = blocks'.filter (· = block) := by
    rw [List.filter_eq, List.filter_eq, hperm.count_eq]
  rw [filter_run_take rfl, filter_run_take rfl, hsame]

/-! ## Deliveries in another order -/

variable {messages messages' : List Message} {place : Fin messages.length ≃ Fin messages'.length}

/-- A message gets its verdict wherever it stands. -/
theorem event_rearranged (h : Rearranges messages messages' place) (table : Table)
    (i : Fin messages.length) :
    ∃ verdict,
      (table.run (messages.map .deliver)).1[i.val]? = some (.delivered messages[i] verdict) ∧
        (table.run (messages'.map .deliver)).1[(place i).val]? =
          some (.delivered messages[i] verdict) := by
  refine ⟨_, getElem?_run_deliver messages table i, ?_⟩
  rw [getElem?_run_deliver messages' table (place i), h.same]
  congr 2
  apply Delivery.eq_of_completed_iff
  simp only [deliver_after_eq_completed_iff,
    h.earlier_iff (Rearranges.about_answer? messages[i].block _)]

theorem run_deliver_rearranged (h : Rearranges messages messages' place) (table : Table) :
    (table.run (messages'.map .deliver)).2 = (table.run (messages.map .deliver)).2 := by
  apply Table.ext
  · rw [limit_run_deliver, limit_run_deliver]
  · rw [entries_run_deliver, entries_run_deliver]
    congr 2
    funext block operation
    exact h.findSome?_eq (Rearranges.about_answer? block operation)

/-- Messages delivered in another order, in which those about one block keep theirs, get
the same verdicts and leave the same table, so that takes in any order of the blocks hand
out the same for each of them.  As many messages settle a request as there are entries
that were not settled before and are afterwards, and apart from outcomes the entries stay
as and where they were. -/
theorem deliveries_rearranged (h : Rearranges messages messages' place) (table : Table) :
    let first := table.run (messages.map .deliver)
    let second := table.run (messages'.map .deliver)
    (∀ i, ∃ verdict, first.1[i.val]? = some (.delivered messages[i] verdict) ∧
      second.1[(place i).val]? = some (.delivered messages[i] verdict)) ∧
    second.2 = first.2 ∧
    (∀ blocks blocks' : List Address, blocks.Perm blocks' → ∀ block,
      (first.2.run (blocks.map .take)).1.filter (Event.takes block) =
        (second.2.run (blocks'.map .take)).1.filter (Event.takes block)) ∧
    first.1.countP Event.settles =
      (table.entries.zip first.2.entries).countP
        (fun (before, after) => before.2.outcome.isNone && after.2.outcome.isSome) ∧
    first.2.limit = table.limit ∧
    first.2.entries.map (fun entry => (entry.1, entry.2.operation, entry.2.issuedAt)) =
      table.entries.map fun entry => (entry.1, entry.2.operation, entry.2.issuedAt) := by
  intro first second
  have hsame : second.2 = first.2 := run_deliver_rearranged h table
  refine ⟨event_rearranged h table, hsame, ?_, ?_, limit_run_deliver messages table, ?_⟩
  · intro blocks blocks' hperm block
    rw [hsame]
    exact filter_run_take_of_perm first.2 hperm block
  · have hcount := settledCount_run_deliver messages table
    rw [settledCount_run_deliver_eq_add] at hcount
    exact (Nat.add_left_cancel hcount).symm
  · show (table.run (messages.map .deliver)).2.entries.map _ = _
    rw [entries_run_deliver, List.map_map]
    rfl

/-- Two results for block 3, the first of them for a write that nobody asked for, overtake
three others, among them a second answer for block 1. -/
theorem deliveries_rearranged_overtaking :
    let messages : List Message :=
      [.readFailed 1 (-1), .writeResult 2 0, .readFailed 1 (-2), .writeResult 3 0,
        .readFailed 3 (-1)]
    let messages' : List Message :=
      [.writeResult 3 0, .readFailed 3 (-1), .readFailed 1 (-1), .writeResult 2 0,
        .readFailed 1 (-2)]
    let table :=
      ((empty 3).run [.register 1 .read 0, .register 2 .write 1, .register 3 .read 2]).2
    let first := table.run (messages.map .deliver)
    let second := table.run (messages'.map .deliver)
    ∃ place : Fin 5 ≃ Fin 5, Rearranges messages messages' place ∧
      (first.1[2]? = some (.delivered (.readFailed 1 (-2)) .stale) ∧
        second.1[(place 2).val]? = some (.delivered (.readFailed 1 (-2)) .stale)) ∧
      second.2 = first.2 ∧
      (first.2.run ([1, 2, 3].map .take)).1.filter (Event.takes 2) =
        (second.2.run ([2, 3, 1].map .take)).1.filter (Event.takes 2) ∧
      first.1.countP Event.settles = 3 := by
  intro messages messages' table first second
  let place : Fin 5 ≃ Fin 5 :=
    ⟨(· + 2), (· - 2), by intro i; revert i; decide, by intro i; revert i; decide⟩
  have hplace : Rearranges messages messages' place := ⟨by decide, by decide⟩
  obtain ⟨hverdicts, hsame, htakes, -⟩ := deliveries_rearranged hplace table
  obtain ⟨verdict, hfirst, hsecond⟩ := hverdicts 2
  have hstale : first.1[2]? = some (.delivered (.readFailed 1 (-2)) .stale) := by decide
  obtain rfl : Delivery.stale = verdict := by
    have heq := hstale.symm.trans hfirst
    injection heq with hevent
    injection hevent
  exact ⟨place, hplace, ⟨hstale, hsecond⟩, hsame, htakes _ _ (by decide) 2, by decide⟩

end Table

end Pending
end BlockBridge

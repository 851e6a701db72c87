import BlockBridge.Proofs.Pending.Run

/-!
# What a table's history says

Whoever uses a table sees no more of it than what each use comes to.  That is
enough to tell what any later use comes to: a request is in flight if it was
registered and not removed since, and its outcome is what the first answer to it
said that was delivered since.

At most one result settles a registration, and at most one take hands its outcome
out.  Each of the two uses up a credit that only a registration renews.

Main statements: a table holds what its history says
(`Pending.Table.recounts_run`), and so takes and deliveries go by the history
alone (`Pending.Table.answers_of_history`).
-/

namespace BlockBridge
namespace Pending

/-! ## Reading a history -/

namespace Event

/-- Whether a result settled the request for a block. -/
def completes (block : Address) : Event → Bool
  | delivered message verdict => message.block = block ∧ verdict = .completed
  | registered .. | refused _ | taken .. | cancelled .. | evicted _ => false

/-- Whether the outcome of the request for a block was handed out. -/
def handsOut (block : Address) : Event → Bool
  | taken about outcome => about = block ∧ outcome.isSome
  | registered .. | refused _ | delivered .. | cancelled .. | evicted _ => false

end Event

/-- What happened since the registration of a request for a block that is still
in flight. -/
structure Stands (history : List Event) (block : Address) (operation : Operation) (now : Nat)
    (since : List Event) : Prop where
  registered : ∃ earlier, history = earlier ++ .registered block operation now :: since
  kept : ∀ event ∈ since, event.removes block = false

/-- A request of this operation on this block is in flight, and the first answer to
it that was delivered since its registration said this outcome. -/
def Answered (history : List Event) (block : Address) (operation : Operation)
    (outcome : Completion) : Prop :=
  ∃ now since, Stands history block operation now since ∧
    since.findSome? (Event.answer? block operation) = some outcome

/-- A message is an answer to a request in flight, and the first one to be
delivered since its registration. -/
def FirstAnswer (history : List Event) (message : Message) : Prop :=
  ∃ operation now since, Stands history message.block operation now since ∧
    since.findSome? (Event.answer? message.block operation) = none ∧
    (message.answer? message.block operation).isSome

/-! ## What stands after one more event -/

/-- After one more event a request stands because it was just registered, or
because it stood before and was not removed. -/
theorem stands_concat {history : List Event} {event : Event} {block : Address}
    {operation : Operation} {now : Nat} {since : List Event} :
    Stands (history ++ [event]) block operation now since ↔
      (event = .registered block operation now ∧ since = []) ∨
        ∃ before, since = before ++ [event] ∧ event.removes block = false ∧
          Stands history block operation now before := by
  constructor
  · rintro ⟨⟨earlier, hsplit⟩, hkept⟩
    rcases List.eq_nil_or_concat since with rfl | ⟨before, last, rfl⟩
    · obtain ⟨-, hlast⟩ := List.append_inj' hsplit rfl
      exact .inl ⟨(List.cons.inj hlast).1, rfl⟩
    · rw [List.concat_eq_append, ← List.cons_append, ← List.append_assoc] at hsplit
      obtain ⟨hhistory, hlast⟩ := List.append_inj' hsplit rfl
      obtain rfl := (List.cons.inj hlast).1
      rw [List.concat_eq_append] at hkept ⊢
      refine .inr ⟨before, rfl, hkept _ (by simp), ⟨earlier, hhistory⟩, ?_⟩
      exact fun later hlater => hkept later (List.mem_append_left _ hlater)
  · rintro (⟨rfl, rfl⟩ | ⟨before, rfl, hlast, ⟨earlier, rfl⟩, hkept⟩)
    · exact ⟨⟨history, rfl⟩, nofun⟩
    · refine ⟨⟨earlier, by simp⟩, ?_⟩
      intro later hlater
      rcases List.mem_append.mp hlater with hbefore | hthis
      · exact hkept later hbefore
      · rw [List.mem_singleton.mp hthis]
        exact hlast

/-- A table holds what its history says: an entry for each registration that
stands, with the first answer since. -/
def Recounts (history : List Event) (table : Table) : Prop :=
  ∀ block entry, table.find? block = some entry ↔
    ∃ since, Stands history block entry.operation entry.issuedAt since ∧
      since.findSome? (Event.answer? block entry.operation) = entry.outcome

theorem Recounts.find?_eq {history : List Event} {table : Table} (h : Recounts history table)
    {block : Address} {operation : Operation} {now : Nat} {since : List Event}
    (hstands : Stands history block operation now since) :
    table.find? block =
      some ⟨operation, now, since.findSome? (Event.answer? block operation)⟩ :=
  (h block _).mpr ⟨since, hstands, rfl⟩

/-- A request that is registered for a free block stands alone. -/
theorem Recounts.concat_of_registered {history : List Event} {table : Table}
    (h : Recounts history table) {event : Event} {block : Address} {fresh : Entry}
    (hfresh : event.made? block = some fresh) (hfree : table.find? block = none)
    (entry : Entry) :
    fresh = entry ↔
      ∃ since, Stands (history ++ [event]) block entry.operation entry.issuedAt since ∧
        since.findSome? (Event.answer? block entry.operation) = entry.outcome := by
  simp only [stands_concat]
  constructor
  · rintro rfl
    obtain ⟨hevent, hopen⟩ := Event.made?_eq_some_iff.mp hfresh
    exact ⟨[], .inl ⟨hevent, rfl⟩, hopen.symm⟩
  · rintro ⟨since, ⟨hevent, rfl⟩ | ⟨before, _, _, hstands⟩, hanswer⟩
    · rw [← Option.some_inj, ← hfresh, Event.made?_eq_some_iff]
      exact ⟨hevent, hanswer.symm⟩
    · -- An earlier registration that stands would hold the block.
      rw [h.find?_eq hstands] at hfree
      cases hfree

/-- Any other event lets stand what it does not remove, and may be its answer. -/
theorem Recounts.concat_of_other {history : List Event} {table : Table}
    (h : Recounts history table) {event : Event} {block : Address}
    (hother : event.made? block = none) (entry : Entry) :
    (if event.removes block then none
      else (table.find? block).map fun entry =>
        entry.hear (event.answer? block entry.operation)) = some entry ↔
      ∃ since, Stands (history ++ [event]) block entry.operation entry.issuedAt since ∧
        since.findSome? (Event.answer? block entry.operation) = entry.outcome := by
  have hnew : event ≠ .registered block entry.operation entry.issuedAt := by
    rintro rfl
    simp [Event.made?] at hother
  simp only [stands_concat]
  split
  · rename_i hgone
    constructor
    · intro hentry
      cases hentry
    · rintro ⟨since, ⟨hevent, _⟩ | ⟨before, _, hkept, _⟩, _⟩
      · exact absurd hevent hnew
      · rw [hgone] at hkept
        cases hkept
  · rename_i hkept
    rw [Option.map_eq_some_iff]
    constructor
    · rintro ⟨old, hfind, rfl⟩
      obtain ⟨before, hstands, hanswer⟩ := (h block old).mp hfind
      refine ⟨before ++ [event],
        .inr ⟨before, rfl, Bool.eq_false_iff.mpr hkept, hstands⟩, ?_⟩
      show (before ++ [event]).findSome? (Event.answer? block old.operation) =
        old.outcome.or (event.answer? block old.operation)
      rw [List.findSome?_append, hanswer]
      simp
    · rintro ⟨since, ⟨hevent, _⟩ | ⟨before, rfl, _, hstands⟩, hanswer⟩
      · exact absurd hevent hnew
      · refine ⟨_, h.find?_eq hstands, ?_⟩
        rw [List.findSome?_append] at hanswer
        exact congrArg (Entry.mk entry.operation entry.issuedAt) (by simpa using hanswer)

/-- One more use adds to the history what it does to the table. -/
theorem Recounts.call {history : List Event} {table : Table} (h : Recounts history table)
    (call : Call) : Recounts (history ++ [(table.call call).1]) (table.call call).2 := by
  intro block entry
  rw [Table.find?_call, Event.effect_eq]
  cases hevent : (table.call call).1.made? block with
  | some fresh =>
    have hfree := Table.find?_of_made hevent
    rw [← h.concat_of_registered hevent hfree]
    exact Option.some_inj
  | none => exact h.concat_of_other hevent entry

/-! ## Runs -/

namespace Table

/-- A table holds what its history says after any run, by induction on the uses. -/
theorem recounts_run (calls : List Call) {history : List Event} {table : Table}
    (h : Recounts history table) :
    Recounts (history ++ (table.run calls).1) (table.run calls).2 := by
  induction calls generalizing history table with
  | nil =>
    show Recounts (history ++ []) table
    rw [List.append_nil]
    exact h
  | cons call calls ih =>
    have hrest := ih (h.call call)
    rw [List.append_assoc] at hrest
    exact hrest

theorem recounts_empty (limit : Nat) : Recounts [] (empty limit) := by
  intro block entry
  constructor
  · nofun
  · rintro ⟨_, ⟨⟨earlier, hsplit⟩, _⟩, _⟩
    exact absurd hsplit.symm (by simp)

/-! ## One completion for each registration -/

/-- A credit that every event of a kind uses up, and that only registrations
renew, bounds how many such events there are until the next registration. -/
theorem countP_run_le {credit : Table → Nat} {counted : Event → Bool} {block : Address}
    (hstep : ∀ table call, (table.call call).1.made? block = none →
      credit (table.call call).2 + (if counted (table.call call).1 then 1 else 0) ≤ credit table)
    (calls : List Call) {table : Table}
    (hnone : ∀ event ∈ (table.run calls).1, event.made? block = none) :
    (table.run calls).1.countP counted ≤ credit table := by
  induction calls generalizing table with
  | nil => exact Nat.zero_le _
  | cons call calls ih =>
    have hfirst := hstep table call (hnone _ List.mem_cons_self)
    have hrest : ((table.call call).2.run calls).1.countP counted ≤ credit (table.call call).2 :=
      ih fun event hmem => hnone event (List.mem_cons_of_mem _ hmem)
    rw [run, List.countP_cons]
    omega

/-- One while the request for a block waits for a result. -/
def openCredit (block : Address) (table : Table) : Nat :=
  if (table.find? block).any (·.outcome.isNone) then 1 else 0

/-- One while there is a request for a block. -/
def heldCredit (block : Address) (table : Table) : Nat :=
  if table.contains block then 1 else 0

/-- A result that settles a request finds it open, and has an answer to it. -/
theorem exists_of_completes {call : Call} {table : Table} {block : Address}
    (h : (table.call call).1.completes block = true) :
    ∃ entry, table.find? block = some entry ∧ entry.outcome = none ∧
      ((table.call call).1.answer? block entry.operation).isSome ∧
      (table.call call).1.removes block = false := by
  cases call with
  | deliver message =>
    have h : decide (message.block = block ∧ (table.deliver message).1 = .completed) = true := h
    obtain ⟨rfl, hverdict⟩ := of_decide_eq_true h
    obtain ⟨entry, hfind, hopen, hanswer⟩ := (deliver_eq_completed_iff table message).mp hverdict
    exact ⟨entry, hfind, hopen, hanswer, rfl⟩
  | register about operation now =>
    simp only [Table.call] at h
    split at h <;> cases h
  | take about =>
    simp only [Table.call] at h
    split at h <;> cases h
  | cancel | evict => cases h

/-- An outcome that is handed out was there, and its request is removed. -/
theorem contains_of_handsOut {call : Call} {table : Table} {block : Address}
    (h : (table.call call).1.handsOut block = true) :
    table.contains block = true ∧ (table.call call).1.removes block = true := by
  cases call with
  | take about =>
    simp only [Table.call] at h ⊢
    rcases htake : table.take about with _ | ⟨⟨operation, outcome⟩, table'⟩
    · simp [htake, Event.handsOut] at h
    · obtain ⟨entry, hfind, _⟩ := take_eq_some_iff.mp htake
      rw [htake] at h
      obtain ⟨rfl, _⟩ := of_decide_eq_true h
      exact ⟨by simp [contains, hfind], h⟩
  | register about operation now =>
    simp only [Table.call] at h
    split at h <;> cases h
  | deliver | cancel | evict => cases h

theorem openCredit_call {block : Address} (table : Table) (call : Call)
    (h : (table.call call).1.made? block = none) :
    openCredit block (table.call call).2 +
      (if (table.call call).1.completes block then 1 else 0) ≤ openCredit block table := by
  have hafter := find?_call call table block
  simp only [Event.effect_eq, h] at hafter
  by_cases hcompletes : (table.call call).1.completes block = true
  · obtain ⟨entry, hfind, hopen, hanswer, hkept⟩ := exists_of_completes hcompletes
    obtain ⟨outcome, hanswer⟩ := Option.isSome_iff_exists.mp hanswer
    simp [openCredit, hafter, hfind, hopen, hkept, hcompletes, hanswer, Entry.hear]
  · rw [if_neg hcompletes, Nat.add_zero, openCredit, openCredit, hafter]
    by_cases hgone : (table.call call).1.removes block = true
    · simp [hgone]
    · rw [if_neg hgone]
      -- What was settled stays settled, whatever is heard.
      rcases table.find? block with _ | ⟨operation, now, _ | outcome⟩
      · exact Nat.le_refl 0
      · simp only [Option.any_some, Option.isNone_none, if_true]
        split
        · exact Nat.le_refl 1
        · exact Nat.zero_le 1
      · exact Nat.le_refl 0

theorem heldCredit_call {block : Address} (table : Table) (call : Call)
    (h : (table.call call).1.made? block = none) :
    heldCredit block (table.call call).2 +
      (if (table.call call).1.handsOut block then 1 else 0) ≤ heldCredit block table := by
  have hafter := find?_call call table block
  simp only [Event.effect_eq, h] at hafter
  rw [heldCredit, heldCredit, contains, hafter]
  by_cases hhands : (table.call call).1.handsOut block = true
  · obtain ⟨hheld, hgone⟩ := contains_of_handsOut hhands
    rw [if_pos hgone, if_pos hhands, if_pos hheld]
    exact Nat.le_refl 1
  · rw [if_neg hhands, Nat.add_zero, contains]
    by_cases hgone : (table.call call).1.removes block = true
    · simp [hgone]
    · simp [hgone]

/-- Until a block is registered again, at most one result settles its request and
at most one take hands an outcome out. -/
theorem countP_stretch_le_one {calls : List Call} {table : Table}
    {earlier since later : List Event} {block : Address}
    (hsplit : (table.run calls).1 = earlier ++ (since ++ later))
    (hnone : ∀ event ∈ since, event.made? block = none) :
    since.countP (Event.completes block) ≤ 1 ∧ since.countP (Event.handsOut block) ≤ 1 := by
  obtain ⟨before, after, -, -, hafter⟩ := exists_split_of_run hsplit
  obtain ⟨within, -, -, hwithin, -⟩ := exists_split_of_run hafter
  rw [← hwithin] at hnone ⊢
  constructor
  · refine Nat.le_trans (countP_run_le openCredit_call within hnone) ?_
    unfold openCredit
    split <;> decide
  · refine Nat.le_trans (countP_run_le heldCredit_call within hnone) ?_
    unfold heldCredit
    split <;> decide

/-! ## The law -/

/-- What a take hands out and how a delivery is judged can be told from the history
of the table.  A take hands out the outcome that the first answer since the
registration said, if the request is still in flight and there was one.  A message
settles a request exactly if it is that first answer, and is stale otherwise.  So
from one registration of a block to the next there is at most one completion. -/
theorem answers_of_history (limit : Nat) (calls : List Call) :
    let history := ((empty limit).run calls).1
    let table := ((empty limit).run calls).2
    (∀ block operation outcome,
      (table.take block).map Prod.fst = some (operation, outcome) ↔
        Answered history block operation outcome) ∧
    (∀ message,
      ((table.deliver message).1 = .completed ↔ FirstAnswer history message) ∧
        ((table.deliver message).1 = .stale ↔ ¬FirstAnswer history message)) ∧
    ∀ block operation now earlier since later,
      history = earlier ++ .registered block operation now :: since ++ later →
        (∀ event ∈ since, event.made? block = none) →
          since.countP (Event.completes block) ≤ 1 ∧
            since.countP (Event.handsOut block) ≤ 1 := by
  intro history table
  have hrecounts : Recounts history table := recounts_run calls (recounts_empty limit)
  refine ⟨?_, ?_, ?_⟩
  · intro block operation outcome
    rw [Option.map_eq_some_iff]
    constructor
    · rintro ⟨⟨_, table'⟩, htake, rfl⟩
      obtain ⟨entry, hfind, rfl, houtcome, _⟩ := take_eq_some_iff.mp htake
      obtain ⟨since, hstands, hanswer⟩ := (hrecounts block entry).mp hfind
      exact ⟨entry.issuedAt, since, hstands, hanswer.trans houtcome⟩
    · rintro ⟨now, since, hstands, hanswer⟩
      exact ⟨_, take_eq_some_iff.mpr ⟨_, hrecounts.find?_eq hstands, rfl, hanswer, rfl⟩, rfl⟩
  · intro message
    have hcompleted : (table.deliver message).1 = .completed ↔ FirstAnswer history message := by
      rw [deliver_eq_completed_iff]
      constructor
      · rintro ⟨entry, hfind, hopen, hanswer⟩
        obtain ⟨since, hstands, hnone⟩ := (hrecounts _ entry).mp hfind
        exact ⟨entry.operation, entry.issuedAt, since, hstands, hnone.trans hopen, hanswer⟩
      · rintro ⟨operation, now, since, hstands, hnone, hanswer⟩
        exact ⟨_, hrecounts.find?_eq hstands, hnone, hanswer⟩
    refine ⟨hcompleted, ?_⟩
    rw [← hcompleted]
    cases (table.deliver message).1 <;> simp
  · intro block operation now earlier since later hsplit hnone
    have hstretch : ((empty limit).run calls).1 =
        (earlier ++ [.registered block operation now]) ++ (since ++ later) := by
      show history = _
      rw [hsplit]
      simp
    exact countP_stretch_le_one hstretch hnone

/-- A read of a block hears an answer to a write, then its own, then another one
too late; then the block is registered again, for a write that is given up. -/
theorem answers_of_history_reused_block :
    let calls : List Call :=
      [.register 5 .read 0, .deliver (.writeResult 5 0), .deliver (.readFailed 5 (-1)),
        .deliver (.readFailed 5 (-2)), .take 5, .register 5 .write 3, .evict 9 6,
        .deliver (.writeResult 5 0)]
    let since : List Event :=
      [.delivered (.writeResult 5 0) .stale, .delivered (.readFailed 5 (-1)) .completed,
        .delivered (.readFailed 5 (-2)) .stale, .taken 5 (some (.read, .failed (-1)))]
    ((empty 2).run calls).1 = [] ++ .registered 5 .read 0 :: since ++
        [.registered 5 .write 3, .evicted [5], .delivered (.writeResult 5 0) .stale] ∧
      (∀ event ∈ since, event.made? 5 = none) ∧
      since.countP (Event.completes 5) ≤ 1 ∧ since.countP (Event.handsOut 5) ≤ 1 := by
  intro calls since
  have hsplit : ((empty 2).run calls).1 = [] ++ .registered 5 .read 0 :: since ++
      [.registered 5 .write 3, .evicted [5], .delivered (.writeResult 5 0) .stale] := by
    decide
  have hnone : ∀ event ∈ since, event.made? 5 = none := by decide
  exact ⟨hsplit, hnone, (answers_of_history 2 calls).2.2 5 .read 0 [] since _ hsplit hnone⟩

end Table
end Pending
end BlockBridge

import BlockBridge.Channel.Replay
import BlockBridge.Proofs.Session.Accounting

/-!
# Results that are kept for their caller

A result that has arrived stays with the entry of its request until that is waited
for.  What other calls do to the entry is one thing only: a submission gives up the
requests that were issued too long ago, and does not ask whether their results are
there.

So each call is measured by the blocks whose requests it gives up
(`Session.lost`).  The counter of timeouts moves by their number, and the entry of a
block that no call names is the same as before, or is gone because the block is
among them (`Session.Spares`).  It is among them just when a request is submitted too
late for it (`Session.mem_lostIn_iff`).

Main statement: `Session.wait_of_parked`.
-/

namespace BlockBridge

namespace Session

variable {σ : Type}

/-! ## What a call gives up -/

/-- The block that a call names. -/
def Call.block? : Call → Option Address
  | .submitRead block | .submitWrite block _ | .readBlock block | .writeBlock block _
  | .writeBytes block _ | .wait block | .cancel block => some block
  | .pump _ | .sleep _ => none

/-- Whether a call is or begins with a submission, whatever becomes of that. -/
def Call.submits : Call → Bool
  | .submitRead _ | .submitWrite .. | .readBlock _ | .writeBlock .. => true
  | .writeBytes _ bytes => (Block.ofBytes? bytes).isSome
  | .wait _ | .pump _ | .cancel _ | .sleep _ => false

/-- The blocks whose requests were issued too long ago, which a submission gives up. -/
def expired (session : Session σ) : List Address :=
  session.client.pending.expired session.time.now session.client.timeout

/-- The block whose request a wait gave up, going by what the wait returned. -/
def timedOut : Except Fault Completion → List Address
  | .error (.timeout block) => [block]
  | .error _ | .ok _ => []

/-- The blocks whose requests are given up in a wait for what was just submitted, if
it was. -/
def lostAfter (channel : Channel σ) (block : Address) :
    Except Fault Unit × Session σ → List Address
  | (.ok (), session) => timedOut (session.wait channel block).1
  | (.error _, _) => []

/-- The blocks whose requests are given up in a call. -/
def lost (channel : Channel σ) : Call → Session σ → List Address
  | .submitRead _, session | .submitWrite .., session => session.expired
  | .readBlock block, session =>
    session.expired ++ lostAfter channel block (session.submitRead channel block)
  | .writeBlock block data, session =>
    session.expired ++ lostAfter channel block (session.submitWrite channel block data)
  | .writeBytes block bytes, session =>
    match Block.ofBytes? bytes with
    | none => []
    | some data =>
      session.expired ++ lostAfter channel block (session.submitWrite channel block data)
  | .wait block, session => timedOut (session.wait channel block).1
  | .pump _, _ | .cancel _, _ | .sleep _, _ => []

/-- The blocks whose requests are given up in a list of calls. -/
def lostIn (channel : Channel σ) : List Call → Session σ → List Address
  | [], _ => []
  | call :: rest, session =>
    session.lost channel call ++ lostIn channel rest (session.call channel call).2

/-- That one of the calls submits a request when one that was issued then has waited
too long. -/
def SubmitsLate (channel : Channel σ) (issuedAt : Nat) : List Call → Session σ → Prop
  | [], _ => False
  | call :: rest, session =>
    (call.submits = true ∧ session.client.timeout ≤ session.time.now - issuedAt) ∨
      SubmitsLate channel issuedAt rest (session.call channel call).2

instance SubmitsLate.decidable (channel : Channel σ) (issuedAt : Nat) :
    ∀ (calls : List Call) (session : Session σ),
      Decidable (SubmitsLate channel issuedAt calls session)
  | [], _ => inferInstanceAs (Decidable False)
  | call :: rest, session =>
    have := decidable channel issuedAt rest (session.call channel call).2
    inferInstanceAs (Decidable (_ ∨ _))

/-! ## What a call leaves of another block's entry -/

/-- That nothing which arrives can settle a request for the block: there is none, or
it is settled. -/
def Quiet (block : Address) (session : Session σ) : Prop :=
  ∀ entry, session.client.pending.find? block = some entry → entry.outcome ≠ none

/-- That some steps leave a block's entry alone unless the block is among those whose
requests they give up, and count those. -/
structure Spares (block : Address) (gone : List Address) (before after : Session σ) : Prop where
  find?_eq : after.client.pending.find? block =
    if block ∈ gone then none else before.client.pending.find? block
  /-- Only what is there is given up, and once. -/
  count_le : gone.count block ≤
    if (before.client.pending.find? block).isSome then 1 else 0
  timeouts_eq : after.client.stats.timeouts = before.client.stats.timeouts + gone.length

variable {block : Address} {gone gone' : List Address} {before next last : Session σ}

/-- Steps that give nothing up, neither move the counter nor the block's entry. -/
theorem Spares.of_eq (hfind : last.client.pending.find? block = before.client.pending.find? block)
    (htimeouts : last.client.stats.timeouts = before.client.stats.timeouts) :
    Spares block [] before last where
  find?_eq := by rw [if_neg List.not_mem_nil, hfind]
  count_le := Nat.zero_le _
  timeouts_eq := htimeouts

theorem Spares.trans (h : Spares block gone before next) (h' : Spares block gone' next last) :
    Spares block (gone ++ gone') before last := by
  have htimeouts : last.client.stats.timeouts =
      before.client.stats.timeouts + (gone ++ gone').length := by
    rw [h'.timeouts_eq, h.timeouts_eq, List.length_append, Nat.add_assoc]
  have hcount' := h'.count_le
  rw [h.find?_eq] at hcount'
  by_cases hmem : block ∈ gone
  · -- What is gone is not given up again.
    rw [if_pos hmem] at hcount'
    have hnever : gone'.count block = 0 := Nat.le_zero.mp hcount'
    refine ⟨?_, ?_, htimeouts⟩
    · rw [h'.find?_eq, if_neg (List.count_eq_zero.mp hnever), h.find?_eq, if_pos hmem,
        if_pos (List.mem_append_left gone' hmem)]
    · rw [List.count_append, hnever]
      exact h.count_le
  · rw [if_neg hmem] at hcount'
    refine ⟨?_, ?_, htimeouts⟩
    · rw [h'.find?_eq, h.find?_eq, if_neg hmem]
      simp only [List.mem_append, hmem, false_or]
    · rw [List.count_append, List.count_eq_zero.mpr hmem, Nat.zero_add]
      exact hcount'

theorem Quiet.of_settled {session : Session σ} {entry : Pending.Entry}
    (hfind : session.client.pending.find? block = some entry) (hsettled : entry.outcome ≠ none) :
    Quiet block session :=
  fun _ hfound => Option.some.inj (hfind.symm.trans hfound) ▸ hsettled

theorem Quiet.of_spares (h : Quiet block before) (hspares : Spares block gone before last) :
    Quiet block last := by
  intro entry hfind
  rw [hspares.find?_eq] at hfind
  split at hfind
  · cases hfind
  · exact h entry hfind

/-! ### The steps -/

/-- Giving up what expired. -/
theorem spares_evicted (block : Address) (session : Session σ) :
    Spares block session.expired session session.evicted := by
  have hfind : session.evicted.client.pending.find? block =
      if block ∈ session.expired then none else session.client.pending.find? block :=
    Pending.Table.find?_foldl_erase _ _ block
  refine ⟨hfind, ?_, rfl⟩
  rw [expired, (session.client.pending.nodup_expired _ _).count]
  split
  · rename_i hmem
    obtain ⟨entry, hentry, _⟩ := Pending.Table.mem_expired_iff.mp hmem
    rw [hentry]
    exact Nat.le_refl 1
  · exact Nat.zero_le _

theorem spares_submit (channel : Channel σ) (operation : Operation) (message : Message)
    (hother : message.block ≠ block) (session : Session σ) :
    Spares block session.expired session (session.submit channel operation message).2 := by
  have hevicted := session.spares_evicted block
  have hregistered {pending : Pending.Table}
      (hregister : session.evicted.client.pending.register message.block operation
        session.time.now = .ok pending) :
      pending.find? block = session.evicted.client.pending.find? block := by
    rw [Pending.Table.find?_of_register hregister, if_neg (Ne.symm hother)]
  have hsubmission := session.submission channel operation message
  generalize session.submit channel operation message = submitted at hsubmission ⊢
  rcases submitted with ⟨result, after⟩
  simp only at hsubmission ⊢
  rw [← List.append_nil session.expired]
  cases hsubmission with
  | refused => exact hevicted.trans (.of_eq rfl rfl)
  | @unsent pending fault state time notes hregister hsend =>
    refine hevicted.trans (.of_eq ?_ rfl)
    show (pending.erase message.block).find? block = _
    rw [Pending.Table.find?_erase, if_neg (Ne.symm hother), hregistered hregister]
  | sent hregister hsend => exact hevicted.trans (.of_eq (hregistered hregister) rfl)

/-- Whatever arrives, it does not settle what is settled. -/
theorem spares_pump (channel : Channel σ) (timeout : Nat) {session : Session σ}
    (hquiet : Quiet block session) :
    Spares block [] session (session.pump channel timeout).2 := by
  have hreception := session.reception channel timeout
  generalize session.pump channel timeout = pumped at hreception ⊢
  rcases pumped with ⟨result, after⟩
  simp only at hreception ⊢
  cases hreception with
  | broken => exact .of_eq rfl rfl
  | idle => exact .of_eq rfl rfl
  | @frame bytes state time notes =>
    have hsettlements := (session.client.counts_accept bytes).2.1
    simp only [ClientCounters.settlements, Prod.mk.injEq] at hsettlements
    exact .of_eq (Client.find?_accept hquiet bytes) hsettlements.2.2.2

/-- A wait for another block gives up the request for that one, if it does. -/
theorem spares_wait (channel : Channel σ) {other : Address} (hother : other ≠ block)
    {session : Session σ} (hquiet : Quiet block session) :
    Spares block (timedOut (session.wait channel other).1) session
      (session.wait channel other).2 := by
  have herase (table : Pending.Table) : (table.erase other).find? block = table.find? block := by
    rw [Pending.Table.find?_erase, if_neg (Ne.symm hother)]
  have hpump {before next : Session σ} {timeout : Nat} {result : Except Fault Bool}
      (h : before.pump channel timeout = (result, next)) (hbefore : Spares block [] session before) :
      Spares block [] session next := by
    have hnext := before.spares_pump channel timeout (hquiet.of_spares hbefore)
    rw [h] at hnext
    exact hbefore.trans hnext
  obtain ⟨last, hpumped, hending⟩ := session.wait_ends channel other
  have hlast : Spares block [] session last :=
    Pumped.preserves (P := Spares block [] session) hpump hpumped (.of_eq rfl rfl)
  generalize session.wait channel other = waited at hending ⊢
  rcases waited with ⟨result, after⟩
  simp only at hending ⊢
  cases hending with
  | @settled entry outcome =>
    cases outcome <;> exact hlast.trans (.of_eq (herase _) rfl)
  | absent => exact hlast
  | late =>
    have hmem : block ∉ [other] := fun h => hother (List.mem_singleton.mp h).symm
    refine hlast.trans ⟨?_, ?_, rfl⟩
    · rw [if_neg hmem]
      exact herase _
    · rw [List.count_eq_zero.mpr hmem]
      exact Nat.zero_le _
  | @broken entry fault next _ _ _ hpump' =>
    obtain ⟨cause, rfl, _⟩ := pump_of_error hpump'
    exact (hpump hpump' hlast).trans (.of_eq (herase _) rfl)

theorem spares_waitedIfSent (channel : Channel σ) {other : Address} (hother : other ≠ block)
    {submitted : Except Fault Unit × Session σ} (hquiet : Quiet block submitted.2) :
    Spares block (lostAfter channel other submitted) submitted.2
      (waitedIfSent channel other submitted) := by
  rcases submitted with ⟨_ | ⟨⟩, session⟩
  · exact .of_eq rfl rfl
  · exact session.spares_wait channel hother hquiet

theorem spares_submitRead (channel : Channel σ) {other : Address} (hother : other ≠ block)
    (session : Session σ) :
    Spares block session.expired session (session.submitRead channel other).2 :=
  session.spares_submit channel .read (.readRequest other) hother

/-- Noting the data of a write changes nothing that counts. -/
theorem spares_submitWrite (channel : Channel σ) {other : Address} (hother : other ≠ block)
    (data : Block) (session : Session σ) :
    Spares block session.expired session (session.submitWrite channel other data).2 := by
  have hnoted := (session.note (session.client.dump other data)).spares_submit channel .write
    (.writeRequest other data) hother
  exact ⟨hnoted.find?_eq, hnoted.count_le, hnoted.timeouts_eq⟩

theorem spares_writeBlock (channel : Channel σ) {other : Address} (hother : other ≠ block)
    (data : Block) {session : Session σ} (hquiet : Quiet block session) :
    Spares block (session.lost channel (.writeBlock other data)) session
      (session.writeBlock channel other data).2 := by
  have hsubmitted := session.spares_submitWrite channel hother data
  rw [writeBlock_session]
  exact hsubmitted.trans (spares_waitedIfSent channel hother (hquiet.of_spares hsubmitted))

/-- Every call that does not name the block. -/
theorem spares_call (channel : Channel σ) {call : Call} (hother : call.block? ≠ some block)
    {session : Session σ} (hquiet : Quiet block session) :
    Spares block (session.lost channel call) session (session.call channel call).2 := by
  have hne {other : Address} (h : call.block? = some other) : other ≠ block :=
    fun heq => hother (h.trans (congrArg some heq))
  cases call with
  | submitRead other => exact session.spares_submitRead channel (hne rfl)
  | submitWrite other data => exact session.spares_submitWrite channel (hne rfl) data
  | readBlock other =>
    have hsubmitted := session.spares_submitRead channel (hne rfl)
    show Spares block _ session (session.readBlock channel other).2
    rw [readBlock_session]
    exact hsubmitted.trans (spares_waitedIfSent channel (hne rfl) (hquiet.of_spares hsubmitted))
  | writeBlock other data => exact session.spares_writeBlock channel (hne rfl) data hquiet
  | writeBytes other bytes =>
    simp only [Session.call, Session.writeBytes, lost]
    cases Block.ofBytes? bytes with
    | none => exact .of_eq rfl rfl
    | some data => exact session.spares_writeBlock channel (hne rfl) data hquiet
  | wait other => exact session.spares_wait channel (hne rfl) hquiet
  | pump timeout => exact session.spares_pump channel timeout hquiet
  | cancel other =>
    refine .of_eq ?_ rfl
    show (session.client.pending.erase other).find? block = _
    rw [Pending.Table.find?_erase, if_neg (Ne.symm (hne rfl))]
  | sleep duration => exact .of_eq rfl rfl

/-! ## When a block's request is given up -/

/-- A wait gives up no request but its own. -/
theorem not_mem_timedOut (channel : Channel σ) {other : Address} (hother : other ≠ block)
    (session : Session σ) : block ∉ timedOut (session.wait channel other).1 := by
  obtain ⟨last, _, hending⟩ := session.wait_ends channel other
  generalize session.wait channel other = waited at hending ⊢
  rcases waited with ⟨result, after⟩
  simp only at hending ⊢
  cases hending with
  | @settled entry outcome => cases outcome <;> exact List.not_mem_nil
  | absent => exact List.not_mem_nil
  | late => exact fun h => hother (List.mem_singleton.mp h).symm
  | broken _ _ _ hpump =>
    obtain ⟨cause, rfl, _⟩ := pump_of_error hpump
    exact List.not_mem_nil

/-- What reading or writing another block gives up is what its submission does. -/
theorem mem_expired_append_iff (channel : Channel σ) {other : Address} (hother : other ≠ block)
    (expired : List Address) (submitted : Except Fault Unit × Session σ) :
    block ∈ expired ++ lostAfter channel other submitted ↔ block ∈ expired := by
  have hafter : block ∉ lostAfter channel other submitted := by
    rcases submitted with ⟨_ | ⟨⟩, session⟩
    · exact List.not_mem_nil
    · exact not_mem_timedOut channel hother session
  rw [List.mem_append, or_iff_left hafter]

/-- A call that does not name the block gives up its request if the call submits one
and the block's has expired. -/
theorem mem_lost_iff (channel : Channel σ) {call : Call} (hother : call.block? ≠ some block)
    (session : Session σ) :
    block ∈ session.lost channel call ↔ call.submits = true ∧ block ∈ session.expired := by
  have hne {other : Address} (h : call.block? = some other) : other ≠ block :=
    fun heq => hother (h.trans (congrArg some heq))
  cases call with
  | submitRead | submitWrite => exact (and_iff_right rfl).symm
  | readBlock other | writeBlock other data =>
    rw [and_iff_right (by rfl)]
    exact mem_expired_append_iff channel (hne rfl) _ _
  | writeBytes other bytes =>
    simp only [lost, Call.submits]
    cases Block.ofBytes? bytes with
    | none => simp
    | some data =>
      rw [and_iff_right (by rfl)]
      exact mem_expired_append_iff channel (hne rfl) _ _
  | wait other =>
    simp [lost, Call.submits, not_mem_timedOut channel (hne rfl) session]
  | pump | cancel | sleep => simp [lost, Call.submits]

/-- So its request is given up in a list of calls if a request is submitted when it
has waited too long; by induction on the calls, up to the first such. -/
theorem mem_lostIn_iff (channel : Channel σ) {calls : List Call}
    (hothers : ∀ call ∈ calls, call.block? ≠ some block) {session : Session σ}
    {entry : Pending.Entry} (hfind : session.client.pending.find? block = some entry)
    (hsettled : entry.outcome ≠ none) :
    block ∈ session.lostIn channel calls ↔ session.SubmitsLate channel entry.issuedAt calls := by
  induction calls generalizing session with
  | nil => exact iff_of_false List.not_mem_nil id
  | cons call rest ih =>
    have hother := hothers call List.mem_cons_self
    have hquiet : Quiet block session := .of_settled hfind hsettled
    have hexpired : block ∈ session.expired ↔
        session.client.timeout ≤ session.time.now - entry.issuedAt := by
      rw [expired, Pending.Table.mem_expired_iff, hfind]
      simp
    have hlost := mem_lost_iff channel hother session
    rw [hexpired] at hlost
    rw [lostIn, List.mem_append, SubmitsLate, hlost]
    by_cases hlate : call.submits = true ∧
        session.client.timeout ≤ session.time.now - entry.issuedAt
    · exact iff_of_true (.inl hlate) (.inl hlate)
    · have hspares := session.spares_call channel hother hquiet
      have hkept : (session.call channel call).2.client.pending.find? block = some entry := by
        rw [hspares.find?_eq, if_neg (mt hlost.mp hlate), hfind]
      rw [ih (fun later hmem => hothers later (List.mem_cons_of_mem _ hmem)) hkept]

/-! ## Runs -/

/-- Any calls that do not name the block, by induction on them. -/
theorem spares_after (channel : Channel σ) {calls : List Call}
    (hothers : ∀ call ∈ calls, call.block? ≠ some block) {session : Session σ}
    (hquiet : Quiet block session) :
    Spares block (session.lostIn channel calls) session (session.after channel calls) := by
  induction calls generalizing session with
  | nil => exact .of_eq rfl rfl
  | cons call rest ih =>
    have hcall := session.spares_call channel (hothers call List.mem_cons_self) hquiet
    exact hcall.trans (ih (fun later hmem => hothers later (List.mem_cons_of_mem _ hmem))
      (hquiet.of_spares hcall))

theorem lostIn_append (channel : Channel σ) (calls calls' : List Call) (session : Session σ) :
    session.lostIn channel (calls ++ calls') =
      session.lostIn channel calls ++ (session.after channel calls).lostIn channel calls' := by
  induction calls generalizing session with
  | nil => rfl
  | cons call rest ih =>
    rw [List.cons_append, lostIn, lostIn, ih, List.append_assoc]
    rfl

/-- A wait for a result that is there gives nothing up. -/
theorem wait_gives_nothing_up (channel : Channel σ) {session : Session σ} {entry : Pending.Entry}
    {outcome : Completion} (hfind : session.client.pending.find? block = some entry)
    (hparked : entry.outcome = some outcome) :
    (session.wait channel block).1 = outcome.verdict block ∧
      timedOut (session.wait channel block).1 = [] ∧
      (session.wait channel block).2.client.stats.timeouts = session.client.stats.timeouts := by
  rw [wait_of_settled hfind hparked]
  cases outcome <;> exact ⟨rfl, rfl, rfl⟩

/-- A result that has arrived is kept for whoever waits for it.  Let a session hold
the result of a request, and let calls be made that do not name the request's block.
The timeouts counted from then on, with those of a wait for the block that follows,
are one for each request that was given up.  As long as none of the calls submits a
request when the time allowed since the first one's issue is over, the wait returns
the result, however late, and the block is not among those given up.  Otherwise the
request was given up, which was counted once, and the wait finds none. -/
theorem wait_of_parked (channel : Channel σ) {session : Session σ} {entry : Pending.Entry}
    {outcome : Completion} (hfind : session.client.pending.find? block = some entry)
    (hparked : entry.outcome = some outcome) {calls : List Call}
    (hothers : ∀ call ∈ calls, call.block? ≠ some block) :
    let waited := (session.after channel calls).wait channel block
    let lost := session.lostIn channel (calls ++ [.wait block])
    waited.2.client.stats.timeouts = session.client.stats.timeouts + lost.length ∧
    (¬session.SubmitsLate channel entry.issuedAt calls →
      waited.1 = outcome.verdict block ∧ block ∉ lost) ∧
    (session.SubmitsLate channel entry.issuedAt calls →
      waited.1 = .error (.request (.notPending block)) ∧ lost.count block = 1) := by
  intro waited lost
  have hsettled : entry.outcome ≠ none := by
    rw [hparked]
    exact Option.some_ne_none outcome
  have hspares := session.spares_after channel hothers (Quiet.of_settled hfind hsettled)
  have hlate := mem_lostIn_iff channel hothers hfind hsettled
  -- The wait gives nothing up in either case: the result is there, or the entry is gone.
  have hlost (hnone : timedOut waited.1 = []) : lost = session.lostIn channel calls := by
    have happend : lost = session.lostIn channel calls ++ (timedOut waited.1 ++ []) :=
      session.lostIn_append channel calls [.wait block]
    rw [happend, hnone, List.append_nil, List.append_nil]
  by_cases hmem : block ∈ session.lostIn channel calls
  · have hgone : (session.after channel calls).client.pending.find? block = none := by
      rw [hspares.find?_eq, if_pos hmem]
    have hwaited : waited = (.error (.request (.notPending block)), session.after channel calls) :=
      wait_of_absent hgone
    have hcount := hspares.count_le
    rw [hfind] at hcount
    have honce : (session.lostIn channel calls).count block = 1 :=
      Nat.le_antisymm hcount (List.count_pos_iff.mpr hmem)
    rw [hlost (by rw [hwaited]; rfl), hwaited]
    exact ⟨hspares.timeouts_eq, fun hnot => absurd (hlate.mp hmem) hnot, fun _ => ⟨rfl, honce⟩⟩
  · have hkept : (session.after channel calls).client.pending.find? block = some entry := by
      rw [hspares.find?_eq, if_neg hmem, hfind]
    obtain ⟨hverdict, hnone, htimeouts⟩ := wait_gives_nothing_up channel hkept hparked
    rw [hlost hnone]
    exact ⟨htimeouts.trans hspares.timeouts_eq, fun _ => ⟨hverdict, hmem⟩,
      fun hsubmits => absurd (hlate.mpr hsubmits) hmem⟩

/-- A session that holds the result of a write of block 1. -/
def holdingWritten : Session Replay :=
  after Replay.channel [.submitWrite 1 (.fill 1), .pump 0]
    { client := .ofConfig {}
      channel := { inbound := [⟨.frame [4, 1, 0, 0, 0, 0, 0, 0, 0], 0⟩] }
      time := {} }

/-- The result is taken more than a minute late if the last submission was made in
time, and is lost if it was made a microsecond later. -/
theorem wait_of_parked_write :
    let early : List Call := [.sleep 4999999, .submitRead 2, .sleep 60000000]
    let late : List Call := [.sleep 5000000, .submitRead 2]
    holdingWritten.client.pending.find? 1 = some ⟨.write, 0, some .written⟩ ∧
    (∀ call ∈ early, call.block? ≠ some 1) ∧ (∀ call ∈ late, call.block? ≠ some 1) ∧
    (¬holdingWritten.SubmitsLate Replay.channel 0 early ∧
      ((holdingWritten.after Replay.channel early).wait Replay.channel 1).1 = .ok .written ∧
      1 ∉ holdingWritten.lostIn Replay.channel (early ++ [.wait 1])) ∧
    holdingWritten.SubmitsLate Replay.channel 0 late ∧
      ((holdingWritten.after Replay.channel late).wait Replay.channel 1).1 =
        .error (.request (.notPending 1)) ∧
      (holdingWritten.lostIn Replay.channel (late ++ [.wait 1])).count 1 = 1 := by
  intro early late
  have hfind : holdingWritten.client.pending.find? 1 = some ⟨.write, 0, some .written⟩ := by
    decide +kernel
  have hearly : ∀ call ∈ early, call.block? ≠ some 1 := by simp [early, Call.block?]
  have hlate : ∀ call ∈ late, call.block? ≠ some 1 := by simp [late, Call.block?]
  have hintime : ¬holdingWritten.SubmitsLate Replay.channel 0 early := by decide +kernel
  have hbelated : holdingWritten.SubmitsLate Replay.channel 0 late := by decide +kernel
  obtain ⟨_, hkept, _⟩ := wait_of_parked Replay.channel hfind rfl hearly
  obtain ⟨_, _, hgone⟩ := wait_of_parked Replay.channel hfind rfl hlate
  exact ⟨hfind, hearly, hlate, ⟨hintime, hkept hintime⟩, hbelated, hgone hbelated⟩

/-- A result that is there need not be there for whoever waits for it: five seconds on,
a request for another block is submitted, and the wait finds nothing.  It was counted
as a timeout. -/
theorem parked_result_given_up :
    let calls : List Call := [.sleep 5000000, .submitRead 2]
    let waited := (holdingWritten.after Replay.channel calls).wait Replay.channel 1
    holdingWritten.client.pending.find? 1 = some ⟨.write, 0, some .written⟩ ∧
    (∀ call ∈ calls, call.block? ≠ some 1) ∧
    waited.1 = .error (.request (.notPending 1)) ∧
    waited.1 ≠ Completion.written.verdict 1 ∧
    holdingWritten.client.stats.timeouts = 0 ∧ waited.2.client.stats.timeouts = 1 := by
  intro calls waited
  have hgone : (holdingWritten.after Replay.channel calls).client.pending.find? 1 = none := by
    decide +kernel
  have hwaited : waited =
      (.error (.request (.notPending 1)), holdingWritten.after Replay.channel calls) :=
    wait_of_absent hgone
  rw [hwaited]
  refine ⟨by decide +kernel, ?_, rfl, ?_, by decide +kernel, by decide +kernel⟩
  · simp [calls, Call.block?]
  · simp [Completion.verdict]

end Session
end BlockBridge

import BlockBridge.Proofs.Session.Clock

/-!
# A wait ends by the deadline of its request

The deadline of a request is when the time allowed since its issue is over.  While a wait
receives, each receive is allowed just the time until then.  Over a punctual channel it
therefore uses up some of the channel's backlog or is the last one, and the clock is not
past the deadline unless the wait began past it.

What the wait returns is fixed by what its receives brought (`Pending.Entry.conclusion`).
The deadline itself decides nothing: an outcome that is there counts, however late it is
looked for.

Main statement: `Session.wait_by_deadline`.
-/

namespace BlockBridge

/-! ## What receives bring -/

namespace Receipt

/-- The outcome that a receive brought for a request of this operation on this block. -/
def answer? (block : Address) (operation : Operation) (receipt : Receipt) : Option Completion :=
  match receipt.result with
  | .ok (some frame) => frame.answer? block operation
  | .ok none | .error _ => none

/-- The fault that a receive met with. -/
def fault? (receipt : Receipt) : Option ChannelFault :=
  match receipt.result with
  | .error fault => some fault
  | .ok _ => none

end Receipt

/-- What a wait returns for a request that is in flight: the outcome that was there or was
the first to come, if there was one, else the fault that was met with, else a timeout. -/
def Pending.Entry.conclusion (block : Address) (receipts : List Receipt) (entry : Entry) :
    Except Fault Completion :=
  match entry.outcome.or (receipts.findSome? (Receipt.answer? block entry.operation)),
    receipts.findSome? Receipt.fault? with
  | some outcome, _ => outcome.verdict block
  | none, some fault => .error (.channel fault)
  | none, none => .error (.timeout block)

theorem Pending.Entry.conclusion_of_settled {entry : Entry} {outcome : Completion}
    (h : entry.outcome = some outcome) (block : Address) (receipts : List Receipt) :
    entry.conclusion block receipts = outcome.verdict block := by
  rw [conclusion, h, Option.some_or]

/-- A receive that did not fail counts by what it lets the request hear. -/
theorem Pending.Entry.conclusion_cons {entry : Entry} (hopen : entry.outcome = none)
    {receipt : Receipt} (hfault : receipt.fault? = none) (block : Address)
    (receipts : List Receipt) :
    entry.conclusion block (receipt :: receipts) =
      (entry.hear (receipt.answer? block entry.operation)).conclusion block receipts := by
  have hheard : entry.outcome.or ((receipt :: receipts).findSome?
      (Receipt.answer? block entry.operation)) =
      (entry.hear (receipt.answer? block entry.operation)).outcome.or
        (receipts.findSome? (Receipt.answer? block entry.operation)) := by
    rw [hear, hopen, Option.none_or, Option.none_or, List.findSome?_cons]
    cases receipt.answer? block entry.operation <;> rfl
  have hfaults : (receipt :: receipts).findSome? Receipt.fault? =
      receipts.findSome? Receipt.fault? := by
    rw [List.findSome?_cons, hfault]
  rw [conclusion, hheard, hfaults]
  rfl

/-- What comes of a request is no timeout. -/
theorem Completion.verdict_ne_timeout (outcome : Completion) (block about : Address) :
    outcome.verdict block ≠ .error (.timeout about) := by
  cases outcome <;> simp [verdict]

namespace Session

variable {σ : Type} {channel : Channel σ} {block : Address}

/-! ## One receive -/

/-- What a receive that did not fail leaves behind: the request has heard what it brought,
and it used up some of the backlog or all the time allowed. -/
structure Heard (channel : Channel σ) (block : Address) (entry : Pending.Entry)
    (receipt : Receipt) (before after : Session (Timed σ)) : Prop where
  receipts_eq : after.channel.receipts = before.channel.receipts ++ [receipt]
  began_eq : receipt.began = before.time.now
  ended_eq : receipt.ended = after.time.now
  fault?_eq : receipt.fault? = none
  find?_eq : after.client.pending.find? block =
    some (entry.hear (receipt.answer? block entry.operation))
  timeout_eq : after.client.timeout = before.client.timeout
  le_now : before.time.now ≤ after.time.now
  now_le : after.time.now ≤ before.time.now + receipt.allowed
  progress : channel.backlog after.channel.state < channel.backlog before.channel.state ∨
    channel.backlog after.channel.state ≤ channel.backlog before.channel.state ∧
      before.time.now + receipt.allowed ≤ after.time.now

/-- Every receive that does not fail does so. -/
theorem heard_of_pump (hpunctual : channel.Punctual) {before after : Session (Timed σ)}
    {timeout : Nat} {received : Bool}
    (hpump : before.pump channel.timed timeout = (.ok received, after)) {entry : Pending.Entry}
    (hfind : before.client.pending.find? block = some entry) :
    ∃ receipt, receipt.allowed = timeout ∧ Heard channel block entry receipt before after := by
  have hreception := before.reception channel.timed timeout
  rw [hpump] at hreception
  cases hreception with
  | @idle link time hreceive =>
    obtain ⟨hplain, hreceipts, _⟩ := Channel.receive_of_timed hreceive
    exact ⟨_, rfl,
      { receipts_eq := hreceipts
        began_eq := rfl
        ended_eq := rfl
        fault?_eq := rfl
        find?_eq := by rw [Receipt.answer?, Pending.Entry.hear_none]; exact hfind
        timeout_eq := rfl
        le_now := hpunctual.now_le_of_receive hplain
        now_le := hpunctual.now_le_add hplain
        progress := channel.idle hplain }⟩
  | @frame bytes link time notes hreceive =>
    obtain ⟨hplain, hreceipts, _⟩ := Channel.receive_of_timed hreceive
    have hclock : before.time.now ≤ time.now := hpunctual.now_le_of_receive hplain
    have hintime : time.now ≤ before.time.now + timeout := hpunctual.now_le_add hplain
    exact ⟨_, rfl,
      { receipts_eq := hreceipts
        began_eq := rfl
        ended_eq := rfl
        fault?_eq := rfl
        find?_eq := by
          show (before.client.accept bytes).1.pending.find? block = _
          rw [Client.pending_accept, Pending.Table.find?_accept, hfind]
          rfl
        timeout_eq := Client.timeout_accept bytes before.client
        le_now := hclock
        now_le := hintime
        progress := .inl (channel.backlog_lt hplain) }⟩

/-! ## A wait -/

/-- That a wait for a request kept to its deadline: these are the receives that it made,
and this is what it returned and left. -/
structure Timely (channel : Channel σ) (block : Address) (deadline : Nat)
    (entry : Pending.Entry) (before : Session (Timed σ)) (result : Except Fault Completion)
    (after : Session (Timed σ)) (receipts : List Receipt) : Prop where
  receipts_eq : after.channel.receipts = before.channel.receipts ++ receipts
  /-- It receives only for a request with no outcome, and only before the deadline. -/
  early : receipts ≠ [] → entry.outcome = none ∧ before.time.now < deadline
  untouched : receipts = [] → after.channel = before.channel ∧ after.time.now = before.time.now
  length_le : receipts.length ≤ channel.backlog before.channel.state + 1
  /-- Each receive is allowed the time until the deadline. -/
  allowed : ∀ receipt ∈ receipts, entry.issuedAt ≤ receipt.began ∧ receipt.began < deadline ∧
    receipt.allowed = deadline - receipt.began
  /-- And takes no more than that. -/
  ended_le : ∀ receipt ∈ receipts, receipt.ended ≤ deadline
  now_le : after.time.now ≤ max before.time.now deadline
  result_eq : result = entry.conclusion block receipts
  /-- An outcome that came is what is returned. -/
  answered : ∀ receipt ∈ receipts, ∀ outcome,
    receipt.answer? block entry.operation = some outcome → result = outcome.verdict block
  expired : result = .error (.timeout block) → deadline ≤ after.time.now

/-- A wait that receives nothing is timely. -/
theorem Timely.nil {deadline : Nat} {entry : Pending.Entry} {before after : Session (Timed σ)}
    (hchannel : after.channel = before.channel) (hnow : after.time.now = before.time.now)
    (hexpired : entry.outcome = none → deadline ≤ before.time.now) :
    Timely channel block deadline entry before (entry.conclusion block []) after [] where
  receipts_eq := by rw [hchannel, List.append_nil]
  early hne := absurd rfl hne
  untouched _ := ⟨hchannel, hnow⟩
  length_le := Nat.zero_le _
  allowed := nofun
  ended_le := nofun
  now_le := hnow ▸ Nat.le_max_left _ _
  result_eq := rfl
  answered := nofun
  expired hresult := by
    rw [hnow]
    apply hexpired
    cases houtcome : entry.outcome with
    | none => rfl
    | some outcome =>
      rw [Pending.Entry.conclusion_of_settled houtcome] at hresult
      exact absurd hresult (outcome.verdict_ne_timeout block block)

/-- A wait whose first receive fails is timely. -/
theorem Timely.broken {deadline : Nat} {entry : Pending.Entry}
    {before after : Session (Timed σ)} {receipt : Receipt} {fault : ChannelFault}
    (hopen : entry.outcome = none) (hissued : entry.issuedAt ≤ before.time.now)
    (hearly : before.time.now < deadline)
    (hreceipts : after.channel.receipts = before.channel.receipts ++ [receipt])
    (hbegan : receipt.began = before.time.now) (hended : receipt.ended = after.time.now)
    (hallowed : receipt.allowed = deadline - before.time.now)
    (hnow : after.time.now ≤ before.time.now + receipt.allowed)
    (hresult : receipt.result = .error fault) :
    Timely channel block deadline entry before (.error (.channel fault)) after [receipt] where
  receipts_eq := hreceipts
  early _ := ⟨hopen, hearly⟩
  untouched := nofun
  length_le := Nat.le_add_left _ _
  allowed := by
    rw [List.forall_mem_singleton, hbegan]
    exact ⟨hissued, hearly, hallowed⟩
  ended_le := by
    rw [List.forall_mem_singleton, hended]
    omega
  now_le := by omega
  result_eq := by simp [Pending.Entry.conclusion, hopen, Receipt.answer?, Receipt.fault?, hresult]
  answered := by
    rw [List.forall_mem_singleton, Receipt.answer?, hresult]
    exact nofun
  expired := nofun

/-- A receive that did not fail, and then a timely wait, are a timely wait. -/
theorem Timely.cons {deadline : Nat} {entry : Pending.Entry}
    {before next after : Session (Timed σ)} {receipt : Receipt} {receipts : List Receipt}
    {result : Except Fault Completion} (hopen : entry.outcome = none)
    (hissued : entry.issuedAt ≤ before.time.now) (hearly : before.time.now < deadline)
    (hallowed : receipt.allowed = deadline - before.time.now)
    (hheard : Heard channel block entry receipt before next)
    (hrest : Timely channel block deadline
      (entry.hear (receipt.answer? block entry.operation)) next result after receipts) :
    Timely channel block deadline entry before result after (receipt :: receipts) where
  receipts_eq := by
    rw [hrest.receipts_eq, hheard.receipts_eq, List.append_assoc, List.singleton_append]
  early _ := ⟨hopen, hearly⟩
  untouched := nofun
  length_le := by
    -- If the receive left the backlog as it was, it took until the deadline.
    rcases receipts with _ | ⟨second, receipts⟩
    · exact Nat.le_add_left _ _
    · have hnext := (hrest.early (List.cons_ne_nil _ _)).2
      have hlength := hrest.length_le
      rcases hheard.progress with hlt | ⟨_, hnow⟩
      · rw [List.length_cons]
        omega
      · omega
  allowed := by
    rw [List.forall_mem_cons, hheard.began_eq]
    exact ⟨⟨hissued, hearly, hallowed⟩, hrest.allowed⟩
  ended_le := by
    have hnow := hheard.now_le
    rw [List.forall_mem_cons, hheard.ended_eq]
    exact ⟨by omega, hrest.ended_le⟩
  now_le := by
    have hnow := hheard.now_le
    have hafter := hrest.now_le
    omega
  result_eq := hrest.result_eq.trans
    (entry.conclusion_cons hopen hheard.fault?_eq block receipts).symm
  answered := by
    rw [List.forall_mem_cons]
    refine ⟨fun outcome hanswer => ?_, hrest.answered⟩
    rw [hrest.result_eq]
    apply Pending.Entry.conclusion_of_settled
    rw [Pending.Entry.hear, hopen, Option.none_or, hanswer]
  expired := hrest.expired

/-- However a wait ends, its last part is timely. -/
theorem timely_of_ending (hpunctual : channel.Punctual) {last after : Session (Timed σ)}
    {result : Except Fault Completion} (hending : Ending channel.timed block last result after)
    {entry : Pending.Entry} (hfind : last.client.pending.find? block = some entry)
    (hissued : entry.issuedAt ≤ last.time.now) :
    ∃ receipts, Timely channel block (entry.issuedAt + last.client.timeout) entry last result after
      receipts := by
  cases hending with
  | @settled found outcome hfound hsettled =>
    obtain rfl := Option.some.inj (hfound.symm.trans hfind)
    rw [← found.conclusion_of_settled hsettled block []]
    exact ⟨[], .nil rfl rfl fun hopen => by rw [hsettled] at hopen; cases hopen⟩
  | absent hnone => rw [hnone] at hfind; cases hfind
  | @late found hfound hopen hlate =>
    obtain rfl := Option.some.inj (hfound.symm.trans hfind)
    have hconclusion : found.conclusion block [] = .error (.timeout block) := by
      simp [Pending.Entry.conclusion, hopen]
    rw [← hconclusion]
    exact ⟨[], .nil rfl rfl fun _ => by omega⟩
  | @broken found fault next hfound hopen hearly hpump =>
    obtain rfl := Option.some.inj (hfound.symm.trans hfind)
    have hreception := last.reception channel.timed
      (last.client.timeout - (last.time.now - found.issuedAt))
    rw [hpump] at hreception
    cases hreception with
    | @broken cause link time hreceive =>
      obtain ⟨hplain, hreceipts, _⟩ := Channel.receive_of_timed hreceive
      exact ⟨_, .broken hopen hissued (by omega) hreceipts rfl rfl (by simp only; omega)
        (hpunctual.now_le_add hplain) rfl⟩

/-- A wait is timely, whatever comes; by induction on the receives that do not fail. -/
theorem timely_of_pumped (hpunctual : channel.Punctual) {session last after : Session (Timed σ)}
    {result : Except Fault Completion} (hpumped : Pumped channel.timed block session last)
    (hending : Ending channel.timed block last result after) {entry : Pending.Entry}
    (hfind : session.client.pending.find? block = some entry)
    (hissued : entry.issuedAt ≤ session.time.now) :
    ∃ receipts, Timely channel block (entry.issuedAt + session.client.timeout) entry session
      result after receipts := by
  induction hpumped generalizing entry with
  | refl => exact timely_of_ending hpunctual hending hfind hissued
  | @head session next last found received hfound hopen hearly hpump _ ih =>
    obtain rfl := Option.some.inj (hfound.symm.trans hfind)
    obtain ⟨receipt, hallowed, hheard⟩ := heard_of_pump hpunctual hpump hfind
    -- Whatever the request heard, it keeps the date of its issue, and so its deadline.
    obtain ⟨receipts, hrest⟩ := ih hending hheard.find?_eq (Nat.le_trans hissued hheard.le_now)
    rw [hheard.timeout_eq] at hrest
    exact ⟨receipt :: receipts, .cons hopen hissued (by omega) (by omega) hheard hrest⟩

/-! ## Timeouts -/

/-- A wait times out only if nothing that came since the request was sent answers it. -/
theorem unanswered_of_timeout {session : Session (Timed (Logged σ))}
    (htold : session.client.pending.Told session.channel.state.log) {entry : Pending.Entry}
    (hfind : session.client.pending.find? block = some entry)
    (h : (session.wait channel.logged.timed block).1 = .error (.timeout block)) :
    ∃ request since,
      Passage.latest? block (session.wait channel.logged.timed block).2.channel.state.log =
        some (request, since) ∧
      request.operation = entry.operation ∧
      ∀ frame ∈ since, frame.answer? block request.operation = none := by
  obtain ⟨last, hpumped, hending⟩ := session.wait_ends channel.logged.timed block
  have hlast : last.client.pending.Told last.channel.state.log := told_kept.pumped hpumped htold
  rw [h] at hending
  generalize (session.wait channel.logged.timed block).2 = after at hending ⊢
  generalize hresult : (Except.error (.timeout block) : Except Fault Completion) = result at hending
  cases hending with
  | @settled found outcome => exact absurd hresult.symm (outcome.verdict_ne_timeout block block)
  | absent => cases hresult
  | @late found hfound hopen =>
    obtain ⟨request, since, hlatest, hoperation, houtcome⟩ := hlast block found hfound
    obtain ⟨_, hsame, hkept⟩ := exists_of_pumped hfind hpumped
    obtain rfl := Option.some.inj (hfound.symm.trans hsame)
    refine ⟨request, since, hlatest, hoperation.symm.trans hkept, ?_⟩
    -- The log tells that it has no outcome: so none of the frames carried one.
    rw [hopen] at houtcome
    exact List.findSome?_eq_none_iff.mp houtcome.symm
  | @broken found fault next hfound hopen hearly hpump =>
    obtain ⟨cause, rfl, _⟩ := pump_of_error hpump
    cases hresult

/-- A wait ends by the deadline of its request.  Let a client get into any state over a
punctual channel, and wait for a request that is in flight.  There is one receive at most
for each item that is yet to come, and one more.  Each is begun before the deadline, is
allowed just the time that is left until then, and is over by then; so the wait is over by
then, or at once if it begins later.

It returns the outcome that was there or was the first to come, also if that came at the
deadline itself or was there before a wait that begins past it; the fault that a receive
met with; or, if there is neither, a timeout.  For a request with an outcome, or past the
deadline, the channel is not touched.  A timeout means that no frame since the request
was sent answers it, and comes at the deadline, or at once if the wait begins past it. -/
theorem wait_by_deadline (hpunctual : channel.Punctual) {session : Session (Timed (Logged σ))}
    (hreachable : Reachable channel.logged.timed session) {entry : Pending.Entry}
    (hfind : session.client.pending.find? block = some entry) :
    let deadline := entry.issuedAt + session.client.timeout
    let waited := session.wait channel.logged.timed block
    ∃ receipts,
      waited.2.channel.receipts = session.channel.receipts ++ receipts ∧
      receipts.length ≤ channel.backlog session.channel.state.state + 1 ∧
      (∀ receipt ∈ receipts,
        entry.issuedAt ≤ receipt.began ∧ receipt.began < deadline ∧
        receipt.allowed = deadline - receipt.began ∧ receipt.ended ≤ deadline) ∧
      waited.2.time.now ≤ max session.time.now deadline ∧
      waited.1 = entry.conclusion block receipts ∧
      (∀ outcome,
        (entry.outcome = some outcome ∨
          ∃ receipt ∈ receipts, receipt.answer? block entry.operation = some outcome) →
        waited.1 = outcome.verdict block) ∧
      (entry.outcome ≠ none ∨ deadline ≤ session.time.now →
        waited.2.channel = session.channel ∧ waited.2.time.now = session.time.now) ∧
      (waited.1 = .error (.timeout block) →
        waited.2.time.now = max session.time.now deadline ∧
        ∃ request since,
          Passage.latest? block waited.2.channel.state.log = some (request, since) ∧
          request.operation = entry.operation ∧
          ∀ frame ∈ since, frame.answer? block request.operation = none) := by
  intro deadline waited
  have hissued : entry.issuedAt ≤ session.time.now :=
    (hreachable.dated hpunctual.logged.toSteady block entry hfind).1
  obtain ⟨last, hpumped, hending⟩ := session.wait_ends channel.logged.timed block
  -- Timely over any channel, so also over one that is logged.
  obtain ⟨receipts, htimely⟩ := timely_of_pumped hpunctual.logged hpumped hending hfind hissued
  have hidle (h : entry.outcome ≠ none ∨ deadline ≤ session.time.now) : receipts = [] := by
    by_contra hne
    obtain ⟨hopen, hearly⟩ := htimely.early hne
    exact h.elim (absurd hopen) (Nat.not_le.mpr hearly)
  refine ⟨receipts, htimely.receipts_eq, htimely.length_le, ?_, htimely.now_le,
    htimely.result_eq, ?_, fun h => htimely.untouched (hidle h), fun htimeout => ⟨?_, ?_⟩⟩
  · intro receipt hmem
    obtain ⟨hsince, hearly, hallowed⟩ := htimely.allowed receipt hmem
    exact ⟨hsince, hearly, hallowed, htimely.ended_le receipt hmem⟩
  · rintro outcome (hparked | ⟨receipt, hmem, hanswer⟩)
    · exact htimely.result_eq.trans (entry.conclusion_of_settled hparked block receipts)
    · exact htimely.answered receipt hmem outcome hanswer
  · have hexpired : deadline ≤ waited.2.time.now := htimely.expired htimeout
    have hnow : waited.2.time.now ≤ max session.time.now deadline := htimely.now_le
    rcases Nat.lt_or_ge session.time.now deadline with hearly | hlate
    · omega
    · have hsame := (htimely.untouched (hidle (.inr hlate))).2
      exact hsame.trans (Nat.max_eq_left hlate).symm
  · exact unanswered_of_timeout hreachable.told_of_timed hfind htimeout

/-- A fresh session to which this will come over a channel that is logged and timed. -/
def awaiting (inbound : List Scheduled) : Session (Timed (Logged Replay)) where
  client := .ofConfig {}
  channel := { state := { state := { inbound } } }
  time := {}

/-- Block 1 is written.  Its result counts although it is there a minute before it is
waited for, and also if it comes at the deadline, after a result for block 5. -/
theorem wait_by_deadline_of_late_result :
    let parked := (awaiting [⟨.frame [4, 1, 0, 0, 0, 0, 0, 0, 0], 0⟩]).after
      Replay.channel.logged.timed [.submitWrite 1 (.fill 1), .pump 0, .sleep 60000000]
    let last := (awaiting [⟨.frame [4, 5, 0, 0, 0, 0, 0, 0, 0], 2000000⟩,
        ⟨.frame [4, 1, 0, 0, 0, 0, 0, 0, 0], 3000000⟩]).after
      Replay.channel.logged.timed [.submitWrite 1 (.fill 1)]
    let deadline := 5000000
    Replay.channel.Punctual ∧
    (Reachable Replay.channel.logged.timed parked ∧
      parked.client.pending.find? 1 = some ⟨.write, 0, some .written⟩ ∧
      0 + parked.client.timeout = deadline ∧ deadline < parked.time.now ∧
      (parked.wait Replay.channel.logged.timed 1).1 = .ok .written ∧
      (parked.wait Replay.channel.logged.timed 1).2.channel = parked.channel) ∧
    Reachable Replay.channel.logged.timed last ∧
      last.client.pending.find? 1 = some ⟨.write, 0, none⟩ ∧
      0 + last.client.timeout = deadline ∧
      (last.wait Replay.channel.logged.timed 1).1 = .ok .written ∧
      (last.wait Replay.channel.logged.timed 1).2.time.now = deadline := by
  intro parked last deadline
  have hparked : Reachable Replay.channel.logged.timed parked := ⟨{}, _, {}, _, rfl⟩
  have hsettled : parked.client.pending.find? 1 = some ⟨.write, 0, some .written⟩ := by
    decide +kernel
  obtain ⟨_, _, _, _, _, _, hanswered, huntouched, _⟩ :=
    wait_by_deadline Replay.punctual hparked hsettled
  have hlast : Reachable Replay.channel.logged.timed last := ⟨{}, _, {}, _, rfl⟩
  have hopen : last.client.pending.find? 1 = some ⟨.write, 0, none⟩ := by decide +kernel
  -- The wait makes two receives, one at the start and one after two seconds.
  let next := (last.pump Replay.channel.logged.timed 5000000).2
  have hstill : next.client.pending.find? 1 = some ⟨.write, 0, none⟩ := by decide +kernel
  have hleft : next.client.timeout - (next.time.now - 0) = 3000000 := by decide +kernel
  have hcame : (next.pump Replay.channel.logged.timed 3000000).2.client.pending.find? 1 =
      some ⟨.write, 0, some .written⟩ := by decide +kernel
  have hreceived : (next.pump Replay.channel.logged.timed 3000000).1 = .ok true := by
    decide +kernel
  have hfirst : last.wait Replay.channel.logged.timed 1 =
      next.wait Replay.channel.logged.timed 1 :=
    wait_of_received hopen rfl (by decide +kernel) rfl
  have hsecond : next.wait Replay.channel.logged.timed 1 =
      (next.pump Replay.channel.logged.timed 3000000).2.wait Replay.channel.logged.timed 1 :=
    wait_of_received hstill rfl (by decide +kernel) (by rw [hleft]; exact Prod.ext hreceived rfl)
  have hwaited := hfirst.trans hsecond
  rw [wait_of_settled hcame rfl] at hwaited
  refine ⟨Replay.punctual, ⟨hparked, hsettled, by decide +kernel, by decide +kernel,
    hanswered .written (.inl rfl), (huntouched (.inl nofun)).1⟩, hlast, hopen, by decide +kernel,
    ?_, ?_⟩
  · rw [hwaited]
    rfl
  · rw [hwaited]
    decide +kernel

end Session
end BlockBridge

import BlockBridge.Proofs.Session.Agreement
import BlockBridge.Proofs.Session.Deadline

/-!
# A wait settles its own request and disturbs no other

While a wait receives, whatever comes is taken in, and every request in flight hears what
it carries for it, the one that is waited for like the others.  Nothing is sent.  When the
wait ends, in whichever way, it forgets its own request; the others stay, as they were or
with the first outcome that came for them.

A receive that fails changes no request.  So a fault of the channel costs the wait its own
request, and takes nothing from those that nobody waited for.

Main statement: `Session.wait_disturbs_no_other`.
-/

namespace BlockBridge

/-! ## What a request hears from receives -/

namespace Pending.Entry

/-- The request once it has heard what these receives brought for it. -/
def overhear (block : Address) (receipts : List Receipt) (entry : Entry) : Entry :=
  entry.hear (receipts.findSome? (Receipt.answer? block entry.operation))

@[simp]
theorem overhear_nil (block : Address) (entry : Entry) : entry.overhear block [] = entry :=
  entry.hear_none

/-- A receive that brings no frame changes no request. -/
theorem overhear_of_silent {receipt : Receipt}
    (h : ∀ frame, receipt.result ≠ .ok (some frame)) (block : Address) :
    overhear block [receipt] = id := by
  funext entry
  have hnone : receipt.answer? block entry.operation = none := by
    unfold Receipt.answer?
    split
    · exact absurd ‹_› (h _)
    · rfl
    · rfl
  rw [overhear, List.findSome?_singleton, hnone, hear_none]
  rfl

theorem overhear_overhear (block : Address) (earlier later : List Receipt) (entry : Entry) :
    (entry.overhear block earlier).overhear block later =
      entry.overhear block (earlier ++ later) := by
  simp only [overhear, hear, List.findSome?_append, Option.or_assoc]

theorem outcome_overhear_of_settled {entry : Entry} {outcome : Completion}
    (h : entry.outcome = some outcome) (block : Address) (receipts : List Receipt) :
    (entry.overhear block receipts).outcome = some outcome := by
  rw [overhear, hear_of_settled h, h]

theorem outcome_overhear_of_open {entry : Entry} (h : entry.outcome = none) (block : Address)
    (receipts : List Receipt) :
    (entry.overhear block receipts).outcome =
      receipts.findSome? (Receipt.answer? block entry.operation) := by
  rw [overhear, hear, h, Option.none_or]

end Pending.Entry

namespace Session

variable {σ : Type} {channel : Channel σ} {block : Address}

/-! ## Receives -/

/-- That between two moments these receives were made and nothing was sent, and that each
request heard what they brought for it. -/
structure Overheard (receipts : List Receipt) (before after : Session (Timed σ)) : Prop where
  receipts_eq : after.channel.receipts = before.channel.receipts ++ receipts
  sendings_eq : after.channel.sendings = before.channel.sendings
  find?_eq : ∀ block, after.client.pending.find? block =
    (before.client.pending.find? block).map (Pending.Entry.overhear block receipts)

theorem Overheard.refl (session : Session (Timed σ)) : Overheard [] session session where
  receipts_eq := (List.append_nil _).symm
  sendings_eq := rfl
  find?_eq block := by
    have hsame : Pending.Entry.overhear block [] = id :=
      funext (Pending.Entry.overhear_nil block)
    rw [hsame, Option.map_id]
    rfl

theorem Overheard.trans {earlier later : List Receipt} {before next after : Session (Timed σ)}
    (h : Overheard earlier before next) (h' : Overheard later next after) :
    Overheard (earlier ++ later) before after where
  receipts_eq := by rw [h'.receipts_eq, h.receipts_eq, List.append_assoc]
  sendings_eq := h'.sendings_eq.trans h.sendings_eq
  find?_eq block := by
    rw [h'.find?_eq, h.find?_eq, Option.map_map]
    congr 1
    funext entry
    exact entry.overhear_overhear block earlier later

/-- A receive is overheard by all, also one that fails. -/
theorem overheard_pump (channel : Channel σ) (timeout : Nat) (session : Session (Timed σ)) :
    ∃ receipt, Overheard [receipt] session (session.pump channel.timed timeout).2 := by
  have hreception := session.reception channel.timed timeout
  generalize session.pump channel.timed timeout = pumped at hreception ⊢
  rcases pumped with ⟨result, after⟩
  simp only at hreception ⊢
  cases hreception with
  | @broken fault link time hreceive =>
    obtain ⟨_, hreceipts, hsendings⟩ := Channel.receive_of_timed hreceive
    refine ⟨_, hreceipts, hsendings, fun block => ?_⟩
    rw [Pending.Entry.overhear_of_silent, Option.map_id]
    · rfl
    · exact nofun
  | @idle link time hreceive =>
    obtain ⟨_, hreceipts, hsendings⟩ := Channel.receive_of_timed hreceive
    refine ⟨_, hreceipts, hsendings, fun block => ?_⟩
    rw [Pending.Entry.overhear_of_silent, Option.map_id]
    · rfl
    · exact nofun
  | @frame bytes link time notes hreceive =>
    obtain ⟨_, hreceipts, hsendings⟩ := Channel.receive_of_timed hreceive
    refine ⟨_, hreceipts, hsendings, fun block => ?_⟩
    show (session.client.accept bytes).1.pending.find? block = _
    rw [Client.pending_accept, Pending.Table.find?_accept]
    congr 1
    funext entry
    rw [Pending.Entry.overhear, List.findSome?_singleton]
    rfl

/-- So are all receives that a wait makes before its end, by induction on them. -/
theorem overheard_pumped {session last : Session (Timed σ)}
    (hpumped : Pumped channel.timed block session last) :
    ∃ receipts, Overheard receipts session last := by
  induction hpumped with
  | refl session => exact ⟨[], .refl session⟩
  | @head session next last entry received hfind hopen hearly hpump _ ih =>
    obtain ⟨receipt, hfirst⟩ := session.overheard_pump channel
      (session.client.timeout - (session.time.now - entry.issuedAt))
    rw [hpump] at hfirst
    obtain ⟨receipts, hrest⟩ := ih
    exact ⟨receipt :: receipts, hfirst.trans hrest⟩

/-! ## The end of a wait -/

/-- What is left of the requests when a wait for a block ends after these receives. -/
structure Left (block : Address) (receipts : List Receipt)
    (before after : Session (Timed σ)) : Prop where
  receipts_eq : after.channel.receipts = before.channel.receipts ++ receipts
  sendings_eq : after.channel.sendings = before.channel.sendings
  own : after.client.pending.find? block = none
  other : ∀ other, other ≠ block → after.client.pending.find? other =
    (before.client.pending.find? other).map (Pending.Entry.overhear other receipts)

/-- A wait ends by forgetting its request. -/
theorem Overheard.left {receipts : List Receipt} {before last after : Session (Timed σ)}
    (h : Overheard receipts before last) (hchannel : after.channel = last.channel)
    (hpending : after.client.pending = last.client.pending.erase block) :
    Left block receipts before after where
  receipts_eq := hchannel ▸ h.receipts_eq
  sendings_eq := hchannel ▸ h.sendings_eq
  own := by rw [hpending, Pending.Table.find?_erase, if_pos rfl]
  other other hother := by
    rw [hpending, Pending.Table.find?_erase, if_neg hother, h.find?_eq]

/-- However a wait ends, it leaves the others' requests in the table, and not its own. -/
theorem left_of_wait (channel : Channel σ) (block : Address) (session : Session (Timed σ)) :
    ∃ receipts, Left block receipts session (session.wait channel.timed block).2 := by
  obtain ⟨last, hpumped, hending⟩ := session.wait_ends channel.timed block
  obtain ⟨receipts, hoverheard⟩ := overheard_pumped hpumped
  generalize session.wait channel.timed block = waited at hending ⊢
  rcases waited with ⟨result, after⟩
  simp only at hending ⊢
  cases hending with
  | settled => exact ⟨receipts, hoverheard.left rfl (Client.pending_settle _ _ _ _ _)⟩
  | absent hfind =>
    -- There is nothing to forget.
    exact ⟨receipts, hoverheard.left rfl (Pending.Table.erase_of_absent hfind).symm⟩
  | late => exact ⟨receipts, hoverheard.left rfl rfl⟩
  | @broken entry fault next hfind hopen hearly hpump =>
    obtain ⟨receipt, hlast⟩ := last.overheard_pump channel
      (last.client.timeout - (last.time.now - entry.issuedAt))
    rw [hpump] at hlast
    exact ⟨receipts ++ [receipt], (hoverheard.trans hlast).left rfl rfl⟩

/-- The ways in which a wait for a block can end, by what it returns. -/
def Concludes (block : Address) (result : Except Fault Completion) : Prop :=
  (∃ completion, result = .ok completion) ∨ (∃ code, result = .error (.storage ⟨block, code⟩)) ∨
    result = .error (.timeout block) ∨ result = .error (.request (.notPending block)) ∨
      ∃ fault, result = .error (.channel fault)

theorem concludes_wait (channel : Channel σ) (block : Address) (session : Session σ) :
    Concludes block (session.wait channel block).1 := by
  obtain ⟨last, _, hending⟩ := session.wait_ends channel block
  generalize session.wait channel block = waited at hending ⊢
  rcases waited with ⟨result, after⟩
  simp only at hending ⊢
  cases hending with
  | @settled entry outcome =>
    cases outcome with
    | read data => exact .inl ⟨.read data, rfl⟩
    | written => exact .inl ⟨.written, rfl⟩
    | failed code => exact .inr (.inl ⟨code, rfl⟩)
  | absent => exact .inr (.inr (.inr (.inl rfl)))
  | late => exact .inr (.inr (.inl rfl))
  | broken _ _ _ hpump =>
    obtain ⟨fault, rfl, _⟩ := pump_of_error hpump
    exact .inr (.inr (.inr (.inr ⟨fault, rfl⟩)))

/-- A wait that finds no request was made for a block that has none, and does nothing. -/
theorem untouched_of_notPending {session : Session σ} {about : Address}
    (h : (session.wait channel block).1 = .error (.request (.notPending about))) :
    about = block ∧ session.client.pending.find? block = none ∧
      (session.wait channel block).2 = session := by
  rcases hfind : session.client.pending.find? block with _ | entry
  · rw [wait_of_absent hfind] at h ⊢
    cases h
    exact ⟨rfl, rfl, rfl⟩
  · exact absurd h (wait_ne_notPending hfind about)

/-- A wait settles its own request and disturbs no other, whatever comes of it: success, a
failure of the storage, a timeout, no request to wait for or a fault of the channel.
Nothing is sent, and the block that is waited for has no request afterwards.  Every other
request is there as before, for the same operation and issued at the same time.  The
outcome that it had is still there; if it had none, it has the first one that the receives
of this wait brought for it, or none if there was none.  No request is new.

A wait that reports that there is no request was made for a block without one, and leaves
the session as it is: table, counters, channel and clock. -/
theorem wait_disturbs_no_other (channel : Channel σ) (session : Session (Timed σ))
    (block : Address) :
    let waited := session.wait channel.timed block
    Concludes block waited.1 ∧
    (∃ receipts,
      waited.2.channel.receipts = session.channel.receipts ++ receipts ∧
      waited.2.channel.sendings = session.channel.sendings ∧
      waited.2.client.pending.find? block = none ∧
      ∀ other, other ≠ block →
        (session.client.pending.find? other = none →
          waited.2.client.pending.find? other = none) ∧
        ∀ entry, session.client.pending.find? other = some entry →
          ∃ left, waited.2.client.pending.find? other = some left ∧
            left.operation = entry.operation ∧ left.issuedAt = entry.issuedAt ∧
            (∀ outcome, entry.outcome = some outcome → left.outcome = some outcome) ∧
            (entry.outcome = none → left.outcome =
              receipts.findSome? (Receipt.answer? other entry.operation))) ∧
    ∀ about, waited.1 = .error (.request (.notPending about)) →
      about = block ∧ session.client.pending.find? block = none ∧ waited.2 = session := by
  intro waited
  obtain ⟨receipts, hleft⟩ := session.left_of_wait channel block
  refine ⟨session.concludes_wait channel.timed block,
    ⟨receipts, hleft.receipts_eq, hleft.sendings_eq, hleft.own, ?_⟩,
    fun about => untouched_of_notPending⟩
  intro other hother
  have hfound : waited.2.client.pending.find? other =
      (session.client.pending.find? other).map (Pending.Entry.overhear other receipts) :=
    hleft.other other hother
  refine ⟨fun hnone => ?_, fun entry hfind => ?_⟩
  · rw [hfound, hnone]
    rfl
  · rw [hfind] at hfound
    exact ⟨entry.overhear other receipts, hfound, rfl, rfl,
      fun outcome hsettled => Pending.Entry.outcome_overhear_of_settled hsettled other receipts,
      fun hopen => Pending.Entry.outcome_overhear_of_open hopen other receipts⟩

end Session
end BlockBridge

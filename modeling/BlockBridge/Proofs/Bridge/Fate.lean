import BlockBridge.Proofs.Bridge.Moves

/-!
# The fate of a request

What settles a request is a result of its block and operation that comes while
it waits.  The exchanges that can give one are known when it is submitted, those
that suit it and are on their way and then its own, and no moves of a run add to
them unless its block is asked about again (`Bridge.Fate.moves`).
-/

namespace BlockBridge

/-- Whether the result of an exchange would be taken for that of a request. -/
def Exchange.suits (request : Request) (exchange : Exchange) : Bool :=
  exchange.request.block = request.block ∧ exchange.request.operation = request.operation

/-- Whether a frame is about a block and an operation. -/
def Bytes.isAbout (block : Address) (operation : Operation) (frame : Bytes) : Bool :=
  match Message.decode frame with
  | .ok message => message.block = block ∧ message.operation = operation
  | .error _ => false

/-- Whether a frame about a block and an operation is on its way in either direction. -/
def Loopback.carries (block : Address) (operation : Operation) (link : Loopback) : Bool :=
  (link.toHl ++ link.toRt).any (Bytes.isAbout block operation)

theorem Exchange.suits_iff {request : Request} {exchange : Exchange} :
    exchange.suits request = true ↔
      exchange.request.block = request.block ∧
        exchange.request.operation = request.operation := by
  simp [Exchange.suits]

/-! ## What is on its way, in frames -/

theorem Exchange.ReportedBy.isAbout {exchange : Exchange} {frame : Bytes}
    (h : exchange.ReportedBy frame) (request : Request) :
    frame.isAbout request.block request.operation = exchange.suits request := by
  obtain ⟨message, hdecode, hblock, houtcome⟩ := h
  rw [Bytes.isAbout, hdecode, Exchange.suits, ← hblock, ← Message.operation_of_outcome? houtcome]

theorem Exchange.any_suits_of_reportedBy {exchanges : List Exchange} {frames : List Bytes}
    (h : List.Forall₂ Exchange.ReportedBy exchanges frames) (request : Request) :
    frames.any (Bytes.isAbout request.block request.operation) =
      exchanges.any (Exchange.suits request) := by
  induction h with
  | nil => rfl
  | cons hframe _ ih => rw [List.any_cons, List.any_cons, hframe.isAbout, ih]

theorem Request.any_suits_transcript {δ ε : Type} (kind : Device δ ε) (request : Request)
    (number : Nat) (requests : List Request) (device : δ) :
    (Request.transcript kind number requests device).any (Exchange.suits request) =
      (requests.map fun other => other.message.encode).any
        (Bytes.isAbout request.block request.operation) := by
  induction requests generalizing number device with
  | nil => rfl
  | cons other rest ih =>
    rw [Request.transcript, List.any_cons, ih, List.map_cons, List.any_cons]
    congr 1
    rw [Bytes.isAbout, Message.decode_encode, Exchange.suits]
    simp only [Request.block_message, Request.operation_message]

namespace Attended.Carries

variable {δ ε : Type} {kind : Device δ ε} {start : δ} {traffic : Traffic}
  {attended : Attended δ}

/-- The frames say which blocks and operations are on their way. -/
theorem carries_eq (h : Carries kind start traffic attended) (request : Request) :
    attended.link.carries request.block request.operation =
      (traffic.onTheWay kind start).any (Exchange.suits request) := by
  rw [Loopback.carries, List.any_append, Exchange.any_suits_of_reportedBy h.replied,
    Traffic.onTheWay, List.any_append, Request.any_suits_transcript, h.waiting]

/-- Everything on its way is an exchange of the requests that were sent. -/
theorem onTheWay_sublist (h : Carries kind start traffic attended) :
    (traffic.onTheWay kind start).Sublist
      (Request.transcript kind 0 traffic.requests start) := by
  rw [Traffic.requests, Request.transcript_append, Nat.zero_add]
  exact h.known.append (List.Sublist.refl _)

end Attended.Carries

/-! ## Candidates -/

namespace Traffic

variable {δ ε : Type} (kind : Device δ ε) (start : δ)

/-- The exchanges that could settle a request submitted now, in the order of
their replies: what suits it on the way, and then its own. -/
def candidates (traffic : Traffic) (request : Request) : List Exchange :=
  (traffic.onTheWay kind start).filter (Exchange.suits request) ++
    [traffic.exchange kind start request]

theorem filter_suits_push (traffic : Traffic) (request : Request) :
    ((traffic.push request).onTheWay kind start).filter (Exchange.suits request) =
      traffic.candidates kind start request := by
  have hown : (traffic.exchange kind start request).suits request = true :=
    Exchange.suits_iff.mpr ⟨rfl, rfl⟩
  rw [Traffic.onTheWay_push, List.filter_append, List.filter_cons, if_pos hown, List.filter_nil,
    candidates]

theorem filter_suits_push_of_ne (traffic : Traffic) {request later : Request}
    (hother : later.block ≠ request.block) :
    ((traffic.push later).onTheWay kind start).filter (Exchange.suits request) =
      (traffic.onTheWay kind start).filter (Exchange.suits request) := by
  have hsuits : (traffic.exchange kind start later).suits request ≠ true := by
    rw [Ne, Exchange.suits_iff]
    exact fun hboth => hother hboth.1
  rw [Traffic.onTheWay_push, List.filter_append, List.filter_cons, if_neg hsuits,
    List.filter_nil, List.append_nil]

/-- Taking the first reply off the queue takes its exchange off those on their way. -/
theorem onTheWay_of_replied {traffic : Traffic} {exchange : Exchange} {rest : List Exchange}
    (hreplied : traffic.replied = exchange :: rest) :
    traffic.onTheWay kind start =
      exchange :: Traffic.onTheWay kind start { traffic with replied := rest } := by
  rw [Traffic.onTheWay, hreplied]
  rfl

end Traffic

namespace Bridge

variable {δ ε : Type}

/-! ## The fate of a request -/

/-- What may have become of a request since it was submitted, when `candidates`
are the exchanges that can settle it, the one that comes first at the head, and
`lost` the replies lost until then. -/
inductive Fate (kind : Device δ ε) (start : δ) (request : Request) (candidates : List Exchange)
    (lost : Nat) (view : View) : Prop where
  /-- It is not in the table any more. -/
  | gone (hfind : view.pending.find? request.block = none) : Fate kind start request candidates
      lost view
  /-- It waits, and only candidates that are still on their way can settle it. -/
  | waits {entry : Pending.Entry} (hfind : view.pending.find? request.block = some entry)
      (hawaits : entry.awaits request.operation = true)
      (hleft : ((view.traffic.onTheWay kind start).filter (Exchange.suits request)).Sublist
        candidates)
      (hall : view.lost = lost →
        (view.traffic.onTheWay kind start).filter (Exchange.suits request) = candidates) :
      Fate kind start request candidates lost view
  /-- One of the candidates has settled it. -/
  | settled {entry : Pending.Entry} {exchange : Exchange}
      (hfind : view.pending.find? request.block = some entry)
      (hsettled : entry.outcome = some exchange.ending)
      (hmem : exchange ∈ candidates)
      (hserved : exchange.number < view.traffic.served.length)
      (hfirst : view.lost = lost → candidates.head? = some exchange) :
      Fate kind start request candidates lost view

variable {kind : Device δ ε} {start : δ} {request : Request} {candidates : List Exchange}
  {lost : Nat}

/-- A request that has just been submitted. -/
theorem Fate.fresh {traffic : Traffic} {pending : Pending.Table} {entry : Pending.Entry}
    (lost : Nat) (hfind : pending.find? request.block = some entry)
    (hawaits : entry.awaits request.operation = true) :
    Fate kind start request (traffic.candidates kind start request) lost
      ⟨traffic.push request, pending, lost⟩ := by
  have hpush := Traffic.filter_suits_push kind start traffic request
  refine .waits hfind hawaits ?_ fun _ => hpush
  rw [hpush]

/-- An outcome in the table is the ending of the candidate that settled the request. -/
theorem Fate.exists_of_outcome {view : View} {entry : Pending.Entry} {ending : Completion}
    (h : Fate kind start request candidates lost view)
    (hfind : view.pending.find? request.block = some entry)
    (houtcome : entry.outcome = some ending) :
    ∃ exchange ∈ candidates, exchange.ending = ending ∧
      exchange.number < view.traffic.served.length ∧
      (view.lost = lost → candidates.head? = some exchange) := by
  cases h with
  | gone hgone => exact absurd (hgone.symm.trans hfind) nofun
  | waits hwaits hawaits =>
    rw [← Option.some.inj (hwaits.symm.trans hfind),
      (Pending.Table.awaits_iff.mp hawaits).2] at houtcome
    exact absurd houtcome nofun
  | settled hfound hsettled hmem hserved hfirst =>
    rw [← Option.some.inj (hfound.symm.trans hfind), hsettled] at houtcome
    exact ⟨_, hmem, Option.some.inj houtcome, hserved, hfirst⟩

/-- The server's turns may lose candidates, but only with a trace. -/
theorem Fate.serve {traffic after : Traffic} {pending : Pending.Table} {time time' : Timeline}
    (h : Fate kind start request candidates lost
      ⟨traffic, pending, Loopback.overflows .rt time⟩)
    (hlost : lost ≤ Loopback.overflows .rt time)
    (hserves : Traffic.Serves kind start traffic after time time') :
    Fate kind start request candidates lost
      ⟨after, pending, Loopback.overflows .rt time'⟩ := by
  have hle := hserves.rt
  cases h with
  | gone hfind => exact .gone hfind
  | waits hfind hawaits hleft hall =>
    refine .waits hfind hawaits ((hserves.onTheWay.filter _).trans hleft) ?_
    intro hsame
    simp only at hsame hall ⊢
    rw [hserves.lossless (by omega)]
    exact hall (by omega)
  | settled hfind hsettled hmem hserved hfirst =>
    refine .settled hfind hsettled hmem (Nat.lt_of_lt_of_le hserved hserves.served) ?_
    intro hsame
    simp only at hsame hfirst
    exact hfirst (by omega)

/-- A reply that settles a request which waits is one of its candidates, and of
those left the first. -/
theorem Fate.settle {traffic : Traffic} {pending : Pending.Table} {lost' : Nat}
    {exchange : Exchange} {rest : List Exchange} {entry : Pending.Entry}
    (h : Fate kind start request candidates lost ⟨traffic, pending, lost'⟩)
    (hreplied : traffic.replied = exchange :: rest)
    (hnumber : exchange.number < traffic.served.length)
    (hentry : pending.find? exchange.request.block = some entry)
    (hawaits' : entry.awaits exchange.request.operation = true) :
    Fate kind start request candidates lost
      ⟨{ traffic with replied := rest },
        pending.settle exchange.request.block exchange.ending, lost'⟩ := by
  have hsettle := Pending.Table.find?_settle pending exchange.request.block request.block
    exchange.ending
  have hway : traffic.onTheWay kind start = exchange :: _ :=
      Traffic.onTheWay_of_replied kind start hreplied
  obtain ⟨hoperation', hopen⟩ := Pending.Table.awaits_iff.mp hawaits'
  cases h with
  | gone hfind =>
    apply Fate.gone
    simp only at hfind ⊢
    rw [hsettle, hfind]
    rfl
  | @waits waiting hfind hawaits hleft hall =>
    simp only at hfind hleft hall
    rw [hway, List.filter_cons] at hleft hall
    by_cases hblock : request.block = exchange.request.block
    · -- One entry waits for both, so the exchange suits the request.
      rw [← hblock, hfind] at hentry
      obtain rfl : waiting = entry := Option.some.inj hentry
      have hsuits : exchange.suits request = true := by
        rw [Exchange.suits_iff]
        exact ⟨hblock.symm, hoperation'.symm.trans (Pending.Table.awaits_iff.mp hawaits).1⟩
      rw [if_pos hsuits] at hleft hall
      have hfound : (pending.settle exchange.request.block exchange.ending).find? request.block =
          some { waiting with outcome := some exchange.ending } := by
        rw [hsettle, hfind, Option.map_some, if_pos hblock]
      refine .settled hfound rfl (hleft.subset List.mem_cons_self) hnumber ?_
      intro hsame
      rw [← hall hsame]
      rfl
    · have hsuits : exchange.suits request ≠ true := by
        rw [Ne, Exchange.suits_iff]
        exact fun hboth => hblock hboth.1.symm
      rw [if_neg hsuits] at hleft hall
      refine .waits ?_ hawaits hleft hall
      simp only
      rw [hsettle, hfind, Option.map_some, if_neg hblock]
  | @settled found known hfind hsettled hmem hserved hfirst =>
    -- A settled entry waits no more, so the reply is about another block.
    have hblock : request.block ≠ exchange.request.block := by
      intro hblock
      rw [← hblock, hfind] at hentry
      rw [← Option.some.inj hentry, hsettled] at hopen
      exact absurd hopen nofun
    refine .settled ?_ hsettled hmem hserved hfirst
    simp only at hfind ⊢
    rw [hsettle, hfind, Option.map_some, if_neg hblock]

/-- A stale reply is no candidate of a request that waits. -/
theorem Fate.discard {traffic : Traffic} {pending : Pending.Table} {lost' : Nat}
    {exchange : Exchange} {rest : List Exchange}
    (h : Fate kind start request candidates lost ⟨traffic, pending, lost'⟩)
    (hreplied : traffic.replied = exchange :: rest)
    (hdeaf : ∀ entry, pending.find? exchange.request.block = some entry →
      entry.awaits exchange.request.operation = false) :
    Fate kind start request candidates lost
      ⟨{ traffic with replied := rest }, pending, lost'⟩ := by
  cases h with
  | gone hfind => exact .gone hfind
  | @waits entry hfind hawaits hleft hall =>
    have hsuits : exchange.suits request ≠ true := by
      rw [Ne, Exchange.suits_iff]
      rintro ⟨hblock, hoperation⟩
      simp only at hfind
      rw [← hblock] at hfind
      rw [← hoperation, hdeaf entry hfind] at hawaits
      exact absurd hawaits Bool.false_ne_true
    have hway : traffic.onTheWay kind start = exchange :: _ :=
      Traffic.onTheWay_of_replied kind start hreplied
    simp only at hleft hall
    rw [hway, List.filter_cons, if_neg hsuits] at hleft hall
    exact .waits hfind hawaits hleft hall
  | settled hfind hsettled hmem hserved hfirst =>
    exact .settled hfind hsettled hmem hserved hfirst

/-- A request for another block adds no candidate. -/
theorem Fate.accept {traffic : Traffic} {pending pending' : Pending.Table} {lost' now : Nat}
    {later : Request} (h : Fate kind start request candidates lost ⟨traffic, pending, lost'⟩)
    (hregister : pending.register later.block later.operation now = .ok pending')
    (hother : later.block ≠ request.block) :
    Fate kind start request candidates lost ⟨traffic.push later, pending', lost'⟩ := by
  have hfind' : pending'.find? request.block = pending.find? request.block := by
    rw [Pending.Table.find?_of_register hregister, if_neg (Ne.symm hother)]
  cases h with
  | gone hfind => exact .gone (hfind'.trans hfind)
  | waits hfind hawaits hleft hall =>
    have hway := Traffic.filter_suits_push_of_ne kind start traffic hother
    refine .waits (hfind'.trans hfind) hawaits ?_ ?_
    · rw [hway]
      exact hleft
    · rw [hway]
      exact hall
  | settled hfind hsettled hmem hserved hfirst =>
    exact .settled (hfind'.trans hfind) hsettled hmem hserved hfirst

/-- A request is forgotten, or keeps its fate when another is. -/
theorem Fate.forget {traffic : Traffic} {pending : Pending.Table} {lost' : Nat}
    (h : Fate kind start request candidates lost ⟨traffic, pending, lost'⟩) (block : Address) :
    Fate kind start request candidates lost ⟨traffic, pending.erase block, lost'⟩ := by
  have herase := Pending.Table.find?_erase pending block request.block
  by_cases hblock : request.block = block
  · apply Fate.gone
    rw [herase, if_pos hblock]
  · rw [if_neg hblock] at herase
    cases h with
    | gone hfind => exact .gone (herase.trans hfind)
    | waits hfind hawaits hleft hall => exact .waits (herase.trans hfind) hawaits hleft hall
    | settled hfind hsettled hmem hserved hfirst =>
      exact .settled (herase.trans hfind) hsettled hmem hserved hfirst

/-- No moves take a request to any other fate, unless its block is asked about again. -/
theorem Fate.moves {more : List Request} {before after : View}
    (hmoves : Moves kind start more before after)
    (hother : ∀ later ∈ more, later.block ≠ request.block)
    (hlost : lost ≤ before.lost) (h : Fate kind start request candidates lost before) :
    Fate kind start request candidates lost after ∧ lost ≤ after.lost := by
  induction hmoves with
  | refl => exact ⟨h, hlost⟩
  | tail _ hmove ih =>
    obtain ⟨hfate, hle⟩ := ih
      (fun later hmem => hother later (List.mem_append_left _ hmem)) hlost h
    have hlast := fun later hmem => hother later (List.mem_append_right _ hmem)
    cases hmove with
    | serve _ hserves => exact ⟨hfate.serve hle hserves, Nat.le_trans hle hserves.rt⟩
    | settle hreplied hserved hfind hawaits =>
      exact ⟨hfate.settle hreplied hserved hfind hawaits, hle⟩
    | discard hreplied hdeaf => exact ⟨hfate.discard hreplied hdeaf, hle⟩
    | accept hregister =>
      exact ⟨hfate.accept hregister (hlast _ (List.mem_singleton.mpr rfl)), hle⟩
    | forget block => exact ⟨hfate.forget block, hle⟩

end Bridge
end BlockBridge

import BlockBridge.Proofs.Bridge.Fate
import BlockBridge.Proofs.Device.RamDisk

/-!
# Late results

A result says which block it is about and which operation, and nothing about
which request it answers.  Once a request has been abandoned, its result is
still on its way; when the block is asked about again in the same manner, the
late result settles the new request as if it were its own.

Here is when that happens.  If nothing of the same block and operation is on its
way when a request is submitted, its wait returns the request's own outcome,
whatever is abandoned before and after.  If there is, and no reply is lost, the
wait returns the outcome of the earlier request.

Main statements: where what a wait returns comes from (`Bridge.Errand.exists_origin`)
and the condition for it to be the request's own outcome
(`Bridge.outcome_of_errand`).
-/

namespace BlockBridge
namespace Bridge

variable {δ ε : Type} {kind : Device δ ε} {start : δ}

/-! ## Errands -/

/-- A request in the course of a run: what is done before it is submitted, what
is done from then until it is waited for, and the server's turns in that wait. -/
structure Errand where
  before : List Action
  request : Request
  during : List Action
  turns : List Nat

namespace Errand

/-- The run up to the submission. -/
def reached (kind : Device δ ε) (bridge : Bridge δ) (errand : Errand) : History × Bridge δ :=
  play kind errand.before bridge

/-- The submission. -/
def sent (kind : Device δ ε) (bridge : Bridge δ) (errand : Errand) : Session.Answer × Bridge δ :=
  act kind (.submit errand.request) (errand.reached kind bridge).2

/-- The run from the submission to the wait. -/
def ready (kind : Device δ ε) (bridge : Bridge δ) (errand : Errand) : History × Bridge δ :=
  play kind errand.during (errand.sent kind bridge).2

/-- The wait. -/
def waited (kind : Device δ ε) (bridge : Bridge δ) (errand : Errand) :
    Session.Answer × Bridge δ :=
  act kind (.wait errand.request.block errand.turns) (errand.ready kind bridge).2

/-- The wait for the request, and for no later one, returns an ending. -/
structure Ends (kind : Device δ ε) (bridge : Bridge δ) (errand : Errand) (ending : Completion) :
    Prop where
  submitted : (errand.sent kind bridge).1 = .done (.ok ())
  alone : ∀ later ∈ accepted (errand.ready kind bridge).1, later.block ≠ errand.request.block
  returned : (errand.waited kind bridge).1 = .completion (ending.verdict errand.request.block)

/-- When the request is submitted, nothing of its block and operation is on its way. -/
def Clear (kind : Device δ ε) (bridge : Bridge δ) (errand : Errand) : Prop :=
  (errand.reached kind bridge).2.link.carries errand.request.block errand.request.operation = false

/-- No reply is lost from the submission to the end of the wait. -/
def Lossless (kind : Device δ ε) (bridge : Bridge δ) (errand : Errand) : Prop :=
  Loopback.overflows .rt (errand.waited kind bridge).2.time =
    Loopback.overflows .rt (errand.reached kind bridge).2.time

/-- The frames on their way tell whether an errand is clear. -/
theorem clear_iff {bridge : Bridge δ} {traffic : Traffic} {errand : Errand}
    (h : Attended.Carries kind start traffic (errand.reached kind bridge).2.channel) :
    errand.Clear kind bridge ↔
      (traffic.onTheWay kind start).filter (Exchange.suits errand.request) = [] := by
  have hany : (errand.reached kind bridge).2.link.carries errand.request.block
      errand.request.operation = _ := h.carries_eq errand.request
  rw [Clear, hany, List.any_eq_false, List.filter_eq_nil_iff]

/-! ## Where an ending comes from -/

/-- An accepted submission leaves the request waiting for what could settle it. -/
theorem fate_sent {bridge : Bridge δ} {traffic : Traffic} {errand : Errand}
    (h : Attended.Carries kind start traffic (errand.reached kind bridge).2.channel)
    (haccepted : (errand.sent kind bridge).1 = .done (.ok ())) :
    Attended.Carries kind start (traffic.push errand.request)
        (errand.sent kind bridge).2.channel ∧
      Loopback.overflows .rt (errand.sent kind bridge).2.time =
        Loopback.overflows .rt (errand.reached kind bridge).2.time ∧
      Fate kind start errand.request (traffic.candidates kind start errand.request)
        (Loopback.overflows .rt (errand.reached kind bridge).2.time)
        (view (traffic.push errand.request) (errand.sent kind bridge).2) := by
  obtain ⟨result, next, hsubmit, pushed, hpushed, _, hfresh⟩ := submit_moves h errand.request
  have hsent : errand.sent kind bridge = (.done result, next) := by
    show (Bridge.submit kind errand.request (errand.reached kind bridge).2).map
      Session.Answer.done id = _
    rw [hsubmit]
    rfl
  rw [hsent] at haccepted ⊢
  obtain rfl : result = .ok () := Session.Answer.done.inj haccepted
  obtain ⟨rfl, hfind, hlost⟩ := hfresh rfl
  refine ⟨hpushed, hlost, ?_⟩
  rw [view, hlost]
  exact .fresh _ hfind (Pending.Table.awaits_iff.mpr ⟨rfl, rfl⟩)

/-- What a wait returns is in the table when it ends, and the request's fate until
then allows it. -/
theorem fate_waited {bridge : Bridge δ} {traffic : Traffic} {errand : Errand}
    {candidates : List Exchange} {lost : Nat} {ending : Completion}
    (h : Attended.Carries kind start traffic (errand.sent kind bridge).2.channel)
    (hfate : Fate kind start errand.request candidates lost
      (view traffic (errand.sent kind bridge).2))
    (hlost : lost ≤ Loopback.overflows .rt (errand.sent kind bridge).2.time)
    (halone : ∀ later ∈ accepted (errand.ready kind bridge).1,
      later.block ≠ errand.request.block)
    (hended : (errand.waited kind bridge).1 =
      .completion (ending.verdict errand.request.block)) :
    ∃ last : View, ∃ entry,
      Fate kind start errand.request candidates lost last ∧
      last.pending.find? errand.request.block = some entry ∧ entry.outcome = some ending ∧
      last.traffic.requests = traffic.requests ++ accepted (errand.ready kind bridge).1 ∧
      last.lost = Loopback.overflows .rt (errand.waited kind bridge).2.time ∧
      (errand.waited kind bridge).2.server.device =
        Request.carryOut kind last.traffic.served start := by
  obtain ⟨middle, hmiddle, hmoves⟩ := play_moves h errand.during
  obtain ⟨answer, final, after, last, hwait, hreceives, hfinal, _, hquiet, hsettled⟩ :=
    wait_moves (carries_schedule hmiddle errand.turns) errand.request.block
  have hwaited : errand.waited kind bridge = (.completion answer, final) := by
    show (((errand.ready kind bridge).2.schedule errand.turns).wait (Attended.channel kind) _).map
      Session.Answer.completion id = _
    rw [ready, hwait]
    rfl
  rw [hwaited] at hended ⊢
  obtain ⟨entry, hfind, houtcome⟩ := hsettled ending (Session.Answer.completion.inj hended)
  have hrun : Moves kind start (accepted (errand.ready kind bridge).1)
      (view traffic (errand.sent kind bridge).2) (view after last) := by
    rw [← List.append_nil (accepted _)]
    exact hmoves.trans hreceives
  obtain ⟨hlast, _⟩ := Fate.moves hrun halone hlost hfate
  exact ⟨view after last, entry, hlast, hfind, houtcome, hrun.requests_eq, hquiet.symm,
    hfinal.device⟩

/-- How an errand came to its ending: which exchange settled its request, out of
those that could when it was submitted, and what the server had done by then. -/
structure Origin (kind : Device δ ε) (start : δ) (bridge : Bridge δ) (errand : Errand)
    (ending : Completion) (traffic : Traffic) (exchange : Exchange) : Prop where
  carries : Attended.Carries kind start traffic (errand.reached kind bridge).2.channel
  requests : traffic.requests = accepted (errand.reached kind bridge).1
  ending_eq : exchange.ending = ending
  mem : exchange ∈ traffic.candidates kind start errand.request
  /-- Without losses it is the first of them. -/
  first : errand.Lossless kind bridge →
    (traffic.candidates kind start errand.request).head? = some exchange
  served : ∃ served waiting,
    accepted (errand.reached kind bridge).1 ++
      errand.request :: accepted (errand.ready kind bridge).1 = served ++ waiting ∧
    exchange.number < served.length ∧
    (errand.waited kind bridge).2.server.device = Request.carryOut kind served start

theorem exists_origin {config : Config} {device : δ} {time : Timeline} {errand : Errand}
    {ending : Completion} (h : errand.Ends kind (ofConfig config device time) ending) :
    ∃ traffic exchange,
      errand.Origin kind device (ofConfig config device time) ending traffic exchange := by
  -- Up to the submission, the submission, and from there to the end of the wait.
  obtain ⟨traffic, hcarries, hmoves⟩ :=
    play_moves (carries_ofConfig kind config device time) errand.before
  have hrequests : traffic.requests = accepted _ := hmoves.requests_eq
  obtain ⟨hsent, hquiet, hfresh⟩ := fate_sent hcarries h.submitted
  obtain ⟨last, entry, hfate, hfind, houtcome, hsubmitted, hlost, hdevice⟩ :=
    fate_waited hsent hfresh (Nat.le_of_eq hquiet.symm) h.alone h.returned
  obtain ⟨exchange, hmem, hending, hserved, hfirst⟩ := hfate.exists_of_outcome hfind houtcome
  refine ⟨traffic, exchange, hcarries, hrequests, hending, hmem, ?_, ?_⟩
  · intro hlossless
    exact hfirst (hlost.trans hlossless)
  · refine ⟨last.traffic.served, last.traffic.waiting, ?_, hserved, hdevice⟩
    show _ = last.traffic.requests
    rw [hsubmitted, Traffic.requests_push, hrequests, List.append_assoc]
    rfl

/-- When nothing of its block and operation is on its way, a request is settled by
its own result, and so the server has carried it out. -/
theorem own_of_clear {config : Config} {device : δ} {time : Timeline} {errand : Errand}
    {ending : Completion} (h : errand.Ends kind (ofConfig config device time) ending)
    (hclear : errand.Clear kind (ofConfig config device time)) :
    ending =
        (errand.request.execute kind
          (Request.carryOut kind
            (accepted (errand.reached kind (ofConfig config device time)).1) device)).1 ∧
      ∃ served waiting,
        accepted (errand.reached kind (ofConfig config device time)).1 ++
          errand.request :: accepted (errand.ready kind (ofConfig config device time)).1 =
            served ++ waiting ∧
        (accepted (errand.reached kind (ofConfig config device time)).1).length <
          served.length ∧
        (errand.waited kind (ofConfig config device time)).2.server.device =
          Request.carryOut kind served device := by
  obtain ⟨traffic, exchange, horigin⟩ := exists_origin h
  have hmem := horigin.mem
  rw [Traffic.candidates, (clear_iff horigin.carries).mp hclear, List.nil_append,
    List.mem_singleton] at hmem
  obtain ⟨served, waiting, hserved, hnumber, hdevice⟩ := horigin.served
  rw [hmem] at hnumber
  rw [← horigin.ending_eq, hmem, ← horigin.requests]
  rw [← horigin.requests] at hserved
  exact ⟨rfl, served, waiting, hserved, hnumber, hdevice⟩

/-- When something of its block and operation is on its way and no reply is lost,
a request is settled by the result of an earlier one. -/
theorem earlier_of_not_clear {config : Config} {device : δ} {time : Timeline}
    {errand : Errand} {ending : Completion}
    (h : errand.Ends kind (ofConfig config device time) ending)
    (hrival : ¬errand.Clear kind (ofConfig config device time))
    (hlossless : errand.Lossless kind (ofConfig config device time)) :
    ∃ exchange ∈ Request.transcript kind 0
        (accepted (errand.reached kind (ofConfig config device time)).1) device,
      exchange.suits errand.request = true ∧ exchange.ending = ending := by
  obtain ⟨traffic, exchange, horigin⟩ := exists_origin h
  have hfirst := horigin.first hlossless
  rw [clear_iff horigin.carries] at hrival
  obtain ⟨rival, rest, hrivals⟩ := List.exists_cons_of_ne_nil hrival
  rw [Traffic.candidates, hrivals] at hfirst
  obtain rfl : rival = exchange := Option.some.inj hfirst
  have hmem : rival ∈ (traffic.onTheWay kind device).filter (Exchange.suits errand.request) := by
    rw [hrivals]
    exact List.mem_cons_self
  obtain ⟨hway, hsuits⟩ := List.mem_filter.mp hmem
  rw [← horigin.requests]
  exact ⟨rival, horigin.carries.onTheWay_sublist.subset hway, hsuits, horigin.ending_eq⟩

/-! ## Two errands in one run -/

/-- The actions of an errand. -/
def actions (errand : Errand) : List Action :=
  errand.before ++ .submit errand.request :: errand.during ++
    [.wait errand.request.block errand.turns]

/-- What is accepted in a run that begins with an errand. -/
theorem accepted_play {bridge : Bridge δ} {errand : Errand} {ending : Completion}
    (h : errand.Ends kind bridge ending) (between : List Action) :
    accepted (play kind (errand.actions ++ between) bridge).1 =
      accepted (errand.reached kind bridge).1 ++
        errand.request :: accepted (errand.ready kind bridge).1 ++
          accepted (play kind between (errand.waited kind bridge).2).1 := by
  have hrun : (play kind (errand.actions ++ between) bridge).1 =
      (errand.reached kind bridge).1 ++
        (.submit errand.request, (errand.sent kind bridge).1) ::
          (errand.ready kind bridge).1 ++
            (.wait errand.request.block errand.turns, (errand.waited kind bridge).1) ::
              (play kind between (errand.waited kind bridge).2).1 := by
    rw [actions, List.append_assoc, List.append_assoc, play_append, List.append_assoc,
      List.cons_append, play, List.cons_append, play_append]
    rfl
  rw [hrun, accepted_append, accepted_append, h.submitted]
  rfl

/-- A wait for a result that is here returns it, and has nothing to do with the
server or the loopback. -/
theorem waited_of_settled {bridge : Bridge δ} {errand : Errand} {entry : Pending.Entry}
    {outcome : Completion}
    (hfind : (errand.ready kind bridge).2.client.pending.find? errand.request.block = some entry)
    (hsettled : entry.outcome = some outcome) :
    (errand.waited kind bridge).1 = .completion (outcome.verdict errand.request.block) ∧
      (errand.waited kind bridge).2.server = (errand.ready kind bridge).2.server ∧
      ∀ side, Loopback.overflows side (errand.waited kind bridge).2.time =
        Loopback.overflows side (errand.ready kind bridge).2.time := by
  have hwait : ((errand.ready kind bridge).2.schedule errand.turns).wait (Attended.channel kind)
      errand.request.block = _ := Session.wait_of_settled hfind hsettled
  simp only [waited, act, hwait]
  exact ⟨rfl, rfl, fun side => Loopback.overflows_note_client side _ _⟩

/-- An errand that ends: its request is accepted, no later one is, and its result
has been taken in before the wait. -/
theorem ends_of_settled {bridge : Bridge δ} {errand : Errand} {entry : Pending.Entry}
    {outcome : Completion}
    (hsubmit : (Bridge.submit kind errand.request (errand.reached kind bridge).2).1 = .ok ())
    (halone : accepted (errand.ready kind bridge).1 = [])
    (hfind : (errand.ready kind bridge).2.client.pending.find? errand.request.block = some entry)
    (hsettled : entry.outcome = some outcome) : errand.Ends kind bridge outcome where
  submitted := congrArg Session.Answer.done hsubmit
  alone := by
    rw [halone]
    exact fun _ hmem => absurd hmem List.not_mem_nil
  returned := (waited_of_settled hfind hsettled).1

end Errand

/-- Over a RAM disk: if nothing of its block and operation is on its way when a
request is submitted, the wait for it returns how the request itself ends when
the accepted requests are carried out in order, and the disk has been through
it.  If something is and no reply is lost, the wait returns how an earlier
request ended.  A write that was waited for in the first way is what the next
read returns that is waited for in the first way. -/
theorem outcome_of_errand (config : Config) (disk : RamDisk) (time : Timeline) (errand : Errand)
    (ending : Completion)
    (hends : errand.Ends RamDisk.device (ofConfig config disk time) ending) :
    let bridge := ofConfig config disk time
    let earlier := accepted (errand.reached RamDisk.device bridge).1
    (errand.Clear RamDisk.device bridge →
      ending =
          (errand.request.execute RamDisk.device
            (Request.carryOut RamDisk.device earlier disk)).1 ∧
        ∃ served waiting,
          earlier ++ errand.request :: accepted (errand.ready RamDisk.device bridge).1 =
            served ++ waiting ∧
          earlier.length < served.length ∧
          (errand.waited RamDisk.device bridge).2.server.device =
            Request.carryOut RamDisk.device served disk) ∧
    (¬errand.Clear RamDisk.device bridge → errand.Lossless RamDisk.device bridge →
      ∃ exchange ∈ Request.transcript RamDisk.device 0 earlier disk,
        exchange.suits errand.request = true ∧ exchange.ending = ending) ∧
    (∀ (later : Errand) (between : List Action) (block : Address) (data value : Block),
      errand.request = .write block data → ending = .written →
      errand.Clear RamDisk.device bridge →
      later.before = errand.actions ++ between → later.request = .read block →
      (∀ request ∈ accepted (play RamDisk.device between
        (errand.waited RamDisk.device bridge).2).1, ∀ data, request ≠ .write block data) →
      later.Ends RamDisk.device bridge (.read value) → later.Clear RamDisk.device bridge →
      value = data) := by
  intro bridge earlier
  refine ⟨?_, ?_, ?_⟩
  · intro hclear
    exact Errand.own_of_clear hends hclear
  · intro hrival hlossless
    exact Errand.earlier_of_not_clear hends hrival hlossless
  · intro later between block data value hwrite hwritten hclear hbefore hread hnone hlater hclear'
    obtain ⟨hown, _⟩ := Errand.own_of_clear hends hclear
    obtain ⟨hvalue, _⟩ := Errand.own_of_clear hlater hclear'
    have haccepted : accepted (later.reached RamDisk.device bridge).1 = earlier ++
        .write block data :: (accepted (errand.ready RamDisk.device bridge).1 ++
          accepted (play RamDisk.device between (errand.waited RamDisk.device bridge).2).1) := by
      rw [Errand.reached, hbefore, Errand.accepted_play hends, hwrite, List.append_assoc]
      rfl
    rw [hwrite, hwritten] at hown
    -- Nothing after the write touches its block.
    have hlater' : ∀ request ∈ accepted (errand.ready RamDisk.device bridge).1 ++
        accepted (play RamDisk.device between (errand.waited RamDisk.device bridge).2).1,
        ∀ data, request ≠ .write block data := by
      intro request hmem data' heq
      rcases List.mem_append.mp hmem with hduring | hbetween
      · apply hends.alone request hduring
        rw [heq, hwrite]
        rfl
      · exact hnone request hbetween data' heq
    have hkept := RamDisk.contents_carryOut hlater'
      ((Request.write block data).execute RamDisk.device
        (Request.carryOut RamDisk.device earlier disk)).2
    rw [RamDisk.contents_of_written hown.symm] at hkept
    rw [hread, haccepted, Request.carryOut_append] at hvalue
    have hfound := RamDisk.contents_of_read hvalue.symm
    exact Option.some.inj (hfound.symm.trans hkept)

/-! ## A write that was not made -/

namespace Errand

/-- A disk of eight blocks and nothing sent to it yet. -/
def fresh : Bridge RamDisk := ofConfig {} { blocks := .replicate 8 .zero } {}

/-- A write, served and taken in while nothing else is going on. -/
def plain : Errand where
  before := []
  request := .write 5 (.fill 2)
  during := [.serve 0, .pump 0 []]
  turns := []

/-- The same write after another one was cancelled with its frame on its way.
The server serves one frame only. -/
def rewrite : Errand :=
  { plain with before := [.submit (.write 5 (.fill 1)), .cancel 5] }

/-- What is in the table when the write is waited for, in either case. -/
def written : Pending.Entry := { operation := .write, issuedAt := 0, outcome := some .written }

theorem ends_plain : plain.Ends RamDisk.device fresh .written := by
  have hfind : (plain.ready RamDisk.device fresh).2.client.pending.find? plain.request.block =
      some written := by decide +kernel
  exact ends_of_settled (by decide +kernel) (by decide +kernel) hfind rfl

theorem find?_ready_rewrite :
    (rewrite.ready RamDisk.device fresh).2.client.pending.find? rewrite.request.block =
      some written := by
  decide +kernel

theorem ends_rewrite : rewrite.Ends RamDisk.device fresh .written :=
  ends_of_settled (by decide +kernel) (by decide +kernel) find?_ready_rewrite rfl

/-- The one is clear and its write is made; the other is not, and its wait returns
the ending of the write that was cancelled. -/
theorem outcomes_of_plain_and_rewrite :
    (plain.Ends RamDisk.device fresh .written ∧ plain.Clear RamDisk.device fresh ∧
      Completion.written = (plain.request.execute RamDisk.device
        (Request.carryOut RamDisk.device (accepted (plain.reached RamDisk.device fresh).1)
          { blocks := .replicate 8 .zero })).1) ∧
    rewrite.Ends RamDisk.device fresh .written ∧ ¬rewrite.Clear RamDisk.device fresh ∧
      rewrite.Lossless RamDisk.device fresh ∧
      ∃ exchange ∈ Request.transcript RamDisk.device 0
          (accepted (rewrite.reached RamDisk.device fresh).1) { blocks := .replicate 8 .zero },
        exchange.suits rewrite.request = true ∧ exchange.ending = .written := by
  have hclear : plain.Clear RamDisk.device fresh := by
    show _ = false
    decide +kernel
  have hrival : ¬rewrite.Clear RamDisk.device fresh := by
    show ¬_ = false
    decide +kernel
  have hlossless : rewrite.Lossless RamDisk.device fresh := by
    refine ((waited_of_settled find?_ready_rewrite rfl).2.2 .rt).trans ?_
    decide +kernel
  obtain ⟨hplain, _⟩ := outcome_of_errand {} { blocks := .replicate 8 .zero } {} plain .written
    ends_plain
  obtain ⟨_, hrewrite, _⟩ := outcome_of_errand {} { blocks := .replicate 8 .zero } {} rewrite
    .written ends_rewrite
  exact ⟨⟨ends_plain, hclear, (hplain hclear).1⟩, ends_rewrite, hrival, hlossless,
    hrewrite hrival hlossless⟩

/-- A wait that returns `written` does not always mean that the block holds the
data, although nothing was asked of it since. -/
theorem written_without_write :
    ¬∀ (errand : Errand) (block : Address) (data : Block),
      errand.request = .write block data → errand.Ends RamDisk.device fresh .written →
        (errand.waited RamDisk.device fresh).2.server.device.contents block = some data := by
  intro h
  have hholds := h rewrite 5 (.fill 2) rfl ends_rewrite
  rw [(waited_of_settled find?_ready_rewrite rfl).2.1] at hholds
  have hcancelled : (rewrite.ready RamDisk.device fresh).2.server.device.contents 5 =
      some (.fill 1) := by decide +kernel
  exact absurd (hcancelled.symm.trans hholds) (by decide)

end Errand
end Bridge
end BlockBridge

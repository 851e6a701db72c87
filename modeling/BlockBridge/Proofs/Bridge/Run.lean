import BlockBridge.Bridge
import BlockBridge.Proofs.Session.Call

/-!
# Runs of a bridge

A run is a list of actions of the two sides, in any order.  The server gets its
turns between the client's actions and, inside a wait, before each receive of
the wait.  What a run returned is kept in its history.  What holds after every
run also holds inside a wait (`Bridge.exists_play_of_pumped`).

A run keeps its requests if none of its actions abandons one: no request is
cancelled, evicted or given up late.  Nothing is asked of the loopback: that its
queues never fill in such a run is something to be proved.
-/

namespace BlockBridge

/-- An action of one of the two sides. -/
inductive Bridge.Action where
  | submit (request : Request)
  /-- Wait for a block's outcome; the server gets its turns before each receive. -/
  | wait (block : Address) (turns : List Nat)
  /-- Take in at most one frame, after the server has had its turns. -/
  | pump (timeout : Nat) (turns : List Nat)
  | cancel (block : Address)
  /-- The server serves at most one frame. -/
  | serve (timeout : Nat)
  /-- Time passes. -/
  | sleep (duration : Nat)

namespace Bridge

/-- What was done in a run and what it returned, oldest first. -/
abbrev History : Type := List (Action × Session.Answer)

variable {δ ε : Type}

/-- Submit a request. -/
def submit (kind : Device δ ε) (request : Request) (bridge : Bridge δ) :
    Except Fault Unit × Bridge δ :=
  match request with
  | .read block => bridge.submitRead (Attended.channel kind) block
  | .write block data => bridge.submitWrite (Attended.channel kind) block data

/-- Take one action. -/
def act (kind : Device δ ε) (action : Action) (bridge : Bridge δ) : Session.Answer × Bridge δ :=
  match action with
  | .submit request => (bridge.submit kind request).map .done id
  | .wait block turns =>
    ((bridge.schedule turns).wait (Attended.channel kind) block).map .completion id
  | .pump timeout turns =>
    ((bridge.schedule turns).pump (Attended.channel kind) timeout).map .received id
  | .cancel block => (bridge.cancel block).map .cancelled id
  | .serve timeout => (bridge.serveNext kind timeout).map .received id
  | .sleep duration => (.slept, bridge.sleep duration)

/-- Take the actions of a run, one after the other. -/
def play (kind : Device δ ε) : List Action → Bridge δ → History × Bridge δ
  | [], bridge => ([], bridge)
  | action :: actions, bridge =>
    let acted := act kind action bridge
    let played := play kind actions acted.2
    ((action, acted.1) :: played.1, played.2)

/-- The requests that were accepted in a run, oldest first. -/
def accepted (history : History) : List Request :=
  history.filterMap fun
    | (.submit request, .done (.ok ())) => some request
    | _ => none

/-- Whether an action would abandon a request. -/
def Abandons (kind : Device δ ε) (bridge : Bridge δ) : Action → Prop
  | .submit _ => bridge.client.pending.expired bridge.time.now bridge.client.timeout ≠ []
  | .wait block turns =>
    (act kind (.wait block turns) bridge).1 = .completion (.error (.timeout block))
  | .cancel block => bridge.client.pending.contains block = true
  | .pump .. | .serve _ | .sleep _ => False

/-- A run that abandons no request. -/
def Keeps (kind : Device δ ε) : List Action → Bridge δ → Prop
  | [], _ => True
  | action :: actions, bridge =>
    ¬Abandons kind bridge action ∧ Keeps kind actions (act kind action bridge).2

theorem play_append (kind : Device δ ε) (first second : List Action) (bridge : Bridge δ) :
    play kind (first ++ second) bridge =
      ((play kind first bridge).1 ++ (play kind second (play kind first bridge).2).1,
        (play kind second (play kind first bridge).2).2) := by
  induction first generalizing bridge with
  | nil => rfl
  | cons action actions ih =>
    rw [List.cons_append, play, ih]
    rfl

@[simp]
theorem accepted_append (past history : History) :
    accepted (past ++ history) = accepted past ++ accepted history :=
  List.filterMap_append

theorem keeps_append {kind : Device δ ε} {first second : List Action} {bridge : Bridge δ} :
    Keeps kind (first ++ second) bridge ↔
      Keeps kind first bridge ∧ Keeps kind second (play kind first bridge).2 := by
  induction first generalizing bridge with
  | nil => simp [Keeps, play]
  | cons action actions ih =>
    show _ ∧ Keeps kind (actions ++ second) _ ↔ (_ ∧ Keeps kind actions _) ∧ _
    rw [ih, and_assoc]
    rfl

/-- A step that is in the history was taken in the state that the actions before
it had led to. -/
theorem exists_split_of_play {kind : Device δ ε} {actions : List Action} {bridge : Bridge δ}
    {earlier later : History} {action : Action} {answer : Session.Answer}
    (h : (play kind actions bridge).1 = earlier ++ (action, answer) :: later) :
    ∃ before after, actions = before ++ action :: after ∧
      (play kind before bridge).1 = earlier ∧
      (act kind action (play kind before bridge).2).1 = answer := by
  induction earlier generalizing actions bridge with
  | nil =>
    cases actions with
    | nil => exact absurd h nofun
    | cons first rest =>
      obtain ⟨hstep, _⟩ := List.cons.inj h
      obtain ⟨rfl, hanswer⟩ := Prod.mk.inj hstep
      exact ⟨[], rest, rfl, rfl, hanswer⟩
  | cons step earlier ih =>
    cases actions with
    | nil => exact absurd h nofun
    | cons first rest =>
      obtain ⟨hstep, hrest⟩ := List.cons.inj h
      obtain ⟨before, after, rfl, hbefore, hanswer⟩ := ih hrest
      refine ⟨first :: before, after, rfl, ?_, hanswer⟩
      rw [play, hbefore, ← hstep]

/-- What every action keeps holds after every run. -/
theorem play_preserves {kind : Device δ ε} {P : History → Bridge δ → Prop}
    (hstep : ∀ past bridge action, P past bridge →
      P (past ++ [(action, (act kind action bridge).1)]) (act kind action bridge).2)
    (actions : List Action) (past : History) {bridge : Bridge δ} (hstart : P past bridge) :
    P (past ++ (play kind actions bridge).1) (play kind actions bridge).2 := by
  induction actions generalizing past bridge with
  | nil =>
    show P (past ++ []) bridge
    rw [List.append_nil]
    exact hstart
  | cons action actions ih =>
    have hrest := ih _ (hstep past bridge action hstart)
    rw [List.append_assoc] at hrest
    exact hrest

/-- What every action that abandons nothing keeps holds after every run that
keeps its requests. -/
theorem Keeps.preserves {kind : Device δ ε} {P : History → Bridge δ → Prop}
    (hstep : ∀ past bridge action, ¬Abandons kind bridge action → P past bridge →
      P (past ++ [(action, (act kind action bridge).1)]) (act kind action bridge).2)
    {actions : List Action} {bridge : Bridge δ} (hkeeps : Keeps kind actions bridge)
    (past : History) (hstart : P past bridge) :
    P (past ++ (play kind actions bridge).1) (play kind actions bridge).2 := by
  induction actions generalizing past bridge with
  | nil =>
    show P (past ++ []) bridge
    rw [List.append_nil]
    exact hstart
  | cons action actions ih =>
    obtain ⟨hkept, hlater⟩ := hkeeps
    have hrest := ih hlater _ (hstep past bridge action hkept hstart)
    rw [List.append_assoc] at hrest
    exact hrest

/-- A state inside a wait is one that a run leads to which takes the wait's receives
as actions of their own, and so abandons nothing. -/
theorem exists_play_of_pumped {kind : Device δ ε} {block : Address} {bridge last : Bridge δ}
    {turns : List Nat}
    (h : Session.Pumped (Attended.channel kind) block (bridge.schedule turns) last) :
    ∃ actions left, Keeps kind actions bridge ∧
      last = (play kind actions bridge).2.schedule left := by
  generalize hstart : bridge.schedule turns = start at h
  induction h generalizing bridge turns with
  | refl => exact ⟨[], turns, trivial, hstart.symm⟩
  | @head session next last entry received _ _ _ hpump _ ih =>
    have hnext : Bridge.schedule next.channel.turns next = next := rfl
    obtain ⟨actions, left, hkeeps, hlast⟩ := ih hnext
    let receive : Action := .pump (session.client.timeout -
      (session.time.now - entry.issuedAt)) turns
    have hact : (act kind receive bridge).2 = next := by
      simp only [receive, act, hstart, hpump, Prod.map, id]
    refine ⟨receive :: actions, left, ⟨id, ?_⟩, ?_⟩
    · rw [hact]
      exact hkeeps
    · rw [play, hact]
      exact hlast

/-- To submit a request is to submit its message, once a write has shown its data. -/
theorem submit_eq (kind : Device δ ε) (request : Request) (bridge : Bridge δ) :
    ∃ notes, bridge.submit kind request =
      Session.submit (Attended.channel kind) request.operation request.message
        (bridge.note notes) := by
  cases request with
  | read block =>
    refine ⟨[], ?_⟩
    have hnote : bridge.note [] = bridge := by
      simp [Session.note, Timeline.note]
    rw [hnote]
    rfl
  | write block data => exact ⟨bridge.client.dump block data, rfl⟩

end Bridge
end BlockBridge

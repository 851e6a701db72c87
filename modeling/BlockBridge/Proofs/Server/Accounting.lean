import BlockBridge.Proofs.Server.Frames

/-!
# The server's books

A server that is handed a frame deals with it in one of five ways: the frame is no
message, it is no request, or it is a request that is carried out, that the device fails,
or that is about a block beyond the device.  Each way says what is replied and which
counters move (`Server.Handling`).

What one frame and its reply do to a counter, they do in any run, so that the counter is
the number of frames with this effect (`Server.count_handleFrames`).

Main statement: `Server.counters_of_frames`.
-/

namespace BlockBridge

/-! ## What is counted -/

namespace Message

/-- Whether a message asks for this operation. -/
def asks (operation : Operation) : Message → Bool
  | readRequest _ => operation = .read
  | writeRequest .. => operation = .write
  | readResult .. | readFailed .. | writeResult .. => false

/-- The code that a result reports.  The contents of a block come without one. -/
def code? : Message → Option ResultCode
  | readFailed _ code | writeResult _ code => some code
  | readResult .. | readRequest _ | writeRequest .. => none

/-- That a message is a result with a code that a server may report for it. -/
def ProperReply : Message → Prop
  | readResult .. => True
  | readFailed _ code => code = -1 ∨ code = -2
  | writeResult _ code => code = 0 ∨ code = -1 ∨ code = -2
  | readRequest _ | writeRequest .. => False

end Message

/-- Whether a frame is a message of which this can be said. -/
def Bytes.carries (test : Message → Bool) (frame : Bytes) : Bool :=
  match Message.decode frame with
  | .ok message => test message
  | .error _ => false

theorem Bytes.carries_of_ok {frame : Bytes} {message : Message}
    (h : Message.decode frame = .ok message) (test : Message → Bool) :
    frame.carries test = test message := by
  rw [carries, h]

theorem Bytes.carries_of_error {frame : Bytes} {fault : FrameFault}
    (h : Message.decode frame = .error fault) (test : Message → Bool) :
    frame.carries test = false := by
  rw [carries, h]

@[simp]
theorem Bytes.carries_encode (test : Message → Bool) (message : Message) :
    carries test message.encode = test message :=
  carries_of_ok (Message.decode_encode message) test

namespace Request

/-- The reply to a request that was carried out; a read came back with `data`. -/
def done (data : Block) : Request → Message
  | read block => .readResult block data
  | write block _ => .writeResult block resultOk

/-- The reply to a request that failed with a code. -/
def refused (code : ResultCode) : Request → Message
  | read block => .readFailed block code
  | write block _ => .writeResult block code

@[simp]
theorem code?_refused (code : ResultCode) (request : Request) :
    (request.refused code).code? = some code := by
  cases request <;> rfl

/-- A request that was carried out is not reported as failed. -/
theorem code?_done (data : Block) (request : Request) {code : ResultCode}
    (h : (request.done data).code? = some code) : code = 0 := by
  cases request with
  | read => cases h
  | write => exact (Option.some.inj h).symm

@[simp]
theorem asks_message (operation : Operation) (request : Request) :
    request.message.asks operation = decide (operation = request.operation) := by
  cases request <;> rfl

end Request

/-- The counters once a request for this operation has come. -/
def ServerCounters.asked (operation : Operation) (stats : ServerCounters) : ServerCounters :=
  { stats with
    reads := stats.reads + if operation = .read then 1 else 0
    writes := stats.writes + if operation = .write then 1 else 0 }

namespace Server

variable {δ ε : Type}

/-! ## One frame -/

/-- How a server deals with a frame: what it replies, and its counters afterwards. -/
inductive Handling (frame : Bytes) (stats : ServerCounters) :
    Option Bytes → ServerCounters → Prop where
  /-- The frame is no message. -/
  | malformed {fault : FrameFault} (hdecode : Message.decode frame = .error fault) :
      Handling frame stats none { stats with malformedDropped := stats.malformedDropped + 1 }
  /-- The message is no request. -/
  | unexpected {message : Message} (hdecode : Message.decode frame = .ok message)
      (hresult : ∀ operation, message.asks operation = false) :
      Handling frame stats none { stats with unexpectedDropped := stats.unexpectedDropped + 1 }
  /-- The request is carried out. -/
  | done {request : Request} (hdecode : Message.decode frame = .ok request.message)
      (data : Block) :
      Handling frame stats (some (request.done data).encode) (stats.asked request.operation)
  /-- The device fails the request. -/
  | failed {request : Request} (hdecode : Message.decode frame = .ok request.message) :
      Handling frame stats (some (request.refused (-1)).encode)
        { stats.asked request.operation with ioFailures := stats.ioFailures + 1 }
  /-- The request is about a block beyond the device. -/
  | beyond {request : Request} (hdecode : Message.decode frame = .ok request.message) :
      Handling frame stats (some (request.refused (-2)).encode)
        { stats.asked request.operation with outOfRange := stats.outOfRange + 1 }

/-- There are no other ways to deal with a frame. -/
theorem handling (kind : Device δ ε) (frame : Bytes) (server : Server δ) :
    Handling frame server.stats (server.handleFrame kind frame).1
      (server.handleFrame kind frame).2.1.stats := by
  unfold handleFrame
  rcases hdecode : Message.decode frame with fault | message
  · exact .malformed hdecode
  -- A request is the message of a `Request`, whichever of the two it is.
  cases message with
  | readResult | readFailed | writeResult => exact .unexpected hdecode fun _ => rfl
  | readRequest block =>
    have hdecode : Message.decode frame = .ok (Request.read block).message := hdecode
    simp only [handle, read]
    split
    · rcases kind.read block server.device with ⟨_ | data, device⟩
      · exact .failed hdecode
      · exact .done hdecode data
    · exact .beyond hdecode
  | writeRequest block data =>
    have hdecode : Message.decode frame = .ok (Request.write block data).message := hdecode
    simp only [handle, write]
    split
    · rcases kind.write block data server.device with ⟨_ | ⟨⟩, device⟩
      · exact .failed hdecode
      · exact .done hdecode data
    · exact .beyond hdecode

section

variable {frame : Bytes} {reply : Option Bytes} {stats stats' : ServerCounters}
  (h : Handling frame stats reply stats')
include h

/-- A request is counted by its operation, and is what is replied to. -/
theorem Handling.requests :
    stats'.reads = stats.reads + (frame.carries (Message.asks .read)).toNat ∧
      stats'.writes = stats.writes + (frame.carries (Message.asks .write)).toNat ∧
      stats'.reads + stats'.writes = stats.reads + stats.writes + reply.isSome.toNat := by
  cases h with
  | malformed hdecode => simp [Bytes.carries_of_error hdecode]
  | unexpected hdecode hresult => simp [Bytes.carries_of_ok hdecode, hresult]
  | @done request hdecode | @failed request hdecode | @beyond request hdecode =>
    rw [Bytes.carries_of_ok hdecode, Bytes.carries_of_ok hdecode, Request.asks_message,
      Request.asks_message]
    cases request.operation with
    | read | write =>
      simp [ServerCounters.asked]
      omega

/-- A failure is counted by the code that is replied. -/
theorem Handling.failures :
    stats'.outOfRange =
        stats.outOfRange + (reply.any (Bytes.carries (·.code? = some (-2)))).toNat ∧
      stats'.ioFailures =
        stats.ioFailures + (reply.any (Bytes.carries (·.code? = some (-1)))).toNat ∧
      stats'.outOfRange + stats'.ioFailures = stats.outOfRange + stats.ioFailures +
        (reply.any (Bytes.carries (·.code?.any (· < 0)))).toNat := by
  cases h with
  | malformed | unexpected => simp
  | @done request hdecode data =>
    have hother {code : ResultCode} (hne : code ≠ 0) : (request.done data).code? ≠ some code :=
      fun heq => hne (request.code?_done data heq)
    have hnone : (request.done data).code?.any (· < 0) = false := by
      cases request <;> rfl
    simp [ServerCounters.asked, hother, hnone]
  | failed | beyond =>
    simp [ServerCounters.asked]
    omega

/-- What is not replied to is counted by whether it is a message. -/
theorem Handling.drops :
    stats'.malformedDropped = stats.malformedDropped +
        (reply.isNone && !frame.carries fun _ => true).toNat ∧
      stats'.unexpectedDropped = stats.unexpectedDropped +
        (reply.isNone && frame.carries fun _ => true).toNat ∧
      stats'.malformedDropped + stats'.unexpectedDropped =
        stats.malformedDropped + stats.unexpectedDropped + reply.isNone.toNat := by
  cases h with
  | malformed hdecode => simp [Bytes.carries_of_error hdecode]; omega
  | unexpected hdecode => simp [Bytes.carries_of_ok hdecode]; omega
  | done | failed | beyond => simp [ServerCounters.asked]

/-- Whatever is replied is proper. -/
theorem Handling.proper {bytes : Bytes} (hreply : reply = some bytes) :
    ∃ message, Message.decode bytes = .ok message ∧ message.ProperReply := by
  cases h with
  | malformed | unexpected => cases hreply
  | @done request _ data =>
    obtain rfl := Option.some.inj hreply
    refine ⟨_, Message.decode_encode _, ?_⟩
    cases request with
    | read => trivial
    | write => exact .inl rfl
  | @failed request =>
    obtain rfl := Option.some.inj hreply
    refine ⟨_, Message.decode_encode _, ?_⟩
    cases request with
    | read => exact .inl rfl
    | write => exact .inr (.inl rfl)
  | @beyond request =>
    obtain rfl := Option.some.inj hreply
    refine ⟨_, Message.decode_encode _, ?_⟩
    cases request with
    | read => exact .inr rfl
    | write => exact .inr (.inr rfl)

end

/-! ## Frame after frame -/

/-- Let a number grow by one with each frame for which, with its reply, a test is met,
and by nothing with the others.  Then after any frames it has grown by the number of
those for which the test is met; by induction on the frames. -/
theorem count_handleFrames (kind : Device δ ε) {number : ServerCounters → Nat}
    {test : Bytes × Option Bytes → Bool}
    (hstep : ∀ {frame reply stats stats'}, Handling frame stats reply stats' →
      number stats' = number stats + (test (frame, reply)).toNat)
    (frames : List Bytes) (server : Server δ) :
    number (server.handleFrames kind frames).2.stats =
      number server.stats +
        (frames.zip (server.handleFrames kind frames).1).countP test := by
  induction frames generalizing server with
  | nil => rfl
  | cons frame rest ih =>
    have hfirst := hstep (server.handling kind frame)
    have hrest := ih (server.handleFrame kind frame).2.1
    show number ((server.handleFrame kind frame).2.1.handleFrames kind rest).2.stats =
      number server.stats + List.countP test
        ((frame, (server.handleFrame kind frame).1) ::
          rest.zip ((server.handleFrame kind frame).2.1.handleFrames kind rest).1)
    rw [hrest, hfirst, List.countP_cons]
    cases test (frame, (server.handleFrame kind frame).1) with
    | false => simp
    | true =>
      simp
      omega

theorem proper_handleFrames (kind : Device δ ε) (frames : List Bytes) (server : Server δ) :
    ∀ bytes, some bytes ∈ (server.handleFrames kind frames).1 →
      ∃ message, Message.decode bytes = .ok message ∧ message.ProperReply := by
  induction frames generalizing server with
  | nil => exact fun _ => nofun
  | cons frame rest ih =>
    intro bytes hmem
    rcases List.mem_cons.mp hmem with hfirst | hrest
    · exact (server.handling kind frame).proper hfirst.symm
    · exact ih _ bytes hrest

/-- Tests of the frames alone count the frames. -/
theorem countP_frames (kind : Device δ ε) (test : Bytes → Bool) (frames : List Bytes)
    (server : Server δ) :
    (frames.zip (server.handleFrames kind frames).1).countP (fun pair => test pair.1) =
      frames.countP test := by
  have hfirst : (frames.zip (server.handleFrames kind frames).1).map Prod.fst = frames :=
    List.map_fst_zip (Nat.le_of_eq (server.length_handleFrames kind frames).symm)
  conv_rhs => rw [← hfirst, List.countP_map]
  rfl

/-- Tests of the replies alone count the replies. -/
theorem countP_replies (kind : Device δ ε) (test : Option Bytes → Bool) (frames : List Bytes)
    (server : Server δ) :
    (frames.zip (server.handleFrames kind frames).1).countP (fun pair => test pair.2) =
      (server.handleFrames kind frames).1.countP test := by
  have hsecond : (frames.zip (server.handleFrames kind frames).1).map Prod.snd =
      (server.handleFrames kind frames).1 :=
    List.map_snd_zip (Nat.le_of_eq (server.length_handleFrames kind frames))
  conv_rhs => rw [← hsecond, List.countP_map]
  rfl

/-- The books of a server that starts with its counters at zero, whatever frames it is
handed and whatever its device does.  Requests are counted by the operation they ask for,
and are what is replied to; failures are counted by the code that is replied; what is not
replied to is counted by whether it is a message.  Whatever is replied is a result, with
a code that such a result may report. -/
theorem counters_of_frames (kind : Device δ ε) (device : δ) (traceBlocks : Bool)
    (frames : List Bytes) :
    let handled := handleFrames kind frames { device, traceBlocks }
    let replies := handled.1
    let stats := handled.2.stats
    (stats.reads = frames.countP (Bytes.carries (Message.asks .read)) ∧
      stats.writes = frames.countP (Bytes.carries (Message.asks .write)) ∧
      stats.reads + stats.writes = replies.countP Option.isSome) ∧
    (stats.outOfRange = replies.countP (Option.any (Bytes.carries (·.code? = some (-2)))) ∧
      stats.ioFailures = replies.countP (Option.any (Bytes.carries (·.code? = some (-1)))) ∧
      stats.outOfRange + stats.ioFailures =
        replies.countP (Option.any (Bytes.carries (·.code?.any (· < 0))))) ∧
    (stats.malformedDropped = (frames.zip replies).countP
        (fun (frame, reply) => reply.isNone && !frame.carries fun _ => true) ∧
      stats.unexpectedDropped = (frames.zip replies).countP
        (fun (frame, reply) => reply.isNone && frame.carries fun _ => true) ∧
      stats.malformedDropped + stats.unexpectedDropped = replies.countP Option.isNone) ∧
    frames.length =
      stats.reads + stats.writes + stats.malformedDropped + stats.unexpectedDropped ∧
    replies.length = frames.length ∧
    ∀ bytes, some bytes ∈ replies →
      ∃ message, Message.decode bytes = .ok message ∧ message.ProperReply := by
  intro handled replies stats
  -- From here on the frames are counted; each number starts at zero.
  have hcount (number : ServerCounters → Nat) {test : Bytes × Option Bytes → Bool}
      (hzero : number {} = 0)
      (hstep : ∀ {frame reply stats stats'}, Handling frame stats reply stats' →
        number stats' = number stats + (test (frame, reply)).toNat) :
      number stats = (frames.zip replies).countP test := by
    have h := count_handleFrames kind hstep frames { device, traceBlocks }
    rwa [hzero, Nat.zero_add] at h
  have hanswered : stats.reads + stats.writes = replies.countP Option.isSome :=
    (hcount (fun stats => stats.reads + stats.writes) rfl (·.requests.2.2)).trans
      (countP_replies kind _ frames _)
  have hdropped :
      stats.malformedDropped + stats.unexpectedDropped = replies.countP Option.isNone :=
    (hcount (fun stats => stats.malformedDropped + stats.unexpectedDropped) rfl
      (·.drops.2.2)).trans (countP_replies kind _ frames _)
  have hlength : replies.length = frames.length := length_handleFrames kind frames _
  have hsplit : replies.length =
      replies.countP Option.isSome + replies.countP Option.isNone := by
    rw [List.length_eq_countP_add_countP Option.isSome]
    congr 2
    funext reply
    cases reply <;> rfl
  refine ⟨⟨?_, ?_, hanswered⟩, ⟨?_, ?_, ?_⟩, ⟨?_, ?_, hdropped⟩, by omega, hlength,
    proper_handleFrames kind frames _⟩
  · exact (hcount (·.reads) rfl (·.requests.1)).trans (countP_frames kind _ frames _)
  · exact (hcount (·.writes) rfl (·.requests.2.1)).trans
      (countP_frames kind _ frames _)
  · exact (hcount (·.outOfRange) rfl (·.failures.1)).trans
      (countP_replies kind _ frames _)
  · exact (hcount (·.ioFailures) rfl (·.failures.2.1)).trans
      (countP_replies kind _ frames _)
  · exact (hcount (fun stats => stats.outOfRange + stats.ioFailures) rfl
      (·.failures.2.2)).trans (countP_replies kind _ frames _)
  · exact hcount (·.malformedDropped) rfl (·.drops.1)
  · exact hcount (·.unexpectedDropped) rfl (·.drops.2.1)

end Server
end BlockBridge

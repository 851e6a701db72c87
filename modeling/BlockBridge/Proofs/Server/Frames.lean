import BlockBridge.Proofs.Request
import Mathlib.Data.List.Forall2

/-!
# Frame after frame

A server is handed frames, whatever they hold, and each is dealt with before the
next.  Only requests are answered, and an answer is about what was asked: a
result for the same block and the same operation.  This is so over any device.

Main statement: `Server.answers_handleFrames`.
-/

namespace BlockBridge

namespace Message

/-- A message of a request's kind is a request. -/
theorem exists_request {message : Message} (h : message.kind.isRequest = true) :
    ∃ request : Request, message = request.message := by
  cases message with
  | writeRequest block data => exact ⟨.write block data, rfl⟩
  | readRequest block => exact ⟨.read block, rfl⟩
  | readResult | readFailed | writeResult => cases h

end Message

namespace Server

variable {δ ε : Type}

/-- The replies to a list of frames, with a place for each frame, and the server
after the last of them. -/
def handleFrames (kind : Device δ ε) : List Bytes → Server δ → List (Option Bytes) × Server δ
  | [], server => ([], server)
  | frame :: rest, server =>
    let (reply, server, _) := server.handleFrame kind frame
    let (replies, server) := handleFrames kind rest server
    (reply :: replies, server)

theorem handleFrames_append (kind : Device δ ε) (earlier later : List Bytes) (server : Server δ) :
    server.handleFrames kind (earlier ++ later) =
      ((server.handleFrames kind earlier).1 ++
          ((server.handleFrames kind earlier).2.handleFrames kind later).1,
        ((server.handleFrames kind earlier).2.handleFrames kind later).2) := by
  induction earlier generalizing server with
  | nil => rfl
  | cons frame rest ih =>
    simp only [List.cons_append, handleFrames]
    rw [ih]

/-- There is a place for a reply for each frame. -/
theorem length_handleFrames (kind : Device δ ε) (frames : List Bytes) (server : Server δ) :
    (server.handleFrames kind frames).1.length = frames.length := by
  induction frames generalizing server with
  | nil => rfl
  | cons frame rest ih => exact congrArg (· + 1) (ih _)

/-- The reply to a frame is the one that the server gives when it has dealt with the
frames before. -/
theorem getElem?_handleFrames (kind : Device δ ε) (earlier later : List Bytes) (frame : Bytes)
    (server : Server δ) :
    (server.handleFrames kind (earlier ++ frame :: later)).1[earlier.length]? =
      some ((server.handleFrames kind earlier).2.handleFrame kind frame).1 := by
  rw [handleFrames_append]
  show ((server.handleFrames kind earlier).1 ++ _)[earlier.length]? = _
  rw [List.getElem?_append_right (Nat.le_of_eq (length_handleFrames kind earlier server)),
    length_handleFrames, Nat.sub_self]
  rfl

/-- That a reply is one to this frame: there is one if the frame is a request, and
then it is a result for the block and the operation that were asked for. -/
def Answers (frame : Bytes) (reply : Option Bytes) : Prop :=
  (reply.isSome ↔
    ∃ message, Message.decode frame = .ok message ∧ message.kind.isRequest = true) ∧
  ∀ message bytes, Message.decode frame = .ok message → reply = some bytes →
    ∃ result, Message.decode bytes = .ok result ∧ result.kind.isRequest = false ∧
      result.block = message.block ∧ result.operation = message.operation

/-- A frame that is no request gets no reply, and the device is left alone. -/
theorem handleFrame_of_no_request (kind : Device δ ε) {frame : Bytes} (server : Server δ)
    (h : ∀ message, Message.decode frame = .ok message → message.kind.isRequest = false) :
    (server.handleFrame kind frame).1 = none ∧
      (server.handleFrame kind frame).2.1.device = server.device := by
  unfold handleFrame
  cases hdecode : Message.decode frame with
  | error fault => exact ⟨rfl, rfl⟩
  | ok message =>
    have hresult := h message hdecode
    cases message with
    | writeRequest | readRequest => cases hresult
    | readResult | readFailed | writeResult => exact ⟨rfl, rfl⟩

/-- Whatever the frame is, the server's reply is one to it. -/
theorem answers_handleFrame (kind : Device δ ε) (frame : Bytes) (server : Server δ) :
    Answers frame (server.handleFrame kind frame).1 := by
  by_cases hrequest : ∃ message, Message.decode frame = .ok message ∧
      message.kind.isRequest = true
  · obtain ⟨message, hdecode, hkind⟩ := hrequest
    obtain ⟨request, rfl⟩ := Message.exists_request hkind
    obtain ⟨reply, _, _, hhandle, hblock, houtcome, _⟩ :=
      handleFrame_of_request kind hdecode server
    rw [hhandle]
    refine ⟨⟨fun _ => ⟨request.message, hdecode, hkind⟩, fun _ => rfl⟩, ?_⟩
    intro message bytes hdecode' hbytes
    cases hbytes
    have hsame : request.message = message := Except.ok.inj (hdecode.symm.trans hdecode')
    subst hsame
    refine ⟨reply, Message.decode_encode reply, Message.isRequest_of_outcome? houtcome, ?_, ?_⟩
    · rw [hblock, Request.block_message]
    · rw [Message.operation_of_outcome? houtcome, Request.operation_message]
  · have hother : ∀ message, Message.decode frame = .ok message →
        message.kind.isRequest = false := fun message hdecode =>
      (Bool.not_eq_true _).mp fun hkind => hrequest ⟨message, hdecode, hkind⟩
    obtain ⟨hnone, _⟩ := handleFrame_of_no_request kind server hother
    rw [hnone]
    refine ⟨⟨fun hsome => ?_, fun h => absurd h hrequest⟩, ?_⟩
    · cases hsome
    · intro message bytes _ hbytes
      cases hbytes

/-- So it is for every frame of a list, by induction on the frames. -/
theorem answers_handleFrames (kind : Device δ ε) (frames : List Bytes) (server : Server δ) :
    List.Forall₂ Answers frames (server.handleFrames kind frames).1 := by
  induction frames generalizing server with
  | nil => exact .nil
  | cons frame rest ih => exact .cons (answers_handleFrame kind frame server) (ih _)

end Server
end BlockBridge

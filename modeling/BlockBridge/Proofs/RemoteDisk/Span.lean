import BlockBridge.Proofs.Message.Grammar
import BlockBridge.Proofs.RemoteDisk.Splice
import BlockBridge.Proofs.Session.Admission
import BlockBridge.Proofs.Session.Bystanders

/-!
# Spans that cannot be accessed

A span that does not fit into a block is refused for its length before anything else
happens, and for no other reason, since neither a submission nor a wait fails in this way
(`Session.readBlock_ne_badLength`, `Session.writeBlock_ne_badLength`).

What is sent for a span that fits is the request to read its block, and after that the
request to write the block back, of which every byte is the caller's or one that was read.
Only a submission sends anything, and no more than the frame of its request
(`Session.sends_ask`).

An access whose slices are all checked against the bounds, and whose sum is checked for an
overflow in 64 bits, never fails a check (`RemoteDisk.readAtChecked?_eq_some`,
`RemoteDisk.programChecked?_eq_some`).

Main statement: `RemoteDisk.span_faults`.
-/

namespace BlockBridge

namespace Session

variable {σ : Type} {channel : Channel σ} {block : Address}

/-! ## Faults of whole blocks -/

theorem wait_ne_badLength (channel : Channel σ) (block : Address) (session : Session σ)
    (length : Nat) : (session.wait channel block).1 ≠ .error (.request (.badLength length)) := by
  rcases session.concludes_wait channel block with
    ⟨_, h⟩ | ⟨_, h⟩ | h | h | ⟨_, h⟩ <;> simp [h]

theorem readBlock_ne_badLength (channel : Channel σ) (block : Address) (session : Session σ)
    (length : Nat) :
    (session.readBlock channel block).1 ≠ .error (.request (.badLength length)) := by
  rcases hsubmitted : session.submitRead channel block with ⟨fault | ⟨⟩, next⟩
  · rw [readBlock_refused hsubmitted]
    rcases fault_of_submit hsubmitted with rfl | rfl | ⟨cause, rfl⟩ <;> simp
  · have hwait := next.wait_ne_badLength channel block length
    rw [readBlock_result hsubmitted]
    rcases hwaited : (next.wait channel block).1 with fault | data | _ | code
    · rw [hwaited] at hwait
      exact fun h => hwait (congrArg _ (Except.error.inj h))
    all_goals nofun

theorem writeBlock_ne_badLength (channel : Channel σ) (block : Address) (data : Block)
    (session : Session σ) (length : Nat) :
    (session.writeBlock channel block data).1 ≠ .error (.request (.badLength length)) := by
  rcases hsubmitted : session.submitWrite channel block data with ⟨fault | ⟨⟩, next⟩
  · rw [writeBlock_refused hsubmitted]
    rcases fault_of_submit hsubmitted with rfl | rfl | ⟨cause, rfl⟩ <;> simp
  · have hwait := next.wait_ne_badLength channel block length
    rw [writeBlock_result hsubmitted]
    rcases hwaited : (next.wait channel block).1 with fault | completion
    · rw [hwaited] at hwait
      exact fun h => hwait (congrArg _ (Except.error.inj h))
    · nofun

/-! ## Frames that are sent -/

/-- That of all that was sent from one state to the other each is such a frame. -/
def Sends (allowed : Bytes → Prop) (before after : Session (Timed σ)) : Prop :=
  ∃ sent, after.channel.sendings = before.channel.sendings ++ sent ∧
    ∀ sending ∈ sent, allowed sending.frame

namespace Sends

variable {allowed : Bytes → Prop} {before between after : Session (Timed σ)}

theorem of_eq (h : after.channel.sendings = before.channel.sendings) :
    Sends allowed before after :=
  ⟨[], h.trans (List.append_nil _).symm, List.forall_mem_nil _⟩

theorem trans (h : Sends allowed before between) (h' : Sends allowed between after) :
    Sends allowed before after := by
  obtain ⟨sent, heq, hall⟩ := h
  obtain ⟨sent', heq', hall'⟩ := h'
  refine ⟨sent ++ sent', by rw [heq', heq, List.append_assoc], fun sending hmem => ?_⟩
  rcases List.mem_append.mp hmem with hmem | hmem
  · exact hall sending hmem
  · exact hall' sending hmem

theorem mono {allowed' : Bytes → Prop} (himp : ∀ frame, allowed frame → allowed' frame)
    (h : Sends allowed before after) : Sends allowed' before after := by
  obtain ⟨sent, heq, hall⟩ := h
  exact ⟨sent, heq, fun sending hmem => himp _ (hall sending hmem)⟩

end Sends

/-- A submission sends no frame but that of its request. -/
theorem sends_ask (channel : Channel σ) (request : Request) (session : Session (Timed σ)) :
    Sends (· = request.message.encode) session (session.ask channel.timed request).2 := by
  have hadmission := admission channel request session
  generalize session.ask channel.timed request = asked at hadmission ⊢
  rcases asked with ⟨result, after⟩
  simp only at hadmission ⊢
  cases hadmission with
  | refused _ _ hchannel => exact .of_eq (congrArg Timed.sendings hchannel)
  | unsent _ _ hsendings =>
    exact ⟨_, hsendings, fun _ hmem => by rw [List.mem_singleton.mp hmem]⟩
  | sent _ _ hsendings =>
    exact ⟨_, hsendings, fun _ hmem => by rw [List.mem_singleton.mp hmem]⟩

/-- The wait for it sends nothing. -/
theorem sends_waitedIfSent (channel : Channel σ) (request : Request) (block : Address)
    (session : Session (Timed σ)) :
    Sends (· = request.message.encode) session
      (waitedIfSent channel.timed block (session.ask channel.timed request)) := by
  have hsends := session.sends_ask channel request
  rcases hasked : session.ask channel.timed request with ⟨fault | ⟨⟩, next⟩
  · rwa [hasked] at hsends
  · rw [hasked] at hsends
    obtain ⟨_, hleft⟩ := next.left_of_wait channel block
    have hwait : Sends (· = request.message.encode) next (next.wait channel.timed block).2 :=
      .of_eq hleft.sendings_eq
    exact hsends.trans hwait

end Session

namespace RemoteDisk

variable {σ : Type} {channel : Channel σ} {block : Address}

/-! ## Accesses of spans -/

/-- A read is refused for its length just if the span does not fit into a block. -/
theorem readAt_eq_badLength_iff (channel : Channel σ) (block : Address) (offset : Nat)
    (buffer : Bytes) (remote : RemoteDisk σ) (length : Nat) :
    (remote.readAt channel block offset buffer).1 = .error (.request (.badLength length)) ↔
      length = buffer.length ∧ blockSize < offset + buffer.length := by
  unfold readAt
  by_cases hfits : offset + buffer.length ≤ blockSize
  · rw [if_pos hfits]
    refine iff_of_false ?_ (by omega)
    have hread := remote.session.readBlock_ne_badLength channel block length
    simp only [read]
    rcases hdone : remote.session.readBlock channel block with ⟨fault | data, session⟩
    · rw [hdone] at hread
      exact fun h => hread (congrArg _ (Except.error.inj h))
    · rintro ⟨⟩
  · rw [if_neg hfits]
    constructor
    · rintro ⟨⟩
      exact ⟨rfl, Nat.lt_of_not_le hfits⟩
    · rintro ⟨rfl, _⟩
      rfl

theorem program_eq_badLength_iff (channel : Channel σ) (block : Address) (offset : Nat)
    (bytes : Bytes) (remote : RemoteDisk σ) (length : Nat) :
    (remote.program channel block offset bytes).1 = .error (.request (.badLength length)) ↔
      length = bytes.length ∧ blockSize < offset + bytes.length := by
  unfold program
  by_cases hfits : offset + bytes.length ≤ blockSize
  · rw [dif_pos hfits]
    refine iff_of_false ?_ (by omega)
    split
    · exact remote.session.writeBlock_ne_badLength channel block _ length
    · have hread := remote.session.readBlock_ne_badLength channel block length
      simp only [read]
      rcases hdone : remote.session.readBlock channel block with ⟨fault | data, session⟩
      · rw [hdone] at hread
        exact fun h => hread (congrArg _ (Except.error.inj h))
      · exact Session.writeBlock_ne_badLength channel block _ _ length
  · rw [dif_neg hfits]
    constructor
    · rintro ⟨⟩
      exact ⟨rfl, Nat.lt_of_not_le hfits⟩
    · rintro ⟨rfl, _⟩
      rfl

/-- Whatever a read fails for, the caller's buffer is as it was. -/
theorem buffer_of_readAt_error {offset : Nat} {buffer : Bytes} {remote : RemoteDisk σ}
    {fault : Fault} (h : (remote.readAt channel block offset buffer).1 = .error fault) :
    (remote.readAt channel block offset buffer).2.1 = buffer := by
  unfold readAt at h ⊢
  split
  · rename_i hfits
    rw [if_pos hfits] at h
    rcases hdone : remote.read channel block with ⟨fault | data, after⟩
    · rfl
    · rw [hdone] at h
      cases h
  · rfl

/-- A program whose read fails ends with the read. -/
theorem program_of_read_error {offset : Nat} {bytes : Bytes} {remote after : RemoteDisk σ}
    {fault : Fault} (within : offset + bytes.length ≤ blockSize) (hpart : bytes.length < blockSize)
    (hread : remote.read channel block = (.error fault, after)) :
    remote.program channel block offset bytes = (.error fault, after) := by
  rw [program, dif_pos within, dif_neg (Nat.ne_of_lt hpart), hread]

/-! ## What a program sends -/

/-- That a block has the caller's bytes in their span, and outside of it those of the block
that was read. -/
structure Merges (offset : Nat) (bytes : Bytes) (result : Except Fault Block) (payload : Block) :
    Prop where
  inside : ∀ place < bytes.length, payload.bytes[offset + place]? = bytes[place]?
  outside : ∀ place < blockSize, place < offset ∨ offset + bytes.length ≤ place →
    ∃ data, result = .ok data ∧ payload.bytes[place]? = data.bytes[place]?

theorem merges_splice {offset : Nat} {bytes : Bytes}
    (within : offset + bytes.length ≤ blockSize) (data : Block) :
    Merges offset bytes (.ok data) (data.splice offset bytes within) where
  inside place hplace := by
    have hplaced : bytes.placed offset (offset + place) = bytes[place]? := by
      rw [Bytes.placed, if_pos (Nat.le_add_right _ _), Nat.add_sub_cancel_left]
    rw [Block.getElem?_splice, hplaced, List.getElem?_eq_getElem hplace, Option.some_or]
  outside place _ hout := by
    refine ⟨data, rfl, ?_⟩
    rw [Block.getElem?_splice, Bytes.placed_eq_none hout, Option.none_or]

/-- A whole block has nothing outside of it. -/
theorem merges_whole {offset : Nat} {bytes : Bytes} (within : offset + bytes.length ≤ blockSize)
    (hwhole : bytes.length = blockSize) (result : Except Fault Block) :
    Merges offset bytes result ⟨bytes, hwhole⟩ where
  inside place _ := by
    obtain rfl : offset = 0 := by omega
    rw [Nat.zero_add]
  outside place hplace hout := by omega

/-- What a program may send, given what its read returns: the request to read the block, and
one to write a block in which its bytes are merged. -/
def Programs (block : Address) (offset : Nat) (bytes : Bytes) (result : Except Fault Block)
    (frame : Bytes) : Prop :=
  frame = (Message.readRequest block).encode ∨
    ∃ payload, frame = (Message.writeRequest block payload).encode ∧
      Merges offset bytes result payload

theorem sends_read (channel : Channel σ) (block : Address) (remote : RemoteDisk (Timed σ)) :
    Session.Sends (· = (Message.readRequest block).encode) remote.session
      (remote.read channel.timed block).2.session := by
  show Session.Sends _ _ (remote.session.readBlock channel.timed block).2
  rw [Session.readBlock_session]
  exact remote.session.sends_waitedIfSent channel (.read block) block

theorem sends_write (channel : Channel σ) (block : Address) (data : Block)
    (remote : RemoteDisk (Timed σ)) :
    Session.Sends (· = (Message.writeRequest block data).encode) remote.session
      (remote.write channel.timed block data).2.session := by
  show Session.Sends _ _ (remote.session.writeBlock channel.timed block data).2
  rw [Session.writeBlock_session]
  exact remote.session.sends_waitedIfSent channel (.write block data) block

theorem sends_program (channel : Channel σ) (block : Address) (offset : Nat) (bytes : Bytes)
    (remote : RemoteDisk (Timed σ)) :
    Session.Sends (Programs block offset bytes (remote.read channel.timed block).1)
      remote.session (remote.program channel.timed block offset bytes).2.session := by
  unfold program
  split
  · rename_i hfits
    split
    · rename_i hwhole
      refine (remote.sends_write channel block ⟨bytes, hwhole⟩).mono ?_
      rintro _ rfl
      exact .inr ⟨_, rfl, merges_whole hfits hwhole _⟩
    · have hread := remote.sends_read channel block
      rcases hdone : remote.read channel.timed block with ⟨fault | data, after⟩
      · rw [hdone] at hread
        exact hread.mono fun _ => .inl
      · rw [hdone] at hread
        simp only
        generalize Timeline.note _ _ _ = time
        -- The note that is made in between does not use the channel.
        have hwrite : Session.Sends (· = (Message.writeRequest block _).encode) after.session _ :=
          sends_write channel block (data.splice offset bytes hfits)
            { after with session := { after.session with time } }
        refine (hread.mono fun _ => .inl).trans (hwrite.mono ?_)
        rintro _ rfl
        exact .inr ⟨_, rfl, merges_splice hfits data⟩
  · exact .of_eq rfl

end RemoteDisk

/-! ## Checked accesses -/

/-- The sum of two words of 64 bits, unless it takes more. -/
def checkedSum? (a b : Nat) : Option Nat :=
  if a + b ≤ 18446744073709551615 then some (a + b) else none

/-- Where a span begins and ends, if it fits into a block. -/
def span? (offset length : Nat) : Option (Nat × Nat) :=
  match checkedSum? offset length with
  | some stop => if stop ≤ blockSize then some (offset, stop) else none
  | none => none

/-- A sum that overflows is beyond the block at any rate. -/
theorem span?_eq (offset length : Nat) :
    span? offset length =
      if offset + length ≤ blockSize then some (offset, offset + length) else none := by
  unfold span? checkedSum?
  by_cases hfits : offset + length ≤ blockSize
  · have hsum : offset + length ≤ 18446744073709551615 := Nat.le_trans hfits (by decide)
    rw [if_pos hsum]
  · rw [if_neg hfits]
    split
    · rename_i stop hstop
      obtain ⟨_, ⟨⟩⟩ := Option.ite_none_right_eq_some.mp hstop
      exact if_neg hfits
    · rfl

/-- A span that begins at the last place of all has no end, unless it is empty. -/
example : checkedSum? 18446744073709551615 1 = none ∧
    checkedSum? 18446744073709551615 0 = some 18446744073709551615 := by decide

/-- Fill a buffer, which has to be of the source's length. -/
def Bytes.copy? (buffer source : Bytes) : Option Bytes :=
  if buffer.length = source.length then some source else none

/-- Copy a source into the bytes from place `start` up to place `stop`, if these are places in
order and as many as the source has bytes. -/
def Block.copyAt? (block : Block) (start stop : Nat) (source : Bytes) : Option Block := do
  let copied ← (← block.bytes.between? start stop).copy? source
  Block.ofBytes? (block.bytes.take start ++ copied ++ block.bytes.drop stop)

theorem Bytes.copy?_eq_some {buffer source : Bytes} (h : buffer.length = source.length) :
    buffer.copy? source = some source :=
  if_pos h

theorem Block.between?_eq_some (block : Block) {offset length : Nat}
    (within : offset + length ≤ blockSize) :
    block.bytes.between? offset (offset + length) = some (block.slice offset length) := by
  rw [Bytes.between?_of_le (Nat.le_add_right _ _) (by rw [block.length_eq]; exact within),
    List.drop_take, Nat.add_sub_cancel_left, slice]

theorem Block.copyAt?_eq_some (block : Block) {offset : Nat} {bytes : Bytes}
    (within : offset + bytes.length ≤ blockSize) :
    block.copyAt? offset (offset + bytes.length) bytes =
      some (block.splice offset bytes within) := by
  have hcopied : (block.slice offset bytes.length).copy? bytes = some bytes :=
    Bytes.copy?_eq_some (length_slice within)
  simp only [copyAt?, block.between?_eq_some within, Option.bind_eq_bind, Option.bind_some,
    hcopied]
  exact ofBytes?_bytes (block.splice offset bytes within)

namespace RemoteDisk

variable {σ : Type}

/-- Read a span of a block with every access checked; `none` is a check that fails. -/
def readAtChecked? (channel : Channel σ) (block : Address) (offset : Nat) (buffer : Bytes)
    (remote : RemoteDisk σ) : Option (Except Fault Unit × Bytes × RemoteDisk σ) :=
  match span? offset buffer.length with
  | none => some (.error (.request (.badLength buffer.length)), buffer, remote)
  | some (start, stop) =>
    match remote.read channel block with
    | (.error fault, remote) => some (.error fault, buffer, remote)
    | (.ok data, remote) => do
      let filled ← buffer.copy? (← data.bytes.between? start stop)
      return (.ok (), filled, remote)

/-- Write a span of a block with every access checked. -/
def programChecked? (channel : Channel σ) (block : Address) (offset : Nat) (bytes : Bytes)
    (remote : RemoteDisk σ) : Option (Except Fault Unit × RemoteDisk σ) :=
  match span? offset bytes.length with
  | none => some (.error (.request (.badLength bytes.length)), remote)
  | some (start, stop) =>
    if stop - start = blockSize then
      let (result, session) := remote.session.writeBytes channel block bytes
      some (result, { remote with session })
    else
      match remote.read channel block with
      | (.error fault, remote) => some (.error fault, remote)
      | (.ok data, remote) => do
        let whole ← data.copyAt? start stop bytes
        let session := remote.session
        let time := session.time.note logTarget
          [.debug s!"remote disk: program {bytes.length} bytes at {block}:{offset}"]
        return { remote with session := { session with time } }.write channel block whole

/-- No access of a read fails its check. -/
theorem readAtChecked?_eq_some (channel : Channel σ) (block : Address) (offset : Nat)
    (buffer : Bytes) (remote : RemoteDisk σ) :
    remote.readAtChecked? channel block offset buffer =
      some (remote.readAt channel block offset buffer) := by
  unfold readAtChecked? readAt
  rw [span?_eq]
  by_cases hfits : offset + buffer.length ≤ blockSize
  · rw [if_pos hfits, if_pos hfits]
    simp only
    rcases remote.read channel block with ⟨fault | data, after⟩
    · rfl
    · have hfilled : buffer.copy? (data.slice offset buffer.length) =
          some (data.slice offset buffer.length) :=
        Bytes.copy?_eq_some (Block.length_slice hfits).symm
      simp only [data.between?_eq_some hfits, Option.bind_eq_bind, Option.bind_some, hfilled]
      rfl
  · rw [if_neg hfits, if_neg hfits]

/-- No access of a program fails its check. -/
theorem programChecked?_eq_some (channel : Channel σ) (block : Address) (offset : Nat)
    (bytes : Bytes) (remote : RemoteDisk σ) :
    remote.programChecked? channel block offset bytes =
      some (remote.program channel block offset bytes) := by
  unfold programChecked? program
  rw [span?_eq]
  by_cases hfits : offset + bytes.length ≤ blockSize
  · rw [if_pos hfits, dif_pos hfits]
    simp only [Nat.add_sub_cancel_left]
    by_cases hwhole : bytes.length = blockSize
    · rw [if_pos hwhole, dif_pos hwhole, Session.writeBytes, Block.ofBytes?, dif_pos hwhole]
      rfl
    · rw [if_neg hwhole, dif_neg hwhole]
      rcases remote.read channel block with ⟨fault | data, after⟩
      · rfl
      · simp only [data.copyAt?_eq_some hfits]
        rfl
  · rw [if_neg hfits, dif_neg hfits]

/-! ## Every access -/

/-- How accesses of spans fail, whatever the remote disk, the channel, the block and the
span, which may begin and end anywhere.  Both fail for the length just if the span does not
fit into a block, and then all is as it was before.  A read that fails for whatever reason
leaves the caller's buffer alone.  A program of a part of a block whose read fails ends with
the fault of the read, and has sent nothing but the request for it.  A program sends no
other requests to write than of the block whose bytes in the span are the caller's, and
outside of it those of the block that its read returned.  No slice that either takes is
out of bounds. -/
theorem span_faults (channel : Channel σ) (remote : RemoteDisk (Timed σ)) (block : Address)
    (offset : Nat) :
    (∀ buffer : Bytes,
      let span := remote.readAt channel.timed block offset buffer
      (∀ length, span.1 = .error (.request (.badLength length)) ↔
        length = buffer.length ∧ blockSize < offset + buffer.length) ∧
      (blockSize < offset + buffer.length →
        span = (.error (.request (.badLength buffer.length)), buffer, remote)) ∧
      (∀ fault, span.1 = .error fault → span.2.1 = buffer) ∧
      remote.readAtChecked? channel.timed block offset buffer = some span) ∧
    ∀ bytes : Bytes,
      let programmed := remote.program channel.timed block offset bytes
      (∀ length, programmed.1 = .error (.request (.badLength length)) ↔
        length = bytes.length ∧ blockSize < offset + bytes.length) ∧
      (blockSize < offset + bytes.length →
        programmed = (.error (.request (.badLength bytes.length)), remote)) ∧
      (∀ fault after, offset + bytes.length ≤ blockSize → bytes.length < blockSize →
        remote.read channel.timed block = (.error fault, after) →
        programmed = (.error fault, after) ∧
          ∃ sent, after.session.channel.sendings = remote.session.channel.sendings ++ sent ∧
            ∀ sending ∈ sent, sending.frame = (Message.readRequest block).encode) ∧
      (∃ sent,
        programmed.2.session.channel.sendings = remote.session.channel.sendings ++ sent ∧
        ∀ sending ∈ sent, sending.frame = (Message.readRequest block).encode ∨
          ∃ payload, sending.frame = (Message.writeRequest block payload).encode ∧
            (∀ place < bytes.length, payload.bytes[offset + place]? = bytes[place]?) ∧
            ∀ place < blockSize, place < offset ∨ offset + bytes.length ≤ place →
              ∃ data, (remote.read channel.timed block).1 = .ok data ∧
                payload.bytes[place]? = data.bytes[place]?) ∧
      remote.programChecked? channel.timed block offset bytes = some programmed := by
  refine ⟨fun buffer => ?_, fun bytes => ?_⟩
  · intro span
    refine ⟨remote.readAt_eq_badLength_iff channel.timed block offset buffer, fun hout => ?_,
      fun fault => buffer_of_readAt_error, remote.readAtChecked?_eq_some channel.timed block offset
        buffer⟩
    exact if_neg (Nat.not_le.mpr hout)
  · intro programmed
    refine ⟨remote.program_eq_badLength_iff channel.timed block offset bytes, fun hout => ?_,
      fun fault after hfits hpart hread => ⟨program_of_read_error hfits hpart hread, ?_⟩, ?_,
      remote.programChecked?_eq_some channel.timed block offset bytes⟩
    · exact dif_neg (Nat.not_le.mpr hout)
    · have hsent := remote.sends_read channel block
      rwa [hread] at hsent
    · obtain ⟨sent, heq, hframes⟩ := remote.sends_program channel block offset bytes
      refine ⟨sent, heq, fun sending hmem => ?_⟩
      rcases hframes sending hmem with hread | ⟨payload, hwrite, hinside, houtside⟩
      · exact .inl hread
      · exact .inr ⟨payload, hwrite, hinside, houtside⟩

end RemoteDisk
end BlockBridge

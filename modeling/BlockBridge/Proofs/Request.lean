import BlockBridge.Pending
import BlockBridge.Proofs.Message.RoundTrip
import BlockBridge.Server

/-!
# Requests and what they do to a device

A request asks for one access to one block.  Carrying it out on a device says
how it ends and what the device is afterwards; carrying out a list of requests
does so one after the other.  No client, server or channel has a part in this:
it is what the two sides of a bridge are measured against.

A transcript writes down how each request of a list ends when the list is
carried out in order, and gives every request its place in the list.

Main statements: a server that is handed the frame of a request does to its
device what carrying out the request does, and answers with how it ended
(`Server.handleFrame_of_request`), which is using the device as the server lets it
be seen (`Device.execute_read`, `Device.execute_write`); the transcript of a
longer list continues that of the shorter one (`Request.transcript_append`).
-/

namespace BlockBridge

/-- One access to one block. -/
inductive Request where
  /-- What does `block` hold? -/
  | read (block : Address)
  /-- Let `block` hold `data`. -/
  | write (block : Address) (data : Block)
  deriving DecidableEq

/-- How a request ended, by its place among all requests. -/
structure Exchange where
  /-- How many requests came before. -/
  number : Nat
  request : Request
  ending : Completion
  deriving DecidableEq

/-- What a wait for a block returns for a request that ended in this way. -/
def Completion.verdict (block : Address) : Completion → Except Fault Completion
  | failed code => .error (.storage ⟨block, code⟩)
  | read data => .ok (.read data)
  | written => .ok .written

/-- A wait's result tells how the request ended. -/
theorem Completion.verdict_injective {block : Address} {ending ending' : Completion}
    (h : ending.verdict block = ending'.verdict block) : ending = ending' := by
  cases ending <;> cases ending' <;> simp_all [verdict]

/-- The operation that a message asks for or reports on. -/
def Message.operation : Message → Operation
  | readRequest _ | readResult .. | readFailed .. => .read
  | writeRequest .. | writeResult .. => .write

/-- Only results report an outcome. -/
theorem Message.isRequest_of_outcome? {message : Message} {answer : Operation × Completion}
    (h : message.outcome? = some answer) : message.kind.isRequest = false := by
  cases message with
  | writeRequest | readRequest => cases h
  | readResult | readFailed | writeResult => rfl

theorem Message.operation_of_outcome? {message : Message} {operation : Operation}
    {outcome : Completion} (h : message.outcome? = some (operation, outcome)) :
    message.operation = operation := by
  cases message with
  | writeRequest | readRequest => cases h
  | readResult | readFailed | writeResult => exact (Prod.mk.inj (Option.some.inj h)).1

namespace Request

variable {δ ε : Type}

/-- The block that a request is about. -/
def block : Request → Address
  | read block | write block _ => block

/-- The operation that a request asks for. -/
def operation : Request → Operation
  | read _ => .read
  | write .. => .write

/-- The message in which a request travels. -/
def message : Request → Message
  | read block => .readRequest block
  | write block data => .writeRequest block data

@[simp]
theorem block_message (request : Request) : request.message.block = request.block := by
  cases request <;> rfl

@[simp]
theorem operation_message (request : Request) :
    request.message.operation = request.operation := by
  cases request <;> rfl

/-- Carry out one request.  A block beyond the device fails with code -2 and
leaves the device alone; one that the device fails, with code -1. -/
def execute (kind : Device δ ε) : Request → δ → Completion × δ
  | read block, device =>
    if block.toNat < kind.blockCount device then
      match kind.read block device with
      | (.ok data, device) => (.read data, device)
      | (.error _, device) => (.failed (-1), device)
    else (.failed (-2), device)
  | write block data, device =>
    if block.toNat < kind.blockCount device then
      match kind.write block data device with
      | (.ok (), device) => (.written, device)
      | (.error _, device) => (.failed (-1), device)
    else (.failed (-2), device)

/-- The device after a list of requests, carried out in order. -/
def carryOut (kind : Device δ ε) (requests : List Request) (device : δ) : δ :=
  requests.foldl (fun device request => (request.execute kind device).2) device

/-- How each request of a list ends, the first of them having this number. -/
def transcript (kind : Device δ ε) : Nat → List Request → δ → List Exchange
  | _, [], _ => []
  | number, request :: rest, device =>
    ⟨number, request, (request.execute kind device).1⟩ ::
      transcript kind (number + 1) rest (request.execute kind device).2

theorem carryOut_append (kind : Device δ ε) (earlier later : List Request) (device : δ) :
    carryOut kind (earlier ++ later) device =
      carryOut kind later (carryOut kind earlier device) :=
  List.foldl_append

@[simp]
theorem length_transcript (kind : Device δ ε) (number : Nat) (requests : List Request)
    (device : δ) : (transcript kind number requests device).length = requests.length := by
  induction requests generalizing number device with
  | nil => rfl
  | cons request rest ih => simp [transcript, ih]

/-- The transcript of a longer list continues that of the shorter one. -/
theorem transcript_append (kind : Device δ ε) (number : Nat) (earlier later : List Request)
    (device : δ) :
    transcript kind number (earlier ++ later) device =
      transcript kind number earlier device ++
        transcript kind (number + earlier.length) later (carryOut kind earlier device) := by
  induction earlier generalizing number device with
  | nil => rfl
  | cons request rest ih =>
    have hnumber : number + (request :: rest).length = number + 1 + rest.length := by
      rw [List.length_cons]
      omega
    rw [hnumber]
    show _ :: transcript kind (number + 1) (rest ++ later) (request.execute kind device).2 = _
    rw [ih]
    rfl

/-- What a transcript says about a request is how the request ends after those
before it. -/
theorem split_of_mem_transcript {kind : Device δ ε} {number : Nat} {requests : List Request}
    {device : δ} {exchange : Exchange} (h : exchange ∈ transcript kind number requests device) :
    ∃ earlier later, requests = earlier ++ exchange.request :: later ∧
      exchange.number = number + earlier.length ∧
      exchange.ending = (exchange.request.execute kind (carryOut kind earlier device)).1 := by
  induction requests generalizing number device with
  | nil => exact absurd h List.not_mem_nil
  | cons request rest ih =>
    rcases List.mem_cons.mp h with rfl | hrest
    · exact ⟨[], rest, rfl, rfl, rfl⟩
    · obtain ⟨earlier, later, hsplit, hplace, hending⟩ := ih hrest
      refine ⟨request :: earlier, later, ?_, ?_, hending⟩
      · rw [hsplit, List.cons_append]
      · rw [hplace, List.length_cons]
        omega

end Request

/-! ## The server as an executor -/

namespace Server

variable {δ ε : Type}

/-- A server that is handed the frame of a request carries the request out and
answers with how it ended.  Nothing counts as dropped. -/
theorem handleFrame_of_request (kind : Device δ ε) {frame : Bytes} {request : Request}
    (hframe : Message.decode frame = .ok request.message) (server : Server δ) :
    ∃ reply server' notes,
      server.handleFrame kind frame = (some (Message.encode reply), server', notes) ∧
      reply.block = request.block ∧
      reply.outcome? = some (request.operation, (request.execute kind server.device).1) ∧
      server'.device = (request.execute kind server.device).2 ∧
      server'.stats.malformedDropped = server.stats.malformedDropped ∧
      server'.stats.unexpectedDropped = server.stats.unexpectedDropped := by
  unfold handleFrame
  rw [hframe]
  cases request with
  | read block =>
    simp only [Request.message, handle, Server.read, Request.execute]
    by_cases hin : block.toNat < kind.blockCount server.device
    · rw [if_pos hin, if_pos hin]
      rcases kind.read block server.device with ⟨_ | data, device⟩
      · exact ⟨_, _, _, rfl, rfl, rfl, rfl, rfl, rfl⟩
      · exact ⟨_, _, _, rfl, rfl, rfl, rfl, rfl, rfl⟩
    · rw [if_neg hin, if_neg hin]
      exact ⟨_, _, _, rfl, rfl, rfl, rfl, rfl, rfl⟩
  | write block data =>
    simp only [Request.message, handle, Server.write, Request.execute]
    by_cases hin : block.toNat < kind.blockCount server.device
    · rw [if_pos hin, if_pos hin]
      rcases kind.write block data server.device with ⟨_ | ⟨⟩, device⟩
      · exact ⟨_, _, _, rfl, rfl, rfl, rfl, rfl, rfl⟩
      · exact ⟨_, _, _, rfl, rfl, rfl, rfl, rfl, rfl⟩
    · rw [if_neg hin, if_neg hin]
      exact ⟨_, _, _, rfl, rfl, rfl, rfl, rfl, rfl⟩

end Server

/-! ## The device behind the server -/

namespace Device

variable {δ ε : Type}

/-- What the other side learns of a block that could not be accessed: whether it
lies beyond the medium. -/
def fault (kind : Device δ ε) (block : Address) (device : δ) : Fault :=
  .storage ⟨block, if block.toNat < kind.blockCount device then -1 else -2⟩

/-- A device as its server lets it be seen: a block beyond the medium is not
accessed, and all faults of a block are one. -/
def served (kind : Device δ ε) : Device δ Fault where
  blockCount := kind.blockCount
  read block device :=
    if block.toNat < kind.blockCount device then
      (kind.read block device).map (Except.mapError fun _ => kind.fault block device) id
    else (.error (kind.fault block device), device)
  write block data device :=
    if block.toNat < kind.blockCount device then
      (kind.write block data device).map (Except.mapError fun _ => kind.fault block device) id
    else (.error (kind.fault block device), device)
  detail := Fault.detail

/-- Carrying out a read request is reading the device as its server lets it be seen. -/
theorem execute_read (kind : Device δ ε) (block : Address) (device : δ) :
    ((Request.read block).execute kind device).1.verdict block =
        (kind.served.read block device).1.map .read ∧
      ((Request.read block).execute kind device).2 = (kind.served.read block device).2 := by
  simp only [Request.execute, served]
  by_cases hin : block.toNat < kind.blockCount device
  · rw [if_pos hin, if_pos hin]
    rcases kind.read block device with ⟨cause | data, device'⟩
    · rw [fault, if_pos hin]
      exact ⟨rfl, rfl⟩
    · exact ⟨rfl, rfl⟩
  · rw [if_neg hin, if_neg hin, fault, if_neg hin]
    exact ⟨rfl, rfl⟩

/-- Carrying out a write request is writing the device as its server lets it be seen. -/
theorem execute_write (kind : Device δ ε) (block : Address) (data : Block) (device : δ) :
    ((Request.write block data).execute kind device).1.verdict block =
        (kind.served.write block data device).1.map (fun _ => .written) ∧
      ((Request.write block data).execute kind device).2 =
        (kind.served.write block data device).2 := by
  simp only [Request.execute, served]
  by_cases hin : block.toNat < kind.blockCount device
  · rw [if_pos hin, if_pos hin]
    rcases kind.write block data device with ⟨cause | ⟨⟩, device'⟩
    · rw [fault, if_pos hin]
      exact ⟨rfl, rfl⟩
    · exact ⟨rfl, rfl⟩
  · rw [if_neg hin, if_neg hin, fault, if_neg hin]
    exact ⟨rfl, rfl⟩

end Device
end BlockBridge

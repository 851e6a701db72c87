import BlockBridge.Proofs.Bridge.Carries
import BlockBridge.Proofs.Device.RamDisk
import BlockBridge.Proofs.Device.Resized
import BlockBridge.Proofs.Server.Serving
import BlockBridge.Proofs.Session.Exchange
import BlockBridge.SelfTest

/-!
# What a run touches

The self-test makes two requests, one after the other, over a loopback that is empty
before and after each of them (`Attended.answers`).  So what it prints and what becomes of
the medium can be told from what the server does with the two requests, whatever the
configuration (`SelfTest.testDevice_of_there`, `SelfTest.testDevice_of_beyond`).

Main statement: a run succeeds exactly on a medium that has the probe block, and changes
nothing but that block (`SelfTest.touches_only_the_probe`).
-/

namespace BlockBridge

variable {δ ε : Type} {kind : Device δ ε}

/-- A configuration that was loaded is usable. -/
theorem Config.validate_of_load {file : HostFile} {config : Config}
    (h : Config.load file = .ok config) : config.validate = .ok () := by
  unfold load at h
  split at h
  · cases h
  unfold parse at h
  split at h
  · cases h
  split at h
  · cases h
  · rename_i hvalid
    obtain rfl := Except.ok.inj h
    exact hvalid

/-! ## The loopback with its server -/

namespace Attended

variable {attended : Attended δ}

/-- Without requests the server's turns pass. -/
theorem attend_of_nil (hopen : attended.link.closed = false) (hqueue : attended.link.toRt = [])
    (kind : Device δ ε) (n : Nat) (time : Timeline) :
    attended.attend kind n time = (attended, time) := by
  induction n with
  | zero => rfl
  | succ n ih =>
    have hturn : attended.turn kind time = (attended, time) := by
      rw [turn, serveNext_of_nil hopen hqueue]
      rfl
    rw [attend, hturn]
    exact ih

/-- A frame that the server answers is taken in its next turn, and the answer is queued. -/
theorem turn_of_handled {frame reply : Bytes} {server : Server δ} {notes : List Note}
    (hlink : attended.link = { toRt := [frame] }) (hsize : reply.length ≤ Loopback.frameLimit)
    (hhandled : attended.server.handleFrame kind frame = (some reply, server, notes))
    (time : Timeline) :
    attended.turn kind time =
      ({ attended with server, link := { toHl := [reply] } },
        time.note Server.logTarget notes) := by
  have hqueue : attended.link.queue .rt = [frame] := by
    rw [hlink]
    rfl
  have hreceive := Loopback.receive_of_cons hqueue 0 time
  have htaken : attended.link.setQueue [] .rt = {} := by
    rw [hlink]
    rfl
  have hsend : Loopback.send .rt reply {} (time.note Server.logTarget notes) =
      (.ok (), { toHl := [reply] }, time.note Server.logTarget notes) :=
    Loopback.send_of_room rfl hsize (by decide) _
  simp only [turn, serveNext, Service.serveNext, Loopback.channel]
  rw [hreceive]
  simp only
  rw [hhandled]
  simp only
  rw [htaken, hsend]

/-- An empty loopback whose server gets a turn in time answers what the server answers,
and is empty again. -/
theorem answers {n : Nat} {turns : List Nat} (hlink : attended.link = {})
    (hturns : attended.turns = (n + 1) :: turns) {message reply : Message} {server : Server δ}
    {notes : List Note}
    (hhandled : attended.server.handleFrame kind message.encode =
      (some reply.encode, server, notes)) :
    (channel kind).Answers attended message.encode reply.encode { server, turns } := by
  let asked : Attended δ := { attended with link := { toRt := [message.encode] } }
  refine ⟨asked, fun time => ⟨time, ?_, rfl⟩, fun timeout time => ?_⟩
  · have hsend : Loopback.send .hl message.encode {} time =
        (.ok (), { toRt := [message.encode] }, time) :=
      Loopback.send_of_room rfl (Loopback.length_encode_le message) (by decide) time
    show Attended.send message.encode attended time = _
    rw [Attended.send, hlink, hsend]
  · let answered : Attended δ := { server, link := { toHl := [reply.encode] }, turns }
    have hnext : ({ asked with turns } : Attended δ).server.handleFrame kind message.encode =
        (some reply.encode, server, notes) := hhandled
    have hturn : turn kind { asked with turns } time =
        (answered, time.note Server.logTarget notes) :=
      turn_of_handled rfl (Loopback.length_encode_le reply) hnext time
    -- The first turn serves the request, and the others find nothing.
    have hattend : attend kind (n + 1) { asked with turns } time =
        (answered, time.note Server.logTarget notes) := by
      rw [attend, hturn]
      exact attend_of_nil rfl rfl kind n _
    have hprepare : asked.prepare kind time = (answered, time.note Server.logTarget notes) := by
      rw [← hattend, prepare, show asked.turns = (n + 1) :: turns from hturns]
      rfl
    show ∃ time', Attended.receive kind timeout asked time = _
    rw [Attended.receive, hprepare]
    exact ⟨_, rfl⟩

end Attended

/-! ## The server's part -/

namespace Server

variable {server : Server δ} {block : Address} {data : Block}

/-- A block that the device takes. -/
theorem handleFrame_of_written {device : δ}
    (hthere : block.toNat < kind.blockCount server.device)
    (hwrite : kind.write block data server.device = (.ok (), device)) :
    ∃ notes, server.handleFrame kind (Message.writeRequest block data).encode =
      (some (Message.writeResult block resultOk).encode,
        { server with
          device
          stats := { server.stats with writes := server.stats.writes + 1 } }, notes) := by
  rw [handleFrame, Message.decode_encode]
  simp only [handle, write, if_pos hthere, hwrite]
  exact ⟨_, rfl⟩

/-- A block that the device gives back. -/
theorem handleFrame_of_read {device : δ}
    (hthere : block.toNat < kind.blockCount server.device)
    (hread : kind.read block server.device = (.ok data, device)) :
    ∃ notes, server.handleFrame kind (Message.readRequest block).encode =
      (some (Message.readResult block data).encode,
        { server with
          device
          stats := { server.stats with reads := server.stats.reads + 1 } }, notes) := by
  rw [handleFrame, Message.decode_encode]
  simp only [handle, read, if_pos hthere, hread]
  exact ⟨_, rfl⟩

/-- A block beyond the device, which is left alone. -/
theorem handleFrame_of_write_beyond (hbeyond : ¬block.toNat < kind.blockCount server.device)
    (data : Block) :
    ∃ notes, server.handleFrame kind (Message.writeRequest block data).encode =
      (some (Message.writeResult block resultOutOfRange).encode,
        { server with
          stats :=
            { server.stats with
              writes := server.stats.writes + 1
              outOfRange := server.stats.outOfRange + 1 } }, notes) := by
  rw [handleFrame, Message.decode_encode]
  simp only [handle, write, if_neg hbeyond]
  exact ⟨_, rfl⟩

end Server

namespace SelfTest

/-! ## The probe -/

/-- The server gets a turn before each of the two receives that a run makes at most, and so
it answers before the asking side gives up. -/
def Schedule.Timely (schedule : Schedule) : Prop :=
  ∃ first second rest, schedule.turns = (first + 1) :: (second + 1) :: rest

variable {first : Nat} {rest : List Nat}

/-- On a device that takes the probe and gives it back the test succeeds: two requests were
completed. -/
theorem probeDisk_of_there (disk : RemoteDisk (Attended δ)) {second : Nat}
    (hidle : disk.session.Idle)
    (hlink : disk.session.channel.link = {})
    (hturns : disk.session.channel.turns = (first + 1) :: (second + 1) :: rest)
    {written final : δ}
    (hthere : probeBlock.toNat < kind.blockCount disk.session.channel.server.device)
    (hwrite : kind.write probeBlock probe disk.session.channel.server.device = (.ok (), written))
    (hstill : probeBlock.toNat < kind.blockCount written)
    (hread : kind.read probeBlock written = (.ok probe, final)) :
    ∃ last, probeDisk (Attended.channel kind) disk = (.ok (), last) ∧
      last.session.channel.link = {} ∧
      last.session.channel.server.device = final ∧
      last.session.channel.server.stats =
        { disk.session.channel.server.stats with
          reads := disk.session.channel.server.stats.reads + 1
          writes := disk.session.channel.server.stats.writes + 1 } ∧
      last.session.client.stats =
        (disk.session.client.stats.concluded .written).concluded (.read probe) := by
  obtain ⟨_, htaken⟩ := Server.handleFrame_of_written hthere hwrite
  have hdone : Completion.written.verdict probeBlock =
      (.ok () : Except Fault Unit).map fun _ => .written := rfl
  obtain ⟨wrote, hwrote, hidle, hafter, hcounted⟩ :=
    hidle.writeBlock (Attended.answers hlink hturns htaken) rfl rfl hdone
  have hwritten : disk.write (Attended.channel kind) probeBlock probe =
      (.ok (), { disk with session := wrote }) := by
    rw [RemoteDisk.write, hwrote]
  -- A note between the two requests changes neither the client nor the loopback.
  let noted := note s!"self-test: wrote block {probeBlock}" { disk with session := wrote }
  have hnoted : noted.session.Idle := ⟨hidle.idle, hidle.patient⟩
  have hdevice : noted.session.channel.server.device = written := congrArg (·.server.device) hafter
  obtain ⟨_, hgiven⟩ := Server.handleFrame_of_read (hdevice.symm ▸ hstill) (hdevice.symm ▸ hread)
  have hback : (Completion.read probe).verdict probeBlock =
      (.ok probe : Except Fault Block).map .read := rfl
  obtain ⟨checked, hchecked, _, hend, hcounted'⟩ :=
    hnoted.readBlock
      (Attended.answers (congrArg (·.link) hafter) (congrArg (·.turns) hafter) hgiven) rfl rfl hback
  have hmatched : noted.read (Attended.channel kind) probeBlock =
      (.ok probe, { noted with session := checked }) := by
    rw [RemoteDisk.read, hchecked]
  refine ⟨note s!"self-test: block {probeBlock} verified" { noted with session := checked }, ?_,
    congrArg (·.link) hend, congrArg (·.server.device) hend, ?_, ?_⟩
  · rw [probeDisk, hwritten]
    simp only
    rw [hmatched]
    simp only [if_true]
  · show checked.channel.server.stats = _
    rw [hend]
    show { wrote.channel.server.stats with reads := wrote.channel.server.stats.reads + 1 } = _
    rw [hafter]
  · exact hcounted'.trans (congrArg (·.concluded (.read probe)) hcounted)

/-- On a device without the probe block the test fails at its first request, and the
device is not touched. -/
theorem probeDisk_of_beyond (disk : RemoteDisk (Attended δ)) (hidle : disk.session.Idle)
    (hlink : disk.session.channel.link = {})
    (hturns : disk.session.channel.turns = (first + 1) :: rest)
    (hbeyond : ¬probeBlock.toNat < kind.blockCount disk.session.channel.server.device) :
    ∃ last, probeDisk (Attended.channel kind) disk =
        (.error ⟨"writing block 100", some "storage: block 100 failed with code -2"⟩, last) ∧
      last.session.channel.link = {} ∧
      last.session.channel.server =
        { disk.session.channel.server with
          stats :=
            { disk.session.channel.server.stats with
              writes := disk.session.channel.server.stats.writes + 1
              outOfRange := disk.session.channel.server.stats.outOfRange + 1 } } := by
  obtain ⟨_, hrefused⟩ := Server.handleFrame_of_write_beyond hbeyond probe
  have hfault : (Completion.failed resultOutOfRange).verdict probeBlock =
      (.error (.storage ⟨100, -2⟩) : Except Fault Unit).map fun _ => .written := rfl
  obtain ⟨wrote, hwrote, _, hafter, _⟩ :=
    hidle.writeBlock (Attended.answers hlink hturns hrefused) rfl rfl hfault
  have hwritten : disk.write (Attended.channel kind) probeBlock probe =
      (.error (.storage ⟨100, -2⟩), { disk with session := wrote }) := by
    rw [RemoteDisk.write, hwrote]
  refine ⟨{ disk with session := wrote }, ?_, congrArg (·.link) hafter, congrArg (·.server) hafter⟩
  rw [probeDisk, hwritten]
  rfl

/-! ## The end of a run -/

/-- When the asking side is dropped and has left nothing behind, the server does nothing
but close its device. -/
theorem server_windDown {bridge : Bridge δ} (hlink : bridge.channel.link = {})
    (hsync : ∀ device, kind.sync device = (.ok (), device)) (stopped : Bool) :
    (windDown kind ((bridge.drop .hl).service stopped)).server = bridge.channel.server := by
  generalize hservice : (bridge.drop .hl).service stopped = service
  have hserver : service.server = bridge.channel.server := by
    rw [← hservice]
    rfl
  have hlink : service.channel.link = { hlHeld := false } := by
    rw [← hservice]
    show (bridge.channel.link.drop .hl bridge.time).1 = _
    rw [hlink]
    rfl
  obtain ⟨ended, hended, hkept⟩ : ∃ ended, service.serveAll kind Drain.feed = (.ok (), ended) ∧
      ended.server = service.server := by
    cases hstopped : Drain.feed.stopped service.channel with
    | true => exact ⟨service, Service.serveAll_of_stopped hstopped, rfl⟩
    | false =>
      have hqueue : service.channel.link.queue .rt = [] := by
        rw [hlink]
        rfl
      have hclosed : service.channel.link.closed = true := by
        rw [hlink]
        rfl
      have hreceive : Drain.feed.receive servePoll service.channel service.time =
          (.error .disconnected, service.channel, service.time) := by
        show Drain.receive servePoll service.channel service.time = _
        rw [Drain.receive, Loopback.receive_of_closed hqueue hclosed]
      have hserve : service.serveNext kind Drain.feed.toChannel servePoll =
          (.error (.channel .disconnected), service) := by
        rw [Service.serveNext, hreceive]
      exact ⟨_, Service.serveAll_of_disconnected hstopped hserve, rfl⟩
  rw [windDown, hended]
  simp only [hsync]
  exact hkept.trans hserver

/-! ## A run -/

/-- The test succeeded: the client completed two requests, and the server one of each kind. -/
structure Report.Passed (report : Report) : Prop where
  failure_eq : report.failure = none
  output_eq : report.output =
    ["client: " ++ ({ requestsSent := 2, completed := 2 } : ClientCounters).write,
      "server: " ++ ({ reads := 1, writes := 1 } : ServerCounters).write]

/-- The test failed at its first write, which the storage side refused as beyond its medium. -/
structure Report.Refused (report : Report) : Prop where
  failure_eq : report.failure =
    some ⟨"writing block 100", some "storage: block 100 failed with code -2"⟩
  output_eq : report.output =
    ["server: " ++ ({ writes := 1, outOfRange := 1 } : ServerCounters).write]

/-- The asking side when the test begins: the server has said so, and waits. -/
def connected (kind : Device δ ε) (config : Config) (device : δ) (time : Timeline)
    (schedule : Schedule) : RemoteDisk (Attended δ) :=
  let bridge := Bridge.ofConfig config device time
  { session := (bridge.resume ((bridge.service false).begin kind)).schedule schedule.turns
    blockCount := config.blockCount }

variable {config : Config} {schedule : Schedule}

/-- A device that takes the probe and gives it back passes the test, whatever the
configuration. -/
theorem testDevice_of_there (kind : Device δ ε)
    (hsync : ∀ device, kind.sync device = (.ok (), device)) (hvalid : config.validate = .ok ())
    (htimely : schedule.Timely) (device : δ) {written final : δ}
    (hthere : probeBlock.toNat < kind.blockCount device)
    (hwrite : kind.write probeBlock probe device = (.ok (), written))
    (hstill : probeBlock.toNat < kind.blockCount written)
    (hread : kind.read probeBlock written = (.ok probe, final))
    (verbosity : Verbosity) (time : Timeline) :
    (testDevice kind config verbosity device time schedule).1.Passed ∧
      (testDevice kind config verbosity device time schedule).2 = final := by
  obtain ⟨first, second, rest, hturns⟩ := htimely
  obtain ⟨last, hprobe, hlink, hdevice, hserved, hcounted⟩ :=
    probeDisk_of_there (connected kind config device time schedule)
      (Session.idle_ofConfig hvalid _ _) rfl hturns hthere hwrite hstill hread
  have hended := server_windDown hlink hsync schedule.stopped
  unfold connected at hprobe
  simp only [testDevice, hprobe, hended, hserved, hcounted]
  exact ⟨⟨rfl, rfl⟩, hdevice⟩

/-- A device without the probe block fails the test and is left alone, whatever the
configuration. -/
theorem testDevice_of_beyond (kind : Device δ ε)
    (hsync : ∀ device, kind.sync device = (.ok (), device)) (hvalid : config.validate = .ok ())
    (htimely : schedule.Timely) (device : δ)
    (hbeyond : ¬probeBlock.toNat < kind.blockCount device)
    (verbosity : Verbosity) (time : Timeline) :
    (testDevice kind config verbosity device time schedule).1.Refused ∧
      (testDevice kind config verbosity device time schedule).2 = device := by
  obtain ⟨first, second, rest, hturns⟩ := htimely
  obtain ⟨last, hprobe, hlink, hserver⟩ :=
    probeDisk_of_beyond (connected kind config device time schedule)
      (Session.idle_ofConfig hvalid _ _) rfl hturns hbeyond
  have hended := server_windDown hlink hsync schedule.stopped
  unfold connected at hprobe
  simp only [testDevice, hprobe, hended, hserver]
  exact ⟨⟨rfl, rfl⟩, rfl⟩

/-! ## The command -/

/-- The command is given this configuration: in a file, or as the default without one. -/
def Configured : Option (String × HostFile) → Config → Prop
  | none, config => config = {}
  | some (_, file), config => Config.load file = .ok config

/-- The exit code tells whether the medium had the probe block. -/
theorem Report.exitCode_eq_zero_iff {report : Report} {blocks : Nat}
    (hpassed : 100 < blocks → report.Passed) (hrefused : blocks ≤ 100 → report.Refused) :
    report.exitCode = 0 ↔ 100 < blocks := by
  rcases Nat.lt_or_ge 100 blocks with hthere | hfew
  · refine iff_of_true ?_ hthere
    rw [Report.exitCode, (hpassed hthere).failure_eq]
    rfl
  · refine iff_of_false ?_ (Nat.not_lt_of_le hfew)
    rw [Report.exitCode, (hrefused hfew).failure_eq]
    exact Nat.one_ne_zero

variable {configFile : Option (String × HostFile)}

/-- Only a usable configuration can be given. -/
theorem Configured.validate_eq (h : Configured configFile config) : config.validate = .ok () := by
  rcases configFile with _ | ⟨path, file⟩
  · rw [show config = {} from h]
    rfl
  · exact Config.validate_of_load h

/-- With an image that opens, the command tests the disk of that image. -/
theorem run_of_image (hconfig : Configured configFile config) (schedule : Schedule)
    {path : String} {file : HostFile} {disk : ImageDisk}
    (hopen : ∀ time, (ImageDisk.openPath path file time).1 = .ok disk) :
    ∃ verbosity time,
      let tested := testDevice ImageDisk.device config verbosity disk time schedule
      run configFile (some (path, file)) schedule =
        { tested.1 with image := some tested.2.image } := by
  have hopened (time : Timeline) : ∃ time', ImageDisk.openPath path file time = (.ok disk, time') :=
    ⟨_, Prod.ext (hopen time) rfl⟩
  obtain ⟨time, hopened⟩ := hopened (Timeline.note logTarget [.info s!"sdbridge v{version}"] {})
  refine ⟨config.verbosity?.getD (.upTo .info), time, ?_⟩
  rcases configFile with _ | ⟨path, file⟩
  · obtain rfl : config = {} := hconfig
    simp only [run, hopened]
  · simp only [run, show Config.load file = .ok config from hconfig, hopened]

/-- Without an image the command tests a RAM disk of the configured size. -/
theorem run_of_ram (hconfig : Configured configFile config) (schedule : Schedule)
    {disk : RamDisk} (hcreate : RamDisk.create config.blockCount = .ok disk) :
    ∃ verbosity time, run configFile none schedule =
      (testDevice RamDisk.device config verbosity disk time schedule).1 := by
  refine ⟨config.verbosity?.getD (.upTo .info),
    Timeline.note logTarget [.info s!"sdbridge v{version}"] {}, ?_⟩
  rcases configFile with _ | ⟨path, file⟩
  · obtain rfl : config = {} := hconfig
    simp only [run, hcreate]
  · simp only [run, show Config.load file = .ok config from hconfig, hcreate]

/-- A run with an image. -/
theorem run_on_image (hconfig : Configured configFile config) (htimely : schedule.Timely)
    (path : String) {image : SparseFile} {blocks : Nat}
    (hlength : image.length = blocks * blockSize) (hblocks : blocks ≤ ImageDisk.maxBlocks) :
    let report := run configFile (some (path, .contents image)) schedule
    ∃ after, report.imageAfter (.contents image) = .contents after ∧
      (100 < blocks → report.Passed ∧ after.length = image.length ∧
        image.toBytes.Overwritten (blockSize * 100) probe.bytes after.toBytes) ∧
      (blocks ≤ 100 → report.Refused ∧ after = image) := by
  intro report
  let disk : ImageDisk := { image, blockCount := blocks }
  have hopen (time : Timeline) :
      (ImageDisk.openPath path (.contents image) time).1 = .ok disk := by
    have hcount : image.length / blockSize = blocks := by
      rw [hlength]
      exact Nat.mul_div_cancel _ (by decide)
    have hwhole : image.length % blockSize = 0 := by
      rw [hlength]
      exact Nat.mul_mod_left _ _
    have hfew : image.length / blockSize < UInt32.size :=
      hcount ▸ Nat.lt_of_le_pred (by decide) hblocks
    rw [ImageDisk.openPath_contents path image time hfew, if_pos hwhole, hcount]
  obtain ⟨verbosity, time, hrun⟩ := run_of_image hconfig schedule hopen
  have hreport : report = _ := hrun
  rw [hreport]
  by_cases hthere : 100 < blocks
  · have hprobe : probeBlock.toNat < disk.blockCount := hthere
    obtain ⟨written, hwrite, hkept, hend, hover, hread⟩ :=
      ImageDisk.write_then_read hprobe probe
    have hstill : probeBlock.toNat < written.blockCount := hkept.symm ▸ hprobe
    obtain ⟨hpassed, hdevice⟩ := testDevice_of_there ImageDisk.device (fun _ => rfl)
      hconfig.validate_eq htimely disk hprobe hwrite hstill hread verbosity time
    rw [hdevice]
    have hsame : written.image.length = image.length := by
      have hprobed : ImageDisk.offset probeBlock + blockSize = 101 * blockSize := by decide
      have hwithin : ImageDisk.offset probeBlock + blockSize ≤ image.length := by
        rw [hprobed, hlength]
        exact Nat.mul_le_mul_right blockSize hthere
      exact hend.trans (Nat.max_eq_left hwithin)
    exact ⟨written.image, rfl, fun _ => ⟨⟨hpassed.failure_eq, hpassed.output_eq⟩, hsame, hover⟩,
      fun hfew => absurd hthere (Nat.not_lt_of_le hfew)⟩
  · obtain ⟨hrefused, hdevice⟩ := testDevice_of_beyond ImageDisk.device (fun _ => rfl)
      hconfig.validate_eq htimely disk hthere verbosity time
    rw [hdevice]
    exact ⟨image, rfl, fun h => absurd h hthere,
      fun _ => ⟨⟨hrefused.failure_eq, hrefused.output_eq⟩, rfl⟩⟩

/-- A run without an image. -/
theorem run_on_ram (hconfig : Configured configFile config) (htimely : schedule.Timely)
    (hsize : config.blockCount.toNat ≤ RamDisk.maxBlocks) :
    ∃ disk verbosity time, RamDisk.create config.blockCount = .ok disk ∧
      let tested := testDevice RamDisk.device config verbosity disk time schedule
      run configFile none schedule = tested.1 ∧
      (100 < config.blockCount.toNat → tested.1.Passed ∧
        ∀ block, tested.2.contents block =
          if block = probeBlock then some probe else disk.contents block) ∧
      (config.blockCount.toNat ≤ 100 → tested.1.Refused ∧ tested.2 = disk) := by
  let disk : RamDisk := { blocks := List.replicate config.blockCount.toNat .zero }
  have hcreate : RamDisk.create config.blockCount = .ok disk := if_neg (Nat.not_lt_of_le hsize)
  have hcount : disk.blocks.length = config.blockCount.toNat := List.length_replicate
  obtain ⟨verbosity, time, hrun⟩ := run_of_ram hconfig schedule hcreate
  refine ⟨disk, verbosity, time, hcreate, hrun, fun hmany => ?_, fun hfew => ?_⟩
  · have hthere : probeBlock.toNat < disk.blocks.length := hcount ▸ hmany
    have hwrite := disk.write_unbroken rfl (List.getElem?_eq_getElem hthere) probe
    let written : RamDisk :=
      { disk with
        blocks := disk.blocks.set probeBlock.toNat probe
        writes := disk.writes + 1 }
    have hstill : probeBlock.toNat < written.blocks.length := by
      rw [List.length_set]
      exact hthere
    have hprobe : written.contents probeBlock = some probe := List.getElem?_set_self hthere
    have hread := written.read_unbroken rfl hprobe
    obtain ⟨hpassed, hdevice⟩ := testDevice_of_there RamDisk.device (fun _ => rfl)
      hconfig.validate_eq htimely disk hthere hwrite hstill hread verbosity time
    refine ⟨hpassed, fun block => ?_⟩
    rw [hdevice]
    show written.contents block = _
    split
    case isTrue heq => rw [heq, hprobe]
    case isFalse hne =>
      have hkept := RamDisk.contents_write_of_ne (Ne.symm hne) probe disk
      rw [hwrite] at hkept
      exact hkept
  · have hbeyond : ¬probeBlock.toNat < disk.blocks.length := hcount ▸ Nat.not_lt_of_le hfew
    exact testDevice_of_beyond RamDisk.device (fun _ => rfl) hconfig.validate_eq htimely disk
      hbeyond verbosity time

/-- The command is run with a usable configuration, and the server answers in time.  On an
image of whole blocks it succeeds exactly if there are more than a hundred of them, however
many the configuration says.  Block 100 then is the probe, no other byte of the image has
changed, and two requests are counted on either side; otherwise the first of them was
refused, no line tells of the client, and the image is the same.  Without an image it is
the same with a RAM disk of the configured size. -/
theorem touches_only_the_probe (hconfig : Configured configFile config)
    (htimely : schedule.Timely) :
    (∀ path image blocks, image.length = blocks * blockSize → blocks ≤ ImageDisk.maxBlocks →
      let report := run configFile (some (path, .contents image)) schedule
      (report.exitCode = 0 ↔ 100 < blocks) ∧
      ∃ after, report.imageAfter (.contents image) = .contents after ∧
        (100 < blocks → report.Passed ∧ after.length = image.length ∧
          image.toBytes.Overwritten (blockSize * 100) probe.bytes after.toBytes) ∧
        (blocks ≤ 100 → report.Refused ∧ after = image)) ∧
    (config.blockCount.toNat ≤ RamDisk.maxBlocks →
      let report := run configFile none schedule
      (report.exitCode = 0 ↔ 100 < config.blockCount.toNat) ∧
      ∃ disk verbosity time, RamDisk.create config.blockCount = .ok disk ∧
        let tested := testDevice RamDisk.device config verbosity disk time schedule
        report = tested.1 ∧
        (100 < config.blockCount.toNat → report.Passed ∧
          ∀ block, tested.2.contents block =
            if block = probeBlock then some probe else disk.contents block) ∧
        (config.blockCount.toNat ≤ 100 → report.Refused ∧ tested.2 = disk)) := by
  constructor
  · intro path image blocks hlength hblocks report
    obtain ⟨after, hafter, hthere, hfew⟩ := run_on_image hconfig htimely path hlength hblocks
    exact ⟨Report.exitCode_eq_zero_iff (fun h => (hthere h).1) (fun h => (hfew h).1),
      after, hafter, hthere, hfew⟩
  · intro hsize report
    obtain ⟨disk, verbosity, time, hcreate, hrun, hthere, hfew⟩ :=
      run_on_ram hconfig htimely hsize
    rw [← hrun] at hthere hfew
    exact ⟨Report.exitCode_eq_zero_iff (fun h => (hthere h).1) (fun h => (hfew h).1),
      disk, verbosity, time, hcreate, hrun, hthere, hfew⟩

/-- A configuration of five blocks.  An image of a hundred and one blocks still has the probe
block, one of a hundred has not, and nor has the RAM disk. -/
theorem touches_only_the_probe_hundred_and_one :
    let file : String × HostFile := ("bridge.json", .contents (.ofBytes "[5]".toUTF8.data.toList))
    Configured (some file) { blockCount := 5 } ∧ ({} : Schedule).Timely ∧
      (∃ after, (run (some file) (some ("card.img", .contents (.zeros 51712)))).imageAfter
            (.contents (.zeros 51712)) = .contents after ∧
        after.toBytes[51199]? = some 0 ∧ after.toBytes[51200]? = some 0xab) ∧
      (run (some file) (some ("card.img", .contents (.zeros 51200)))).exitCode ≠ 0 ∧
      (run (some file) none).output =
        ["server: " ++ ({ writes := 1, outOfRange := 1 } : ServerCounters).write] := by
  intro file
  have htext : HostFile.text? file.2 = some "[5]" := by
    rw [HostFile.text?, SparseFile.toBytes_ofBytes, Array.toArray_toList]
    exact dif_pos "[5]".isValidUTF8
  have hconfig : Configured (some file) { blockCount := 5 } := by
    show Config.load file.2 = _
    rw [Config.load, htext]
    rfl
  have htimely : ({} : Schedule).Timely := ⟨0, 0, [], rfl⟩
  obtain ⟨himage, hram⟩ := touches_only_the_probe hconfig htimely
  refine ⟨hconfig, htimely, ?_, ?_, ?_⟩
  · obtain ⟨_, after, hafter, hthere, _⟩ :=
      himage "card.img" (.zeros 51712) 101 (by decide) (by decide)
    obtain ⟨_, _, hover⟩ := hthere (by decide)
    refine ⟨after, hafter, ?_, ?_⟩
    · rw [hover.elsewhere 51199 (by rw [SparseFile.length_toBytes]; decide) (.inl (by decide)),
        SparseFile.toBytes_zeros]
      exact List.getElem?_replicate_of_lt (by decide)
    · exact hover.inside 0 (by rw [probe.length_eq]; decide)
  · obtain ⟨hexit, _⟩ := himage "card.img" (.zeros 51200) 100 (by decide) (by decide)
    exact fun hzero => absurd (hexit.mp hzero) (by decide)
  · obtain ⟨_, _, _, _, _, _, _, hfew⟩ := hram (by decide)
    exact (hfew (by decide)).1.output_eq

end SelfTest
end BlockBridge

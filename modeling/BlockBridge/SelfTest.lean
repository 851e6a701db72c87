import BlockBridge.Bridge
import BlockBridge.Config.Document
import BlockBridge.Counters.Document
import BlockBridge.Device.ImageDisk
import BlockBridge.Device.RamDisk
import BlockBridge.RemoteDisk

/-!
# The self-test

The command runs both sides of the bridge in one process, joined by a loopback,
and tests the whole way once: it writes a probe block, reads it back and
compares.  The medium is a RAM disk of the configured size, or a disk image.

Everything that the command decides is here, as a function from the files it is
given to what it prints and leaves behind.
-/

namespace BlockBridge
namespace SelfTest

/-- The name of the part that these records come from. -/
def logTarget : String := "sdbridge"

/-- The version that the command shows. -/
def version : String := "0.1.0"

/-- The block that is written and read back. -/
def probeBlock : Address := 100

/-- What is written to the probe block. -/
def probe : Block := .fill 0xab

/-- Why the command failed: what it was doing, and what came in the way. -/
structure Failure where
  task : String
  cause : Option String := none

/-- The text shown for a failure. -/
def Failure.text (failure : Failure) : String :=
  "Error: " ++ failure.task ++
    match failure.cause with
    | none => "\n"
    | some cause => "\n\nCaused by:\n    " ++ cause ++ "\n"

/-- What comes of a run of the command. -/
structure Report where
  /-- The lines printed as the result. -/
  output : List String := []
  failure : Option Failure := none
  /-- The image after the run, if it got as far as opening it. -/
  image : Option SparseFile := none
  /-- How much of the journal is shown. -/
  verbosity : Verbosity := .off
  time : Timeline := {}

/-- The exit code: zero if nothing failed. -/
def Report.exitCode (report : Report) : Nat :=
  if report.failure.isSome then 1 else 0

/-- What the path of the image names after the run, given what it named before. -/
def Report.imageAfter (report : Report) : HostFile → HostFile
  | .contents file => .contents (report.image.getD file)
  | .refused fault => .refused fault

/-- The text printed as the result. -/
def Report.outputText (report : Report) : String :=
  String.join (report.output.map (· ++ "\n"))

variable {δ ε σ : Type}

/-- Record the course of the test. -/
def note (text : String) (disk : RemoteDisk σ) : RemoteDisk σ :=
  { disk with session :=
    { disk.session with time := disk.session.time.note logTarget [.info text] } }

/-- Write the probe, read it back and compare. -/
def probeDisk (channel : Channel σ) (disk : RemoteDisk σ) :
    Except Failure Unit × RemoteDisk σ :=
  match disk.write channel probeBlock probe with
  | (.error fault, disk) => (.error ⟨s!"writing block {probeBlock}", some fault.message⟩, disk)
  | (.ok (), disk) =>
    match (note s!"self-test: wrote block {probeBlock}" disk).read channel probeBlock with
    | (.error fault, disk) => (.error ⟨s!"reading block {probeBlock}", some fault.message⟩, disk)
    | (.ok data, disk) =>
      if data = probe then
        (.ok (), note s!"self-test: block {probeBlock} verified" disk)
      else (.error ⟨s!"self-test: block {probeBlock} read back differs", none⟩, disk)

/-- How the two sides take turns in a run.  The server gets its turns before the receives
of the asking side; when the test is over, it may see the stop flag first or that the
other side is gone. -/
structure Schedule where
  /-- How many frames the server may serve before each of the next receives; one for each
  request of the test, unless told otherwise. -/
  turns : List Nat := [1, 1]
  /-- Whether the stop flag is seen first. -/
  stopped : Bool := false

/-- Record that the server ended badly. -/
def warn (text : String) (service : Service δ σ) : Service δ σ :=
  { service with time := service.time.note logTarget [.warn text] }

/-- Let the server serve what is left once the asking side is gone, and close
its device. -/
def windDown (kind : Device δ ε) (service : Service δ Drain) : Service δ Drain :=
  let ended :=
    match service.serveAll kind Drain.feed with
    | (.ok (), ended) => ended.finish
    | (.error fault, ended) => warn s!"server: stopped on error: {fault.message}" ended
  match kind.sync ended.server.device with
  | (.ok (), device) => { ended with server := { ended.server with device } }
  | (.error fault, device) =>
    warn s!"server: final sync failed: {kind.detail fault}"
      { ended with server := { ended.server with device } }

/-- Test a device through the bridge.  Gives the report, without an image, and
the device afterwards. -/
def testDevice (kind : Device δ ε) (config : Config) (verbosity : Verbosity) (device : δ)
    (time : Timeline) (schedule : Schedule := {}) : Report × δ :=
  let bridge := Bridge.ofConfig config device time
  let started := bridge.resume ((bridge.service false).begin kind)
  let (outcome, disk) := probeDisk (Attended.channel kind)
    { session := started.schedule schedule.turns, blockCount := config.blockCount }
  -- The asking side is done with its end; whatever it left behind is still served.
  let ended := windDown kind ((Bridge.drop .hl disk.session).service schedule.stopped)
  let serverLine := "server: " ++ ended.server.stats.write
  match outcome with
  | .ok () =>
    ({ output := ["client: " ++ disk.session.client.stats.write, serverLine], verbosity,
       time := ended.time }, ended.server.device)
  | .error failure =>
    ({ output := [serverLine], failure := some failure, verbosity, time := ended.time },
      ended.server.device)

/-- Run the command: `configFile` and `imageFile` are the files it was given,
each with its path. -/
def run (configFile imageFile : Option (String × HostFile)) (schedule : Schedule := {}) :
    Report :=
  let settings : Except Failure Config :=
    match configFile with
    | none => .ok {}
    | some (path, file) =>
      match Config.load file with
      | .ok config => .ok config
      | .error fault => .error ⟨s!"config {path}: {fault.message}", none⟩
  match settings with
  | .error failure => { failure := some failure }
  | .ok config =>
    -- The journal begins once it is known how much of it is shown.
    let verbosity := config.verbosity?.getD (.upTo .info)
    let time := Timeline.note logTarget [.info s!"sdbridge v{version}"] {}
    match imageFile with
    | none =>
      match RamDisk.create config.blockCount with
      | .error fault =>
        { failure := some ⟨"building RAM disk", some fault.message⟩, verbosity, time }
      | .ok disk => (testDevice RamDisk.device config verbosity disk time schedule).1
    | some (path, file) =>
      match ImageDisk.openPath path file time with
      | (.error fault, time) =>
        { failure := some ⟨s!"opening image {path}", some fault.message⟩, verbosity, time }
      | (.ok disk, time) =>
        let (report, disk) := testDevice ImageDisk.device config verbosity disk time schedule
        { report with image := some disk.image }

end SelfTest
end BlockBridge

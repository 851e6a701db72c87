import BlockBridge.Journal.Console
import BlockBridge.SelfTest

/-!
# The command

Reads the files named on the command line, runs the self-test on them, prints
its report and writes the image back.
-/

namespace BlockBridge

/-- What a path names. -/
def readHostFile (path : String) : IO HostFile := do
  try
    let bytes ← IO.FS.readBinFile path
    return .contents (.ofBytes bytes.toList)
  catch
    | .noFileOrDirectory .. => return .refused .notFound
    | .inappropriateType .. => return .refused .isDirectory
    | _ => return .refused .permissionDenied

/-- Write a file back, if the run changed it. -/
def saveHostFile (path : String) (before after : HostFile) : IO Unit :=
  match after with
  | .contents file =>
    if before = after then pure () else IO.FS.writeBinFile path ⟨file.toBytes.toArray⟩
  | .refused _ => pure ()

end BlockBridge

open BlockBridge in
/-- Usage: the path of a configuration, then the path of a disk image; both may be left out. -/
def main (args : List String) : IO UInt32 := do
  let files : List (String × HostFile) ←
    (args.take 2).mapM fun path => return (path, ← readHostFile path)
  let report := SelfTest.run files[0]? files[1]?
  IO.eprint (Console.transcript report.verbosity report.time.records)
  IO.print report.outputText
  if let some failure := report.failure then
    IO.eprint failure.text
  if let some (path, before) := files[1]? then
    saveHostFile path before (report.imageAfter before)
  return report.exitCode.toUInt32

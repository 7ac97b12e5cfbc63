import PlaybookScan.Cli.Scan
import PlaybookScan.Machine.Basic
import PlaybookScan.Machine.System

/-!
# The program

Scans the directory whose listing comes on the standard input, on a machine that holds nothing else.
-/

set_option autoImplicit false

namespace PlaybookScan

/-- The working directory of the machine. -/
def workDir : WorkingDir := ⟨⟨"/work"⟩, rfl⟩

/-- The time of all log records: the machine's clock starts at zero. -/
def startTime : String := "1970-01-01T00:00:00.000000Z"

/-- What remains of a stream. -/
partial def readRest (input : IO.FS.Stream) (read : String) : IO String := do
  let line ← input.getLine
  if line.isEmpty then return read else readRest input (read ++ line)

end PlaybookScan

open PlaybookScan

def main (args : List String) : IO UInt32 := do
  let listing ← readRest (← IO.getStdin) ""
  match Listing.parse listing with
  | .error fault =>
    IO.eprintln fault.message
    return 2
  | .ok entries =>
    let disk := Entry.disk workDir.path entries
    let machine := Machine.start disk workDir.path
    let (ending, _) :=
      Scan.invoke Machine.runner disk workDir args .unlimited startTime machine
    (← IO.getStdout).write ⟨ending.output.written⟩
    IO.eprint ending.errors
    return UInt32.ofNat ending.exitCode

import PlaybookScan.Machine.System
import PlaybookScan.Process.Runner
import PlaybookScan.Shell.Eval

/-!
# Machines

A machine is an operating system with a disk and a clock, on which scripts and the system's programs
run. A child runs to its end when it is started; what is left of it is when it ends, how it ends,
and what it has written.
-/

set_option autoImplicit false

namespace PlaybookScan

structure Machine where
  disk : Disk
  cwd : Path
  /-- Milliseconds. -/
  clock : Nat
  /-- The interrupt flag is raised. -/
  interrupted : Bool
  /-- When the flag will be raised. -/
  interruptAt : Option Nat
  /-- Places of files that are open for writing. -/
  busy : List (List String)
  nextPid : Nat

namespace Machine

/-- A machine with this disk and working directory. -/
def start (disk : Disk) (cwd : Path) : Machine where
  disk := disk
  cwd := cwd
  clock := 0
  interrupted := false
  interruptAt := none
  busy := []
  nextPid := 1000

/-- Keeps the file open for writing. -/
def holdOpen (m : Machine) (p : Path) : Machine :=
  match m.disk.locate true m.cwd p with
  | .ok (place, _) => { m with busy := place :: m.busy }
  | .error _ => m

/-- Bounds the calls and rounds of a child. -/
def fuel : Nat := 400000

/-- Exit checks that find a child running that does not end. -/
def endless : Nat := 1000000

/-- The state in which a child starts: its output goes into the first two pipes. -/
def child (m : Machine) : Shell.State where
  disk := m.disk
  pipes := #[[], []]
  inputs := #[]
  clock := m.clock
  nextPid := m.nextPid + 1
  sent := []
  pid := m.nextPid
  isSubshell := false
  ancestors := [m.nextPid - 1]
  job := 0
  cwd := m.cwd
  name := ""
  args := []
  bindings :=
    [("PATH", ":".intercalate Disk.searchPath), ("PWD", Shell.Octets.ofText m.cwd.text)].map
      fun (name, value) => (name, { Shell.Variable.blank with value := some value, exported := true })
  functions := []
  aliases := []
  hashed := []
  scan := ⟨1, none⟩
  mask := 0o022
  niceness := 0
  channels := [(0, .null), (1, .pipe 0), (2, .pipe 1)]
  broken := false
  status := 0
  jobs := []
  background := none
  depth := 0
  loops := 0
  options := []
  traps := []
  ignored := []
  saved := none
  captured := none
  line := 1
  within := ""

/-- The exit checks that find a child running which ends after so many milliseconds. -/
def polls (duration : Nat) : Nat :=
  min endless ((duration + Process.pollInterval - 1) / Process.pollInterval)

/-- Runs a program to its end. -/
def runChild (m : Machine) (p : Invocation) : Child × Machine :=
  let (flow, s) := Shell.program fuel ⟨p.program, p.args.map Shell.Octets.ofText⟩ m.child
  let pipe (n : Nat) : PipeOutcome := .delivered (Shell.Octets.bytes (s.pipeText n))
  let ended : Child :=
    { pid := m.nextPid
      runningPolls := if flow = .stalled then endless else polls (s.clock - m.clock)
      status := .ok (match flow with
        | .signalled n => .signalled n
        | _ => .exited (s.status % 256))
      stdout := pipe 0
      stderr := pipe 1 }
  (ended, { m with disk := s.disk, nextPid := s.nextPid })

def spawn (argv : List String) (m : Machine) : Except IoError Child × Machine :=
  match m.disk.execute m.busy.contains m.cwd Disk.searchPath argv with
  | .error e => (.error e, m)
  | .ok p =>
    let (ended, m) := m.runChild p
    (.ok ended, m)

/-- The flag as it is now. -/
def flag (m : Machine) : Bool := m.interrupted || m.interruptAt.any (· ≤ m.clock)

def operatingSystem : OperatingSystem Machine where
  spawn := spawn
  interrupted m := (m.flag, { m with interrupted := m.flag })
  sleep n m := { m with clock := m.clock + n }
  kill _ m := m

/-- Runs a command line and adds its output to the sinks. -/
def run (argv : List String) (sinks : Sinks) (m : Machine) :
    Logged (Except LintError Int × Sinks) × Machine :=
  Process.run operatingSystem argv sinks m

/-- Runs command lines on the machine. -/
def runner : Runner Machine := Process.runner operatingSystem

end Machine

end PlaybookScan

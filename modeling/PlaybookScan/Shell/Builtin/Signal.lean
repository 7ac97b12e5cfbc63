import PlaybookScan.Shell.Arithmetic
import PlaybookScan.Shell.Builtin.Basic

/-!
# Signals and background jobs
-/

set_option autoImplicit false

namespace PlaybookScan.Shell.Builtin

def signalNames : List (String × Nat) :=
  [("EXIT", 0), ("HUP", 1), ("INT", 2), ("QUIT", 3), ("ILL", 4), ("TRAP", 5), ("ABRT", 6),
    ("BUS", 7), ("FPE", 8), ("KILL", 9), ("USR1", 10), ("SEGV", 11), ("USR2", 12), ("PIPE", 13),
    ("ALRM", 14), ("TERM", 15), ("CHLD", 17), ("CONT", 18), ("STOP", 19), ("TSTP", 20),
    ("TTIN", 21), ("TTOU", 22), ("URG", 23), ("XCPU", 24), ("XFSZ", 25), ("VTALRM", 26),
    ("PROF", 27), ("WINCH", 28), ("IO", 29), ("PWR", 30), ("SYS", 31), ("RTMIN", 34),
    ("RTMAX", 64)]

/-- The number of the last signal. -/
def lastSignal : Nat := 64

/-- The name of a signal, or its number if it has none. -/
def signalName (number : Nat) : String :=
  match signalNames.find? (·.2 == number) with
  | some (name, _) => name
  | none =>
    if 34 < number ∧ number < 50 then "RTMIN+" ++ toString (number - 34)
    else if 50 ≤ number ∧ number < 64 then "RTMAX-" ++ toString (64 - number)
    else toString number

/-- The number of a signal that is given by number or name. -/
def signal? (text : String) : Option Nat :=
  match count? text with
  | some n => if n ≤ lastSignal then some n else none
  | none =>
    let name := text.map Char.toUpper
    (List.range (lastSignal + 1)).find? fun n =>
      signalName n == name && !name.toList.all Char.isDigit

/-- What a shell says of a command that a signal killed. -/
def deathNotice (number : Nat) : String :=
  match number with
  | 1 => "Hangup"
  | 3 => "Quit"
  | 4 => "Illegal instruction"
  | 5 => "Trace/breakpoint trap"
  | 6 => "Aborted"
  | 7 => "Bus error"
  | 8 => "Floating point exception"
  | 9 => "Killed"
  | 10 => "User defined signal 1"
  | 11 => "Segmentation fault"
  | 12 => "User defined signal 2"
  | 14 => "Alarm clock"
  | 15 => "Terminated"
  | 16 => "Stack fault"
  | 24 => "CPU time limit exceeded"
  | 25 => "File size limit exceeded"
  | 26 => "Virtual timer expired"
  | 27 => "Profiling timer expired"
  | 29 => "I/O possible"
  | 30 => "Power failure"
  | 31 => "Bad system call"
  | n => if 34 ≤ n then "Real-time signal " ++ toString (n - 34) else "Signal " ++ toString n

/-- Signals that do nothing unless a command is set for them. -/
def isHarmless (number : Nat) : Bool := [0, 17, 18, 23, 28].contains number

/-- Signals that stop a process. -/
def isStopping (number : Nat) : Bool := [19, 20, 21, 22].contains number

/-- Reports that a signal killed a command. -/
def notify (s : State) (signal : Option Nat) : State :=
  match signal with
  | some n => if n = 2 ∨ n = 13 then s else s.complain (deathNotice n)
  | none => s

/-! ## Sending -/

/-- Ends a job. -/
def killJob (s : State) (pid signal : Nat) : State :=
  if isHarmless signal || isStopping signal then s
  else
    let end_ (job : Job) : Job :=
      if job.pid == pid && s.clock < job.endsAt then ⟨pid, s.clock, 128 + signal, some signal⟩
      else job
    { s.silence pid with jobs := s.jobs.map end_ }

/-- Complains of a process that does not exist. -/
def noSuchProcess (s : State) : State :=
  { { s with within := "" }.report "kill: No such process\n" with status := 1, within := s.within }

/-- The number of a process; a hyphen asks for the processes around it. -/
def process? (target : String) : Except String Nat :=
  let digits := if target.startsWith "-" then String.ofList (target.toList.drop 1) else target
  match number? digits with
  | some n => .ok n
  | none => .error ("Illegal number: " ++ digits)

/-- Sends a signal to processes, to the shell itself last. -/
def send (signal : Nat) : Builtin := fun targets s =>
  let sendOne := fun ((self, s) : Bool × State) (target : String) => do
    if target.startsWith "%" then
      if ["%%", "%+", "%"].contains target ∨
          (count? (String.ofList (target.toList.drop 1))).any fun n =>
            0 < n && n ≤ s.jobs.length then
        return (self, noSuchProcess s)
      else throw ("No such job: " ++ target)
    let pid ← process? target
    if pid = s.pid ∨ pid = 0 then
      if s.isSubshell then return (self, { s with sent := ⟨s.clock, s.pid, signal⟩ :: s.sent })
      else return (true, s)
    else if s.jobs.any (·.pid == pid) then
      let s := killJob s pid signal
      return (self, s)
    else if s.ancestors.contains pid then
      return (self, { s with sent := ⟨s.clock, pid, signal⟩ :: s.sent })
    else return (self, noSuchProcess s)
  match targets.foldlM sendOne (false, { s with status := 0 }) with
  | .ok (self, s) => if self && !isHarmless signal then (.signalled signal, s) else (.next, s)
  | .error message => fail "kill" message s

def killUsage : String :=
  "Usage: kill [-s sigspec | -signum | -sigspec] [pid | job]... or\nkill -l [exitstatus]"

/-- Lists the signals, or the one that a status tells of. -/
def listSignals : Builtin := fun args s =>
  match args with
  | [] =>
    let names := "0" :: (List.range lastSignal).map fun n => signalName (n + 1)
    done 0 (s.writeText 1 (String.join (names.map (· ++ "\n"))))
  | status :: _ =>
    match number? status with
    | none => fail "kill" ("Illegal number: " ++ status) s
    | some n =>
      let n := if 128 < n then n - 128 else n
      if 0 < n ∧ n ≤ lastSignal then done 0 (s.writeText 1 (signalName n ++ "\n"))
      else fail "kill" ("invalid signal number or exit status: " ++ status) s

def kill : Builtin := fun args s =>
  let sendTo (signal : Nat) (targets : List String) : Flow × State :=
    if targets = [] then fail "kill" killUsage s else send signal targets s
  match args with
  | [] => fail "kill" killUsage s
  | first :: rest =>
    match first.toList with
    | '-' :: name =>
      match signal? (String.ofList name) with
      | some n => sendTo n rest
      | none =>
        match scan "ls:".toList args.length args with
        | .error message => fail "kill" message s
        | .ok (options, rest) =>
          if options.any (·.1 == 'l') then listSignals rest s
          else match options.lookup 's' with
            | none => sendTo 15 rest
            | some name =>
              match signal? name with
              | some n => sendTo n rest
              | none => fail "kill" ("invalid signal number or name: " ++ name) s
    | _ => sendTo 15 args

/-! ## Receiving -/

/-- The first signal that has been sent to this shell by now. -/
def received? (s : State) : Option (Nat × State) :=
  let mine (t : Sent) : Bool := t.pid == s.pid && t.time ≤ s.clock
  if s.isSubshell then none
  else match s.sent.reverse.find? mine with
    | none => none
    | some t =>
      let others := s.sent.reverse.eraseP mine
      some (t.signal, { s with sent := others.reverse })

/-- Sets the command of a signal, or takes it away. -/
def setTrap (s : State) (action : Option String) (number : Nat) : State :=
  let name := signalName number
  let others := s.traps.filter (·.1 != name)
  { s with traps := match action with
      | some action => (name, action) :: others
      | none => others }

/-- Sets or takes away the commands of signals, up to one that is none. -/
def setTraps (action : Option String) : List String → State → Flow × State
  | [], s => done 0 s
  | text :: signals, s =>
    match signal? text with
    | none => done 1 (s.complain ("trap: " ++ text ++ ": bad trap"))
    | some n =>
      let action := if action = some "-" then none else action
      setTraps action signals (setTrap s action n)

def listTraps (s : State) : State :=
  let line (n : Nat) : String :=
    match s.traps.lookup (signalName n) with
    | some action => "trap -- " ++ singleQuoted action ++ " " ++ signalName n ++ "\n"
    | none => ""
  s.writeText 1 (String.join ((List.range (lastSignal + 1)).map line))

def trap : Builtin := withOptions "trap" "" fun _ args s =>
  match args with
  | [] => done 0 (listTraps s)
  | [only] => setTraps none [only] s
  | first :: rest =>
    if (count? first).isSome ∧ (signal? first).isSome then setTraps none args s
    else setTraps (some first) rest s

/-! ## Background jobs -/

/-- The job of this number, counted from the oldest. -/
def numbered? (s : State) (n : Nat) : Option Job :=
  if n = 0 then none else s.jobs.reverse[n - 1]?

/-- The job that a text behind a percent sign names. -/
def job? (s : State) (text : String) : Except String Job :=
  let found := match text with
    | "%" | "%%" | "%+" => s.jobs.head?
    | "%-" => s.jobs[1]?
    | text => (count? (String.ofList (text.toList.drop 1))).bind (numbered? s)
  match found with
  | some job => .ok job
  | none => .error ("No such job: " ++ text)

/-- Lets time pass until a job has ended, or until a signal comes. -/
def awaitJob (s : State) (job : Job) : State :=
  let signals := (s.sent.filter (·.pid == s.pid)).map Sent.time
  let until_ := signals.foldl min job.endsAt
  { s with clock := max s.clock until_ }

def waitFor (s : State) (name : String) : Except String (Nat × State) := do
  let job ← if name.startsWith "%" then (job? s name).map some
    else match number? name with
      | some pid => pure (s.jobs.find? (·.pid == pid))
      | none => throw ("Illegal number: " ++ name)
  match job with
  | none => return (127, s)
  | some job =>
    let s := awaitJob s job
    return (job.status, notify s job.signal)

def wait : Builtin := withOptions "wait" "" fun _ args s =>
  if args = [] then done 0 (s.jobs.foldl awaitJob s)
  else match args.foldlM (fun (_, s) name => waitFor s name) (127, s) with
    | .ok (status, s) => done status s
    | .error message => fail "wait" message s

/-- Lists the jobs from the latest on. Those that have ended are forgotten. -/
def jobs : Builtin := withOptions "jobs" "lp" fun options _ s =>
  let describe (job : Job) : String :=
    if s.clock < job.endsAt then "Running"
    else match job.signal with
      | some n => deathNotice n
      | none => if job.status = 0 then "Done" else "Done(" ++ toString job.status ++ ")"
  let line := fun ((shown, text) : Nat × String) ((n, job) : Nat × Job) =>
    let running := s.clock < job.endsAt
    let sign := match shown with
      | 0 => "+"
      | 1 => "-"
      | _ => " "
    let lead := "[" ++ toString n ++ "] " ++ sign ++ " "
    let lead := if options.contains 'l' then lead ++ toString job.pid ++ " " else lead
    let row := lead ++ describe job
    let row := if options.contains 'p' then toString job.pid
      else row ++ "".pushn ' ' (max 1 (33 - row.length))
    (if running then shown + 1 else shown, text ++ row ++ "\n")
  let numbers := ((List.range s.jobs.length).map (· + 1)).reverse
  let (_, text) := (numbers.zip s.jobs).foldl line (0, "")
  done 0 { s.writeText 1 text with jobs := s.jobs.filter (s.clock < ·.endsAt) }

/-- Moves jobs between foreground and background, which only a terminal can ask for. -/
def moveJob (name : String) : Builtin := fun args s =>
  let found : Except String Job := match args with
    | [] => match s.jobs with
      | [] => .error "No current job"
      | job :: _ => .ok job
    | text :: _ => job? s text
  match found with
  | .error message => fail name message s
  | .ok _ =>
    fail name ("job " ++ args.headD "(null)" ++ " not created under job control") s

end PlaybookScan.Shell.Builtin

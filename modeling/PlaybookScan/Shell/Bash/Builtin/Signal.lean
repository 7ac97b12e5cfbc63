import PlaybookScan.Shell.Bash.Builtin.Options
import PlaybookScan.Shell.Bash.Builtin.Names
import PlaybookScan.Shell.Builtin.Signal

/-!
# Signals and jobs of the large shell
-/

set_option autoImplicit false

namespace PlaybookScan.Shell.Bash.Builtin

/-! ## Traps -/

/-- Events besides signals that a command can be set for, in the order of lists behind signals. -/
def eventNames : List String := ["DEBUG", "ERR", "RETURN"]

/-- The number of a signal, by its number or its name, which may have more in front. -/
def signal? (text : String) : Option Nat :=
  let upper := text.map Char.toUpper
  Shell.Builtin.signal? (if upper.startsWith "SIG" then (upper.drop 3).toString else upper)

/-- The name under which the command of a signal or an event is kept. -/
def trapName? (text : String) : Option String :=
  let upper := text.map Char.toUpper
  if eventNames.contains upper then some upper
  else (signal? text).map Shell.Builtin.signalName

/-- The names that can have a command, in the order of lists. -/
def trapNames : List String :=
  (List.range (Shell.Builtin.lastSignal + 1)).map Shell.Builtin.signalName ++ eventNames

/-- The name of a signal in lists. -/
def shownSignal (name : String) : String :=
  if name = "EXIT" ∨ eventNames.contains name then name else "SIG" ++ name

def trapLine (name action : String) : String :=
  "trap -- " ++ singleQuoted action ++ " " ++ shownSignal name

/-- All signals with their numbers, five in a row. -/
def signalTable : String :=
  let numbers := ((List.range Shell.Builtin.lastSignal).map (· + 1)).filter fun n =>
    n ≠ 32 ∧ n ≠ 33
  let cell (n : Nat) : String :=
    (if n < 10 then " " else "") ++ toString n ++ ") SIG" ++
      if n = 16 then "STKFLT" else Shell.Builtin.signalName n
  String.join (((List.range numbers.length).zip numbers).map fun (i, n) =>
    cell n ++ if (i + 1) % 5 = 0 ∨ i + 1 = numbers.length then "\n" else "\t")

/-- Sets the command of a signal or an event, or takes it away. -/
def setTrap (action : Option String) (name : String) : Act Unit :=
  onState fun s =>
    let others := s.traps.filter (·.1 != name)
    { s with traps := match action with
        | some action => (name, action) :: others
        | none => others }

def wrongSignal (name text : String) : Act Nat :=
  fail 1 name (text ++ ": invalid signal specification")

def trap : Builtin := withOptions "trap" "lp" fun o args => do
  if o.has 'l' then
    write signalTable
    return 0
  let s ← get
  if o.has 'p' ∨ args = [] then
    let chosen ← args.mapM fun text => do
      match trapName? text with
      | some name => return some name
      | none =>
        discard <| wrongSignal "trap" text
        return none
    let names := if args = [] then trapNames else chosen.filterMap id
    names.forM fun name => (s.traps.lookup name).forM fun action => writeLine (trapLine name action)
    return statusOf (chosen.all Option.isSome)
  let isNumber (text : String) : Bool := text ≠ "" && text.toList.all Char.isDigit
  let first := args.headD ""
  let (action, names) : Option String × List String :=
    if (isNumber first && (trapName? first).isSome) || (args.length = 1 && (trapName? first).isSome)
    then (none, args)
    else (if first = "-" then none else some first, args.tail)
  if names = [] then return ← usage "trap"
  names.foldlM (fun status text => do
    match trapName? text with
    | some name =>
      setTrap action name
      return status
    | none => wrongSignal "trap" text) 0

/-! ## Sending -/

/-- The job of this number. -/
def numbered? (s : Session) (n : Nat) : Option Job :=
  Shell.Builtin.numbered? s.toState n

/-- The job that a text behind a percent sign names. -/
def job? (s : Session) (text : String) : Option Job :=
  match text with
  | "%" | "%%" | "%+" => s.jobs.head?
  | "%-" => s.jobs[1]?
  | text =>
    let name := (text.drop 1).toString
    if name ≠ "" ∧ name.toList.all Char.isDigit then numbered? s (name.toNat?.getD 0)
    else s.jobs.find? fun job => ((s.jobTexts.lookup job.pid).getD "").startsWith name

/-- Sends a signal to a process. -/
def sendOne (signal : Nat) (target : String) : Act Nat := do
  let s ← get
  let missing (pid : String) : Act Nat := fail 1 "kill" ("(" ++ pid ++ ") - No such process")
  if target.startsWith "%" then
    match job? s target with
    | none => fail 1 "kill" (target ++ ": no such job")
    | some job =>
      onState fun s => Shell.Builtin.killJob s job.pid signal
      return 0
  else
    match integer? target with
    | none => fail 1 "kill" (target ++ ": arguments must be process or job IDs")
    | some n =>
      let pid := n.natAbs
      if pid = s.own ∨ pid = 0 then
        if signal ≠ 0 then throw (.signalled signal)
        return 0
      else if s.jobs.any (·.pid == pid) then
        onState fun s => Shell.Builtin.killJob s pid signal
        return 0
      else if pid = s.pid ∨ s.ancestors.contains pid then
        if signal ≠ 0 then
          onState fun s => { s with sent := ⟨s.clock, pid, signal⟩ :: s.sent }
        return 0
      else missing (toString n)

/-- Sends a signal to processes; succeeds if one of them got it. The shell itself is last. -/
def send (signal : Nat) (targets : List String) : Act Nat := do
  let s ← get
  let isSelf (target : String) : Bool := integer? target == some (s.own : Int)
  let others := targets.filter (!isSelf ·)
  let found ← others.mapM (sendOne signal)
  let last ← (targets.filter isSelf).mapM (sendOne signal)
  return statusOf ((found ++ last).any (· == 0))

/-- Names the signals of numbers or statuses, and numbers those of names. -/
def nameSignals (args : List String) : Act Nat := do
  if args.isEmpty then
    write signalTable
    return 0
  args.foldlM (fun status text => do
    match integer? text with
    | some n =>
      let n := if 128 < n then n - 128 else n
      if 0 ≤ n ∧ n ≤ Shell.Builtin.lastSignal then
        writeLine (Shell.Builtin.signalName n.toNat)
        return status
      wrongSignal "kill" text
    | none =>
      match signal? text with
      | some n =>
        writeLine (toString n)
        return status
      | none => wrongSignal "kill" text) 0

def kill : Builtin := fun args => do
  let to_ (text : String) (targets : List String) : Act Nat := do
    match signal? text with
    | none => wrongSignal "kill" text
    | some n =>
      let targets := unmarked targets
      if targets.isEmpty then usage "kill" else send n targets
  match args with
  | [] => usage "kill"
  | "-l" :: rest | "-L" :: rest => nameSignals rest
  | "-s" :: rest | "-n" :: rest =>
    match rest with
    | [] => fail 1 "kill" (args.headD "" ++ ": option requires an argument")
    | text :: targets => to_ text targets
  | first :: rest =>
    match first.toList with
    | ['-', '-'] => if rest.isEmpty then usage "kill" else send 15 rest
    | '-' :: 's' :: c :: cs =>
      if (signal? (String.ofList ('s' :: c :: cs))).isSome then
        to_ (String.ofList ('s' :: c :: cs)) rest
      else to_ (String.ofList (c :: cs)) rest
    | '-' :: name => to_ (String.ofList name) rest
    | _ => send 15 args

/-! ## Jobs -/

/-- The line in which a job that a signal killed is told of. -/
def killedLine (pid signal : Nat) (text : String) : String :=
  let number := toString pid
  let what := Shell.Builtin.deathNotice signal
  "".pushn ' ' (5 - number.length) ++ number ++ " " ++ what ++ "".pushn ' ' (24 - what.length) ++ text

/-- Tells of a process that a signal killed. -/
def notify (foreground : Bool) (pid signal : Nat) (text : String) : Act Unit := do
  if signal = 2 ∨ signal = 13 then return
  if signal = 15 then
    if foreground then onState (·.complain "Terminated")
  else report (killedLine pid signal text)

/-- Waits for a job, and forgets it. -/
def awaitJob (job : Job) : Act Nat := do
  onState fun s => Shell.Builtin.awaitJob s job
  let s ← get
  if job.endsAt ≤ s.clock then
    onState fun s => { s with jobs := s.jobs.filter (·.pid != job.pid) }
    modify fun s => { s with reaped := (job.pid, job.status) :: s.reaped }
    job.signal.forM fun n => notify false job.pid n ((s.jobTexts.lookup job.pid).getD "")
  return job.status

def wait : Builtin := withOptions "wait" "fnp:" fun o args => do
  let s ← get
  if args.isEmpty then
    if o.has 'n' then
      let running := s.jobs.mergeSort fun a b => a.endsAt ≤ b.endsAt
      match running with
      | [] => return 127
      | job :: _ => return ← awaitJob job
    s.jobs.forM fun job => do discard <| awaitJob job
    return 0
  args.foldlM (fun _ text => do
    let s ← get
    if text.startsWith "%" then
      match job? s text with
      | some job => awaitJob job
      | none => fail 127 "wait" (text ++ ": no such job")
    else match integer? text with
      | some n =>
        match s.jobs.find? fun job => (job.pid : Int) = n with
        | some job => awaitJob job
        | none =>
          match s.reaped.lookup n.toNat with
          | some status => return status
          | none =>
            fail 127 "wait" ("pid " ++ text ++ " is not a child of this shell")
      | none => fail 1 "wait" ("\x60" ++ text ++ "': not a pid or valid job spec")) 0

/-- The line of a job in a list. -/
def jobLine (s : Session) (o : Options) (n : Nat) (job : Job) : String :=
  if o.has 'p' then toString job.pid
  else
    let mark := if s.jobs.head?.any (·.pid == job.pid) then "+"
      else if (s.jobs[1]?).any (·.pid == job.pid) then "-" else " "
    let running := s.clock < job.endsAt
    let state := if running then "Running"
      else match job.signal with
        | some signal => Shell.Builtin.deathNotice signal
        | none => if job.status = 0 then "Done" else "Exit " ++ toString job.status
    "[" ++ toString n ++ "]" ++ mark ++ " " ++ (if o.has 'l' then toString job.pid else "") ++ " " ++
      state ++ "".pushn ' ' (24 - state.length) ++ (s.jobTexts.lookup job.pid).getD "" ++
      if running then " &" else ""

def jobs : Builtin := withOptions "jobs" "lpnrs" fun o args => do
  let s ← get
  if o.has 's' then return 0
  let numbered := (((List.range s.jobs.length).map (· + 1)).reverse.zip s.jobs).reverse
  let chosen ← if args.isEmpty then pure (numbered.filter fun (_, job) =>
      s.clock < job.endsAt ∨ !o.has 'r')
    else do
      let found ← args.mapM fun text => do
        match job? s (if text.startsWith "%" then text else "%" ++ text) with
        | some job => return numbered.filter fun (_, other) => other.pid == job.pid
        | none =>
          complain "jobs" (text ++ ": no such job")
          return []
      pure found.flatten
  chosen.forM fun (n, job) => writeLine (jobLine s o n job)
  onState fun s => { s with jobs := s.jobs.filter (s.clock < ·.endsAt) }
  return statusOf (args.isEmpty || !chosen.isEmpty)

/-- Forgets jobs without waiting for them. -/
def disown : Builtin := withOptions "disown" "ahr" fun o args => do
  if o.has 'a' || o.has 'r' then
    onState fun s => { s with jobs := [] }
    return 0
  let forgetJob (shown : String) (job : Option Job) : Act Nat := do
    match job with
    | none => fail 1 "disown" (shown ++ ": no such job")
    | some job =>
      onState fun s => { s with jobs := s.jobs.filter (·.pid != job.pid) }
      return 0
  let s ← get
  if args.isEmpty then forgetJob "current" s.jobs.head?
  else args.foldlM (fun status text => do
    let job := if text.startsWith "%" then job? s text
      else s.jobs.find? fun job => integer? text == some (job.pid : Int)
    return max status (← forgetJob text job)) 0

/-- A command that needs a terminal. -/
def refused (name message : String) : Builtin := fun _ => fail 1 name message

end PlaybookScan.Shell.Bash.Builtin

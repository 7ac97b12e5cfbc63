import PlaybookScan.Shell.Bash.Interpreter

/-!
# Events

Commands can be set for events: the end of a shell, the failure of a command, a signal. While one is
being run, what it is set for does not run it again.
-/

set_option autoImplicit false

namespace PlaybookScan.Shell.Bash.Interpreter

/-- Runs the command that is set for an event. It leaves no status. -/
def event (e : Interpreter) (name : String) : Act Unit := do
  let s ← get
  if s.trapped.contains name then return
  match s.traps.lookup name with
  | none | some "" => return
  | some action =>
    modify fun s => { s with trapped := name :: s.trapped }
    let result ← attempt (e.text (name.map Char.toLower ++ " trap: ") action.toList s.line)
    modify fun t => { t with trapped := s.trapped }
    discard <| conclude result
    modify fun t => { t with status := s.status, stages := s.stages }

/-- What follows from the failure of a command, unless its status is `tested`. The command for
failures has to be set before it, which is `watched`. -/
def checked (e : Interpreter) (tested watched : Bool) : Act Unit := do
  if (← get).status ≠ 0 && !tested then
    if watched then e.event "ERR"
    if (← get).has 'e' then throw .exit

/-- Acts, and then runs the command that is set for the end of the shell. -/
def finish (e : Interpreter) (act : Act Unit) : Act Unit := do
  let stop : Stop := match ← attempt act with
    | .error (.signalled n) => .signalled n
    | .error .stalled => .stalled
    | _ => .exit
  let s ← get
  match stop, s.traps.lookup "EXIT" with
  | .stalled, _ | .signalled 9, _ | _, none | _, some "" => throw stop
  | stop, some action =>
    modify fun s => { s with
      toState := { s.toState with
        traps := s.traps.filter (·.1 != "EXIT"), line := 1, loops := 0 } }
    match ← attempt (e.text "exit trap: " action.toList 1) with
    | .error .exit => throw stop
    | .error .stalled => throw .stalled
    | .error (.signalled n) => throw (.signalled n)
    | _ =>
      setStatus s.status
      throw stop

/-- Lets the shell get a signal. -/
def deliver (e : Interpreter) (signal : Nat) : Act Unit := do
  let s ← get
  let name := Shell.Builtin.signalName signal
  if signal = 9 ∨ signal = 19 then throw (.signalled signal)
  if s.ignored.contains name then return
  match s.traps.lookup name with
  | some "" => return
  | some action =>
    discard <| e.text "trap: " action.toList s.line
    modify fun t => { t with status := s.status, stages := s.stages }
  | none =>
    if Shell.Builtin.isHarmless signal then return
    if Shell.Builtin.isStopping signal then throw .stalled
    throw (.signalled signal)

/-- Lets the shell get at most so many signals that were sent to it while it ran a command. -/
def receive (e : Interpreter) : Nat → Act Unit
  | 0 => throw .stalled
  | rounds + 1 => do
    match Shell.Builtin.received? (← get).toState with
    | none => return
    | some (n, t) =>
      onState fun _ => t
      e.deliver n
      e.receive rounds

/-- Lets the shell get the signals that were sent to it while it ran a command. -/
def settle (e : Interpreter) : Act Unit := e.receive e.rounds

end PlaybookScan.Shell.Bash.Interpreter

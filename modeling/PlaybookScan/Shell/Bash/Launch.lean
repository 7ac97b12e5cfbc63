import PlaybookScan.Shell.Bash.Substitution

/-!
# Running programs from the large shell
-/

set_option autoImplicit false

namespace PlaybookScan.Shell.Bash

/-- The process of a program at a path; it takes the place of the shell if it `replaces` it. -/
def Session.programProcess (s : Session) (replaces : Bool) (first : List String) (path : String) :
    State :=
  let bindings := s.programBindings first path
  if replaces then
    let level := (((s.text? "SHLVL").bind Builtin.integer?).getD 1) - 1
    { s.toState.fork with
      bindings := bindings.map fun (x, v) =>
        (x, if x = "SHLVL" then { v with value := some (toString level) } else v)
      pid := s.own
      nextPid := s.nextPid
      ancestors := s.ancestors }
  else
    { s.toState.fork with
      bindings
      pid := s.nextPid
      nextPid := s.nextPid + 1
      ancestors := s.own :: s.ancestors }

/-- Notes how often a program was run that was looked for. -/
def noteHit (name path : String) : Act Unit :=
  modify fun s =>
    let count := (s.hits.lookup name).getD 0
    { s with
      toState := { s.toState with
        hashed := if (s.hashed.lookup name).isSome then s.hashed else (name, path) :: s.hashed }
      hits := (name, count + 1) :: s.hits.filter (·.1 != name) }

/-- Ends a program that was run in the place of the shell, or notes how it ended. -/
def concludeProgram (replaces : Bool) (pid : Nat) : Flow → Act Unit
  | .stalled => throw .stalled
  | .signalled n => do
    if replaces then throw (.signalled n)
    setStatus (128 + n)
    Builtin.notify true pid n (((← get).current.map Command.shown).getD "")
  | _ => do
    if replaces then
      onState fun s => { s with traps := [] }
      throw .exit

/-- Tells why a program is not run in the place of the shell, which ends. -/
def failExec (message : String) (status : Nat) : Act Unit := do
  report message
  setStatus status
  if !(← get).enables "execfail" then throw .exit

namespace Interpreter

/-- Runs what is at a path as a process of its own. -/
def spawn (replaces : Bool) (first : List String) (path : String)
    (program : State → Flow × State) : Act Unit := do
  let s ← get
  let process := s.programProcess replaces first path
  let (flow, t) := program process
  onState fun s => { s.resume t with status := t.status % 256 }
  concludeProgram replaces process.pid flow

/-- Runs the program at a path under the name `shown`. -/
def launchAt (e : Interpreter) (replaces : Bool) (shown : String) (first : List String)
    (path : String) (args : List String) : Act Unit := do
  let s ← get
  match s.toState.lookUp path with
  | .ok p =>
    let own := if p.args = [Octets.toText path] then [shown] else p.args.map Octets.ofText
    spawn replaces first path (e.program ⟨p.program, own ++ args⟩)
  | .error .notExecutableFormat =>
    let content := match s.disk.read s.cwd (State.path path) with
      | .ok content => Octets.ofBytes content
      | .error _ => []
    if isBinary content then
      let message := path ++ ": cannot execute binary file: Exec format error"
      if replaces then failExec message 126
      else
        report message
        setStatus 126
    else spawn replaces first path (e.shell ("bash" :: path :: args))
  | .error fault =>
    let (message, status) := startFault s path fault
    if replaces then
      if status = 126 then
        report message
        let cause := if s.disk.isDirectory s.cwd (State.path path) then "Is a directory"
          else Utility.cause fault
        failExec ("exec: " ++ path ++ ": cannot execute: " ++ cause) 126
      else failExec message status
    else
      report message
      setStatus status

/-- Runs the program of this name in the place of the shell, and calls it `shown`. -/
def exec (e : Interpreter) (shown : String) (first : List String) (name : String)
    (args : List String) : Act Unit := do
  let s ← get
  match programPlace s false name with
  | .error (message, status) =>
    let message := if message.endsWith "command not found" then name ++ ": not found" else message
    failExec ("exec: " ++ message) status
  | .ok path =>
    let path := if path.startsWith "/" then path
      else Octets.ofText (s.cwd.join (State.path path)).text
    e.launchAt true shown first path args

/-- Runs the program of this name, or the function for names without program. -/
def launch (e : Interpreter) (standard : Bool) (first : List String) (name : String)
    (args : List String) : Act Unit := do
  let s ← get
  match programPlace s standard name with
  | .ok path =>
    if !name.contains '/' && s.has 'h' then noteHit name path
    e.launchAt false name first path args
  | .error (message, status) =>
    match s.routines.lookup "command_not_found_handle" with
    | some routine =>
      inCall "command_not_found_handle" routine (name :: args) [] (e.run false routine.body)
    | none =>
      report message
      setStatus status

end Interpreter

end PlaybookScan.Shell.Bash

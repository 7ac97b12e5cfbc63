import PlaybookScan.Shell.Bash.Builtin.Table
import PlaybookScan.Shell.Bash.Redirection
import PlaybookScan.Shell.Launch

/-!
# Processes and calls of the large shell

What begins and ends with a subshell, a call of a function, a loop or a program.
-/

set_option autoImplicit false

namespace PlaybookScan.Shell.Bash

/-- Acts, and tells how that ended. -/
def attempt {α : Type} (act : Act α) : Act (Except Stop α) := ExceptT.lift (ExceptT.run act)

/-- Ends as an action ended. -/
def conclude {α : Type} : Except Stop α → Act α
  | .ok a => return a
  | .error stop => throw stop

/-! ## Subshells -/

/-- The session in which a subshell starts. -/
def Session.subshell (s : Session) : Session :=
  let stays := fun ((name, action) : String × String) =>
    action == "" || (name == "ERR" && s.has 'E') ||
      ((name == "DEBUG" || name == "RETURN") && s.has 'T')
  { s with
    toState := { s.toState with
      traps := s.traps.filter stays
      jobs := []
      isSubshell := true
      loops := 0
      ancestors := if s.level = 0 then s.ancestors else s.own :: s.ancestors
      nextPid := s.nextPid + 1 }
    own := s.nextPid
    level := s.level + 1
    reaped := []
    channelPaths := [] }

/-- How a process of an action ended. -/
inductive Ended where
  | exited
  | signalled (signal : Nat)
  | stalled

/-- The outer session after a process of its own; the status is that of the process. -/
def Session.resume (outer inner : Session) : Session :=
  { outer with toState := outer.toState.resume inner.toState }

/-- Acts in a process of its own, which `start` prepares. -/
def inProcess (start : Session → Session) (act : Act Unit) : Act Ended := do
  let s ← get
  let (result, t) := (ExceptT.run act).run (start s.subshell)
  let outer := s.resume t
  match result with
  | .error .stalled =>
    set outer
    return .stalled
  | .error (.signalled n) =>
    set { outer with status := 128 + n }
    return .signalled n
  | _ =>
    set { outer with status := t.status % 256 }
    return .exited

/-- Acts for a command in a process of its own, which `start` prepares and which has to end; tells
if a signal killed it. -/
def inForeground (command : Command) (start : Session → Session) (act : Act Unit) : Act Unit := do
  let pid := (← get).nextPid
  match ← inProcess start act with
  | .stalled => throw .stalled
  | .signalled n => Builtin.notify true pid n command.shown
  | .exited => return

/-- The output of an action, which is a process of its own. -/
def captured (act : Act Unit) : Act (List Char) := do
  let (n, t) := (← get).toState.newPipe
  onState fun _ => t
  let start (s : Session) : Session :=
    let options := if s.enables "inherit_errexit" then s.options
      else s.options.filter (· != 'e')
    { s with toState := { s.toState.open_ 1 (.pipe n) with options } }
  let ended ← inProcess start act
  onState fun t => { t with clock := t.pipeEnd n t.clock, captured := some t.status }
  let s ← get
  let (text, cycle) := s.toState.pipeContent n
  match ended with
  | .stalled => if cycle = [] then throw .stalled
  | _ => pure ()
  return text ++ State.cycled State.flood cycle

/-! ## Calls -/

/-- Gives the variables back that belong to a call. -/
def giveBack (saved : List (String × Option Variable)) : Act Unit :=
  saved.forM fun (name, old) =>
    if name = optionsKey then
      onState fun s => { s with options := ((old.bind Variable.value).getD "").toList }
    else modify (Session.putBack name old)

/-- Runs the body of a function with its arguments. Some variables belong to the call from the
start. -/
def inCall (name : String) (r : Routine) (args : List String)
    (own : List (String × Option Variable)) (act : Act Unit) : Act Unit := do
  let s ← get
  let traced (trap : String) : Bool :=
    trap == "ERR" && !s.has 'E' || (trap == "DEBUG" || trap == "RETURN") && !s.has 'T'
  modify fun s => { s with
    args, depth := s.depth + 1, loops := 0, line := r.line, offset := r.offset
    traps := s.traps.filter fun trap => !traced trap.1
    frames := ⟨name, r.source, s.line, some own⟩ :: s.frames }
  let result ← attempt act
  let saved := (((← get).frames.head?.bind Frame.saved)).getD []
  giveBack saved
  modify fun t =>
    let kept := s.traps.filter fun trap => traced trap.1 && !t.traps.any (·.1 == trap.1)
    { t with
      args := s.args, depth := s.depth, loops := s.loops, line := s.line, offset := s.offset
      traps := t.traps ++ kept
      frames := t.frames.tail }
  match result with
  | .error .back => return
  | result => conclude result

/-- Runs a script within the script, which has arguments of its own or not. -/
def inScript (path : String) (args : Option (List String)) (act : Act Unit) : Act Unit := do
  let s ← get
  modify fun s => { s with
    args := args.getD s.args, depth := s.depth + 1, offset := 0
    frames := ⟨"source", path, s.line, none⟩ :: s.frames }
  let result ← attempt act
  modify fun t => { t with
    args := if args.isSome then s.args else t.args
    depth := s.depth, line := s.line, offset := s.offset
    frames := t.frames.tail }
  match result with
  | .error .back => return
  | result => conclude result

/-! ## Loops -/

/-- Acts within one more loop. -/
def inLoop (act : Act Unit) : Act Unit := do
  onState fun s => { s with loops := s.loops + 1 }
  let result ← attempt act
  onState fun s => { s with loops := s.loops - 1 }
  conclude result

/-- Acts as a round of a loop; says whether the loop goes on. -/
def round (act : Act Unit) : Act Bool := do
  match ← attempt act with
  | .ok () | .error (.again 0) | .error (.again 1) => return true
  | .error (.leave 0) | .error (.leave 1) => return false
  | .error (.leave n) => throw (.leave (n - 1))
  | .error (.again n) => throw (.again (n - 1))
  | .error stop => throw stop

/-! ## Redirections around commands -/

/-- Acts, and gives the channels back. -/
def withChannels (act : Act Unit) : Act Unit := do
  let channels := (← get).channels
  let result ← attempt act
  onState fun s => { s with channels }
  conclude result

/-- Acts with redirections around it; a fault in them leaves the action out. -/
def redirected (r : Runner) (redirects : List (Redirect Word)) (act : Act Unit) : Act Unit := do
  if redirects.isEmpty then act
  else withChannels do
    if ← Redirection.carryOutAll r redirects then act else setStatus 1

/-! ## Variables of a command -/

/-- Gives variables a value for a single command; answers what they had. -/
def assignForCommand (r : Runner) (show_ : String → Act Unit) :
    List (Assignment Word) → Act (List (String × Option Variable))
  | [] => return []
  | a :: rest => do
    let g ← Assign.expand r a
    match g.gift, g.key with
    | .text text, none =>
      if ← isLocked g.name then assignForCommand r show_ rest
      else
        let name := (← get).target g.name
        let old := (← get).bindings.lookup name
        let v := old.getD .blank
        let text ← if g.appends then Assign.combined v .none true text else pure text
        show_ (g.name ++ "=" ++ text)
        putVariable name { Variable.blank with value := some text, exported := true }
        return (name, old) :: (← assignForCommand r show_ rest)
    | .text _, some key =>
      report ("\x60" ++ g.name ++ "[" ++ key ++ "]': not a valid identifier")
      assignForCommand r show_ rest
    | _, _ => assignForCommand r show_ rest

/-! ## Programs -/

/-- The variables that a program gets, with its path. Those of the command and of the calls come
first. -/
def Session.programBindings (s : Session) (first : List String) (path : String) :
    List (String × Variable) :=
  let all := s.exports
  let own := first ++ s.frames.flatMap fun frame => ((frame.saved.getD []).map Prod.fst).reverse
  let ahead := own.filterMap fun name => (all.lookup name).map (name, ·)
  let rest := all.filter fun (name, _) => !own.contains name
  let routines := (s.routines.filter fun (_, r) => r.exported).map fun (name, r) =>
    ("BASH_FUNC_" ++ name ++ "%%",
      { Variable.blank with value := some r.body.handedOn, exported := true })
  ahead ++ rest ++ routines ++
    [("_", { Variable.blank with value := some path, exported := true })]

/-- Where a program is found, or the message and the status where it is not. -/
def programPlace (s : Session) (standard : Bool) (name : String) :
    Except (String × Nat) String :=
  let missing := (name ++ ": command not found", 127)
  if name.contains '/' then .ok name
  else if name = "" then .error missing
  else
    let directories := if standard then Shell.Builtin.standardPath else s.searchPath
    if directories = [""] then
      if s.toState.isProgram name then .ok ("./" ++ name)
      else .error (name ++ ": No such file or directory", 127)
    else
      let candidates := (Shell.places directories name).map fun path =>
        if path.contains '/' then path else "./" ++ path
      let isFile (path : String) : Bool :=
        match s.disk.node s.cwd (State.path path) with
        | .ok (.file ..) => true
        | _ => false
      match (candidates.find? s.toState.isProgram).orElse fun _ => candidates.find? isFile with
      | some path => .ok path
      | none => .error missing

/-- Why the program at a path cannot be run, and the status for it. -/
def startFault (s : Session) (path : String) (e : IoError) : String × Nat :=
  if e = .noSuchFile then
    if (s.disk.node s.cwd (State.path path)).toBool then
      (path ++ ": cannot execute: required file not found", 127)
    else (path ++ ": No such file or directory", 127)
  else if s.disk.isDirectory s.cwd (State.path path) then (path ++ ": Is a directory", 126)
  else (path ++ ": " ++ Utility.cause e, 126)

/-- A file that is no script: a zero byte is in its first line. -/
def isBinary (content : List Char) : Bool := (content.takeWhile (· ≠ '\n')).contains '\x00'

end PlaybookScan.Shell.Bash

import PlaybookScan.Shell.Builtin.Table
import PlaybookScan.Shell.Redirection

/-!
# Scopes

What begins and ends with a function, a loop, a script within a script, a program or a redirection,
and how programs and scripts are found.
-/

set_option autoImplicit false

namespace PlaybookScan.Shell

/-- The signal that ends the command. -/
def Flow.signal? : Flow → Option Nat
  | .signalled n => some n
  | _ => none

/-- Ends the shell after a failure, if it is so set and the status is not tested. -/
def errexit (tested : Bool) : Flow × State → Flow × State
  | (.next, s) =>
    if s.status ≠ 0 ∧ !tested ∧ s.options.contains 'e' then (.exit, s) else (.next, s)
  | found => found

/-- The end of a shell after a fault. -/
def failed (fault : Fault) (s : State) : Flow × State :=
  match fault with
  | .told message => (.exit, { s.report message with status := 2 })
  | .killed signal => (.signalled signal, s)

/-- Gives the old channels back. -/
def restore (channels : List (Nat × Channel)) : Flow × State → Flow × State
  | (flow, s) => (flow, { s with channels })

/-- A program that has ended in a signal is reported, and its status is above 128. -/
def reap (foreground : Bool) (outer : State) : Flow × State → Flow × State
  | (.stalled, s) => (.stalled, outer.resume s)
  | (.signalled n, s) =>
    let t := outer.resume s
    (.next, { (if foreground then Builtin.notify t n else t) with status := 128 + n })
  | (_, s) => (.next, { outer.resume s with status := s.status % 256 })

/-! ## Variables of functions and commands -/

/-- Gives a variable an earlier value, or takes it away. -/
def giveBackOne (bindings : List (String × Variable)) (name : String) (old : Option Variable) :
    List (String × Variable) :=
  match old with
  | some v => State.alterVariable (fun _ => v) name bindings
  | none => bindings.filter fun v => v.1 != name

/-- Gives some variables the values that they had among `before`. -/
def giveBack (before : List (String × Variable)) (names : List String) (s : State) : State :=
  { s with bindings := names.foldl (fun vs x => giveBackOne vs x (before.lookup x)) s.bindings }

/-- The state in which the body of a function starts. -/
def enterFunction (args : List String) (s : State) : State :=
  { s with args, saved := some [], scan := ⟨1, none⟩, depth := s.depth + 1, loops := 0 }

/-- The end of a function that was called in `outer`. -/
def leaveFunction (outer : State) : Flow × State → Flow × State
  | (flow, s) =>
    let bindings := (s.saved.getD []).foldl (fun vs (name, old) => giveBackOne vs name old)
      s.bindings
    (if flow = .back then .next else flow, { s with
      bindings
      saved := outer.saved
      args := outer.args
      scan := outer.scan
      depth := outer.depth
      loops := outer.loops })

/-- The state in which a script within the script starts. -/
def enterScript (within : String) (s : State) : State := { s with within, depth := s.depth + 1 }

/-- The end of a script that was started in `outer`. -/
def leaveScript (outer : State) : Flow × State → Flow × State
  | (flow, s) => (flow, { s with within := outer.within, depth := outer.depth })

/-- Calls of functions within each other. -/
def maxDepth : Nat := 1000

/-- Milliseconds after which a loop counts as one that does not end. -/
def horizon : Nat := 3600000

/-- The state in which a loop starts. -/
def enterLoop (s : State) : State := { s with loops := s.loops + 1 }

/-- The end of a loop that started in `outer`. -/
def leaveLoop (outer : State) : Flow × State → Flow × State
  | (flow, s) => (flow, { s with loops := outer.loops })

/-! ## Programs and scripts -/

/-- Why a program cannot be run, and the status for it. -/
def notRunnable (name : String) (e : IoError) : String × Nat :=
  if name = "" then (": Permission denied", 127)
  else
    let missing : Bool := e == .noSuchFile || e == .notADirectory
    (runFault name e, if name.contains '/' && !missing then 126 else 127)

/-- The script of this name, or why it cannot be read. -/
def scriptText (s : State) (name : String) : Except String (String × List Char) :=
  let readable (p : String) : Bool := (s.disk.node s.cwd (State.path p)).toBool
  match (places s.searchPath name).find? readable with
  | some p =>
    match s.disk.read s.cwd (State.path p) with
    | .ok content => .ok (p, Octets.ofBytes content)
    | .error _ => .ok (p, [])
  | none =>
    if name.contains '/' then .error (openingFault "cannot open" "No such file" name .noSuchFile)
    else .error (name ++ ": not found")

/-- The variables that a new shell sets. -/
def shellVariables (s : State) : List (String × String) :=
  [("IFS", " \t\n"), ("OPTIND", "1"), ("PPID", toString (s.ancestors.headD 0)), ("PS1", "# "),
    ("PS2", "> "), ("PS4", "+ ")]

/-- The path by which a new shell comes to its directory, if its variable tells one. -/
def startDirectory (s : State) : Path :=
  match s.valueOf? "PWD" with
  | none => s.physical
  | some text =>
    let place (p : Path) : Option (List String) :=
      match s.disk.locate true s.cwd p with
      | .ok (place, some _) => some place
      | _ => none
    if text.startsWith "/" ∧ place (State.path text) = place ⟨"."⟩ then State.path text
    else s.physical

/-- The state in which a new shell starts. -/
def newShell (s : State) (name : String) : State :=
  let s := { s with
    name
    args := []
    cwd := startDirectory s
    functions := []
    aliases := []
    hashed := []
    scan := ⟨1, none⟩
    options := []
    traps := []
    ignored := (s.traps.filter (·.2 == "")).map Prod.fst ++ s.ignored
    jobs := []
    background := none
    isSubshell := false
    depth := 0
    loops := 0
    saved := none
    captured := none
    status := 0
    line := 1
    within := "" }
  let s := (shellVariables s).foldl (fun s (x, value) => s.assign x value) s
  let s := if (s.valueOf? "PATH").isSome then s
    else s.assign "PATH" (":".intercalate Builtin.standardPath)
  (s.assign "PWD" (Octets.ofText s.cwd.text)).exportVariable "PWD"

/-- How a process ended that was started from `outer`, and the state behind it. -/
def finished (outer : State) : Flow × State → Ending × State
  | (.stalled, t) => (.stalled, outer.resume t)
  | (.signalled n, t) => (.signalled n, outer.resume t)
  | (_, t) => (.exited (t.status % 256), outer.resume t)

/-- Runs the program `program`, which needs no shell, and complains if its output could not be
written. -/
def Utility.carryOut (u : Utility) (program : String) (args : List String) (s : State) :
    Flow × State :=
  let (status, t) := (u args).run s
  if t.broken then
    let cause := "Bad file descriptor"
    let (complaint, status) : String × Nat := match program with
      | "cat" | "yes" => ("standard output: " ++ cause, 1)
      | "sed" => ("couldn't flush stdout: " ++ cause, 4)
      | "ls" | "sort" | "grep" => ("write error: " ++ cause, 2)
      | "awk" | "mawk" | "nawk" =>
        ("close failed on file \"/dev/stdout\" (" ++ cause ++ ")", 2)
      | _ => ("write error: " ++ cause, 1)
    (.exit, { t.complain (s.name ++ ": " ++ complaint) with status })
  else (.exit, { t with status })

/-- There are no commands among the tokens. -/
def hasNoCommand (tokens : List Token) : Bool :=
  match Parser.skipNewlines tokens with
  | [] | [⟨_, .theEnd⟩] => true
  | _ => false

/-! ## Redirections -/

/-- Carries out redirections; a fault is reported. -/
def redirect (capture : Capture) (redirects : List Redirect) (s : State) :
    Except (Flow × State) State :=
  match (redirectTargets capture redirects).run s with
  | (.error fault, s) => .error (failed fault s)
  | (.ok targets, s) =>
    match redirectAll targets s with
    | (none, t) => .ok t
    | (some message, t) =>
      .error (.next, { t.report message with channels := s.channels, status := 2 })

/-- Runs a command with redirections around it. -/
def redirected (capture : Capture) (redirects : List Redirect) (tested : Bool)
    (act : State → Flow × State) (s : State) : Flow × State :=
  if redirects.isEmpty then act s
  else
    let channels := s.channels
    match redirect capture redirects s with
    | .error found => errexit tested found
    | .ok s => restore channels (act s)

end PlaybookScan.Shell

import PlaybookScan.Shell.Bash.Launch

/-!
# Calling commands by their names

A name is that of a function, of a command inside the shell or of a program, in this order. Some of
the commands inside the shell run other commands.
-/

set_option autoImplicit false

namespace PlaybookScan.Shell.Bash

/-- The places where a script is looked for that is to be run within the script. -/
def scriptPlaces (s : Session) (name : String) : List String :=
  if name.contains '/' then [name]
  else (if s.enables "sourcepath" then Shell.places s.searchPath name else []) ++ [name]

/-- The path and text of a script, or why it cannot be read. -/
def scriptAt (s : Session) (name : String) : Except String (String × List Char) :=
  let isThere (path : String) : Bool :=
    match s.disk.node s.cwd (State.path path) with
    | .ok (.file ..) | .ok (.device _) => true
    | _ => name.contains '/' && (s.disk.node s.cwd (State.path path)).toBool
  match (scriptPlaces s name).find? isThere with
  | none => .error (name ++ ": No such file or directory")
  | some path =>
    match Redirection.standing? s.toState path with
    | some n => .ok (path, ((s.toState.readAll n).1).getD [])
    | none =>
      if s.disk.isDirectory s.cwd (State.path path) then
        .error (".: " ++ path ++ ": is a directory")
      else match s.disk.read s.cwd (State.path path) with
        | .ok content => .ok (path, Octets.ofBytes content)
        | .error e => .error (path ++ ": " ++ Utility.cause e)

/-- Number of calls within each other for which there is room. -/
def stackDepth : Nat := 1000

/-- Carries out a command inside the shell, and complains if its output could not be written. -/
def carryOut (name : String) (act : Act Nat) : Act Unit := do
  let s ← get
  modify fun s => { s with
    toState := { s.toState with broken := false }, complainer := name ++ ": " }
  let result ← attempt act
  let broken := (← get).broken
  if broken then Builtin.complain name "write error: Bad file descriptor"
  modify fun t => { t with
    toState := { t.toState with broken := s.broken }, complainer := s.complainer }
  match result with
  | .ok status => setStatus (if broken then 1 else status)
  | .error stop => throw stop

namespace Interpreter

/-- Runs a script within the script. -/
def source (e : Interpreter) (name : String) : List String → Act Nat
  | [] => Builtin.misuse name "filename argument required"
  | file :: args => do
    match scriptAt (← get) file with
    | .error message =>
      report message
      return 1
    | .ok (path, source) =>
      let s ← get
      inScript path (if args.isEmpty then none else some args) do
        match ← e.text "" source 1 with
        | .nothing => setStatus 0
        | _ => pure ()
      if s.has 'T' then e.event "RETURN"
      return (← get).status

/-- Runs a program in the place of the shell. -/
def replace (e : Interpreter) (first : List String) (o : Builtin.Options) :
    List String → Act Nat
  | [] => return 0
  | command :: args => do
    if o.has 'c' then
      onState fun s => { s with
        bindings := s.bindings.map fun (x, v) => (x, { v with exported := false }) }
    let shown := (o.value? 'a').getD command
    e.exec (if o.has 'l' then "-" ++ shown else shown) first command args
    return (← get).status

/-- Calls the command that is named by the first of some operands. -/
def callFirst (e : Interpreter) (tested : Bool) (manner : Manner) (first : List String) :
    List Operand → Act Nat
  | [] => return 0
  | command :: rest => do
    e.call tested manner first command.text rest []
    return (← get).status

/-- Carries out a command that runs others; none for the other commands inside the shell. -/
def special? (e : Interpreter) (tested : Bool) (manner : Manner) (first : List String)
    (name : String) (operands : List Operand) : Option (Act Nat) :=
  let args := operands.map Operand.text
  let last (args : List String) : List Operand := operands.drop (operands.length - args.length)
  let eval (source : String) : Act Unit := discard <| e.evaluated source
  match name with
  | "eval" => some <| Builtin.withOptions name "" (fun _ args =>
      if args.isEmpty then return 0 else e.evaluated (" ".intercalate args)) args
  | "." | "source" => some <| Builtin.withOptions name "" (fun _ args => e.source name args) args
  | "exec" => some <| Builtin.withOptions name "cla:" (e.replace first) args
  | "command" => some <| Builtin.withOptions name "pvV" (fun o args =>
      if o.has 'v' || o.has 'V' then Builtin.describe (o.has 'V') (o.has 'p') args
      else e.callFirst tested { manner with routines := false, standard := o.has 'p' } first
        (last args)) args
  | "builtin" => some <| Builtin.withOptions name "" (fun _ args => do
      match args.head? with
      | some command =>
        if !Builtin.isBuiltin (← get) command then
          return ← Builtin.fail 1 name (command ++ ": not a shell builtin")
      | none => pure ()
      e.callFirst tested ⟨false, false, false⟩ first (last args)) args
  | "declare" | "typeset" => some (Builtin.declare eval name false operands)
  | "local" => some (Builtin.declare eval name true operands)
  | "export" => some (Builtin.mark name 'x' "fnp" eval operands)
  | "readonly" => some (Builtin.mark name 'r' "aAfp" eval operands)
  | "mapfile" | "readarray" => some (Builtin.mapfile name eval args)
  | _ => none

/-- Calls a function. -/
def callRoutine (e : Interpreter) (tested : Bool) (name : String) (r : Routine)
    (args : List String) (own : List (String × Option Variable)) : Act Unit := do
  if stackDepth ≤ (← get).depth then throw (.signalled 11)
  inCall name r args own do
    let result ← attempt (e.run tested r.body)
    match result with
    | .ok () | .error .back => e.event "RETURN"
    | _ => pure ()
    conclude result

/-- Calls a command inside the shell. -/
def callBuiltin (e : Interpreter) (tested : Bool) (manner : Manner) (first : List String)
    (name : String) (operands : List Operand) : Act Unit := do
  let act : Act Nat := match e.special? tested manner first name operands with
    | some act => act
    | none => ((Builtin.named? name).map (· (operands.map Operand.text))).getD (return 0)
  match ← attempt (carryOut name act) with
  | .error (.signalled n) =>
    setStatus 0
    e.deliver n
  | result => conclude result

/-- Calls a command by its name. -/
def callNamed (e : Interpreter) (tested : Bool) (manner : Manner) (first : List String)
    (name : String) (operands : List Operand) (own : List (String × Option Variable)) :
    Act Unit := do
  let s ← get
  match if manner.routines then s.routines.lookup name else none with
  | some r => e.callRoutine tested name r (operands.map Operand.text) own
  | none =>
    if Builtin.isBuiltin s name then e.callBuiltin tested manner first name operands
    else if manner.programs then
      e.launch manner.standard first name (operands.map Operand.text)
    else return

end Interpreter

end PlaybookScan.Shell.Bash

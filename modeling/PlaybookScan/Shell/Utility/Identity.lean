import PlaybookScan.Shell.Builtin.Name
import PlaybookScan.Shell.Utility.Basic

/-!
# Who and where

Programs that tell of the user, of the machine, and of the surroundings.
-/

set_option autoImplicit false

namespace PlaybookScan.Shell.Utility

/-- The users of the system, with their numbers and the names of their groups. -/
def users : List (String × Nat × String) :=
  [("root", 0, "root"), ("daemon", 1, "daemon"), ("bin", 2, "bin"), ("sys", 3, "sys"),
    ("sync", 4, "nogroup"), ("games", 5, "games"), ("man", 6, "man"), ("lp", 7, "lp"),
    ("mail", 8, "mail"), ("news", 9, "news"), ("www-data", 33, "www-data"),
    ("nobody", 65534, "nogroup")]

/-- The number of a group. -/
def groupNumber (name : String) (number : Nat) : Nat :=
  if name = "nogroup" then 65534 else if name = "man" then 12 else number

/-- A program that takes no operands. -/
def withoutOperands (letters : String) (status : Nat) (act : Arguments → StateM State Nat) :
    Utility :=
  withOptions (.of letters []) status fun a =>
    match a.operands with
    | [] => act a
    | x :: _ => misuse status ("extra operand " ++ quoted x)

/-- A program that writes a line. -/
def saying (text : String) : Utility := withoutOperands "" 1 fun _ => do
  writeLine text
  return 0

/-- Who the user is. -/
def identity : Utility :=
  withOptions (.of "agGnruzZ" [("context", 'Z'), ("group", 'g'), ("groups", 'G'), ("name", 'n'),
    ("real", 'r'), ("user", 'u'), ("zero", 'z')]) 1 fun a => do
    let refuse (message : String) : StateM State Nat := do
      complain message
      return 1
    let kinds := ['u', 'g', 'G'].filter a.has
    if a.has 'Z' then
      return ← refuse "--context (-Z) works only on an SELinux-enabled kernel"
    if kinds.length > 1 then return ← refuse "cannot print \"only\" of more than one choice"
    if kinds = [] ∧ (a.has 'n' ∨ a.has 'r') then
      return ← refuse "cannot print only names or real IDs in default format"
    if kinds = [] ∧ a.has 'z' then
      return ← refuse "option --zero not permitted in default format"
    let stop := if a.has 'z' then "\x00" else "\n"
    (if a.operands = [] then ["root"] else a.operands).foldlM (fun status user => do
      let found := users.find? fun (name, number, _) => name == user || toString number == user
      match found with
      | none =>
        complain (quoted user ++ ": no such user")
        return 1
      | some (name, number, group) =>
        let groupId := groupNumber group number
        let full (n : Nat) (name : String) : String := toString n ++ "(" ++ name ++ ")"
        let text := match kinds with
          | ['u'] => if a.has 'n' then name else toString number
          | _ :: _ => if a.has 'n' then group else toString groupId
          | [] => "uid=" ++ full number name ++ " gid=" ++ full groupId group ++ " groups=" ++
              full groupId group
        write (text ++ stop).toList
        return status) 0

def groups : Utility := withOptions (.of "" []) 1 fun a => do
  if a.operands = [] then
    writeLine "root"
    return 0
  else
    a.operands.foldlM (fun status user => do
      match users.lookup user with
      | some (_, group) => writeLine (user ++ " : " ++ group); return status
      | none => complain (quoted user ++ ": no such user"); return 1) 0

def logname : Utility := withoutOperands "" 1 fun _ => do
  complain "no login name"
  return 1

def tty : Utility := withoutOperands "s" 2 fun a => do
  if !a.has 's' then writeLine "not a tty"
  return 1

/-- The number of processors. -/
def nproc : Utility :=
  withOptions (.of "α" [("all", 'α')]) 1 fun a =>
    match a.operands with
    | [] => do
      writeLine "4"
      return 0
    | x :: _ => misuse 1 ("extra operand " ++ quoted x)

/-- Nobody is logged in. -/
def nobody : Utility := fun _ => return 0

/-- The host's name. -/
def hostname : Utility := fun _ => do
  writeLine "host"
  return 0

def uname : Utility :=
  withOptions (.of "asnrvmpio" [("all", 'a'), ("kernel-name", 's'), ("sysname", 's'),
    ("nodename", 'n'), ("kernel-release", 'r'), ("release", 'r'), ("kernel-version", 'v'),
    ("machine", 'm'), ("processor", 'p'), ("hardware-platform", 'i'),
    ("operating-system", 'o')]) 1 fun a => do
    match a.operands with
    | x :: _ => misuse 1 ("extra operand " ++ quoted x)
    | [] =>
      let facts := [('s', "Linux"), ('n', "host"), ('r', "6.1.0"), ('v', "#1 SMP"), ('m', "x86_64"),
        ('p', "unknown"), ('i', "unknown"), ('o', "GNU/Linux")]
      let shown := if a.has 'a' then facts.filter fun (_, text) => text != "unknown"
        else if a.options = [] then facts.take 1
        else facts.filter fun (c, _) => a.has c
      writeLine (" ".intercalate (shown.map Prod.snd))
      return 0

/-- Writes the values of variables that programs get, or all of these. -/
def printenv : Utility := withOptions (.leading "0" [("null", '0')]) 2 fun a => do
  let exported := (← get).environment
  let stop := if a.has '0' then "\x00" else "\n"
  if a.operands = [] then
    exported.forM fun (name, v) => write (name ++ "=" ++ v.value.getD "" ++ stop).toList
    return 0
  else
    a.operands.foldlM (fun status name => do
      match (exported.lookup name).bind Variable.value with
      | some value => write (value ++ stop).toList; return status
      | none => return 1) 0

/-- Writes the paths of programs. -/
def which : Utility := fun args => do
  match (Options.leading "as" []).read args with
  | .error message =>
    let letter := (message.toList.drop ("invalid option -- '".length)).take 1
    modify fun s => s.complain ("Illegal option -" ++ String.ofList letter)
    modify fun s => s.complain "Usage: /usr/bin/which [-as] args"
    return 2
  | .ok a =>
    if a.operands = [] then return 1
    else
      a.operands.foldlM (fun status name => do
        let s ← get
        let found := if name.contains '/' then
            if s.isProgram name then [name] else []
          else (places s.searchPath name).filter s.isProgram
        if !a.has 's' then (if a.has 'a' then found else found.take 1).forM writeLine
        return if found = [] then 1 else status) 0

/-- Removes the name of one file. -/
def unlink : Utility := withOptions (.of "" []) 1 fun a => do
  match a.operands with
  | [] => misuse 1 "missing operand"
  | [file] =>
    let s ← get
    let found : Except IoError Disk := do
      match ← s.itself file with
      | .directory _ => throw .isADirectory
      | _ => s.disk.remove s.cwd (State.path file)
    match found with
    | .ok disk => set { s with disk }; return 0
    | .error e => complain ("cannot unlink " ++ quotedFile file ++ ": " ++ cause e); return 1
  | _ :: x :: _ => misuse 1 ("extra operand " ++ quoted x)

/-- Gives a file another name. -/
def link : Utility := withOptions (.of "" []) 1 fun a => do
  match a.operands with
  | [] => misuse 1 "missing operand"
  | [x] => misuse 1 ("missing operand after " ++ quoted x)
  | [source, target] =>
    let s ← get
    let found : Except IoError Disk := do
      match ← s.itself source with
      | .directory _ => throw (.system 1)
      | node => s.disk.putNew s.cwd (State.path target) node
    match found with
    | .ok disk => set { s with disk }; return 0
    | .error e =>
      complain ("cannot create link " ++ quotedFile target ++ " to " ++ quotedFile source ++ ": " ++
        cause e)
      return 1
  | _ :: _ :: x :: _ => misuse 1 ("extra operand " ++ quoted x)

def sync : Utility := withOptions (.of "df" [("data", 'd'), ("file-system", 'f')]) 1 fun a =>
  a.operands.foldlM (fun status file => do
    let s ← get
    match s.disk.node s.cwd (State.path file) with
    | .ok _ => return status
    | .error e => complain ("error opening " ++ quotedFile file ++ ": " ++ cause e); return 1) 0

end PlaybookScan.Shell.Utility

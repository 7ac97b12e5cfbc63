import PlaybookScan.Shell.Builtin.Directory
import PlaybookScan.Shell.Builtin.Signal
import PlaybookScan.Shell.Builtin.Name
import PlaybookScan.Shell.Builtin.Variable
import PlaybookScan.Shell.Utility.Condition
import PlaybookScan.Shell.Utility.Stream

/-!
# Table of the commands inside the shell

All commands that the shell carries out itself without running others.
-/

set_option autoImplicit false

namespace PlaybookScan.Shell.Builtin

/-- Ends the shell or a function, with the status of the argument or the last one. -/
def ending (name : String) (flow : Flow) : Builtin := fun args s =>
  match args with
  | [] => (flow, s)
  | arg :: _ =>
    match number? arg with
    | some n => (flow, { s with status := n })
    | none => fail name ("Illegal number: " ++ arg) s

/-- Leaves or continues loops, at most those around the command. -/
def looping (name : String) (flow : Nat → Flow) : Builtin := fun args s =>
  match number? (args.headD "1") with
  | some (n + 1) =>
    (if s.loops = 0 then .next else flow (min (n + 1) s.loops), { s with status := 0 })
  | _ => fail name ("Illegal number: " ++ args.headD "") s

def test (name : String) : Builtin := fun args s =>
  let words := if name = "[" then
      if args.getLast? = some "]" then some args.dropLast else none
    else some args
  match words with
  | none => fail name "missing ]" s
  | some words =>
    match Condition.eval words.length s words with
    | .ok truth => done (if truth then 0 else 1) s
    | .error message => fail name message s

/-- The output of the shell's own `echo`, which resolves escapes. -/
def echo : Builtin := fun args s =>
  match args with
  | "-n" :: args => done 0 (s.write 1 (Printf.echo .shell false args)).2
  | args => done 0 (s.write 1 (Printf.echo .shell true args)).2

def printf : Builtin := withOptions "printf" "" fun _ args s =>
  match args with
  | [] => fail "printf" "usage: printf format [arg ...]" s
  | fmt :: args =>
    let out := Printf.format .shell fmt args
    let s := (Printf.faultsOf out).foldl (fun s f => fault "printf" (f.message .shell) s) s
    done (Printf.statusOf .shell out) (s.write 1 (Printf.textOf out)).2

/-- Tells how much the shell may use of something: all that it wants. -/
def ulimit : Builtin := withOptions "ulimit" "HSatfdscmlpnvwr" fun options args s =>
  let value := match options.find? fun c => c != 'H' && c != 'S' with
    | some 'n' => "1048576"
    | some 's' => if options.contains 'H' then "unlimited" else "8192"
    | some 'r' => "0"
    | _ => "unlimited"
  match args with
  | [] => done 0 (s.writeText 1 (value ++ "\n"))
  | [limit] => if limit = "unlimited" ∨ (count? limit).isSome then done 0 s
    else fail "ulimit" "bad number" s
  | _ => fail "ulimit" "too many arguments" s

/-- The time that the shell and its children have used, which is not measured. -/
def times : Builtin := fun _ s =>
  done 0 (s.writeText 1 "0m0.000000s 0m0.000000s\n0m0.000000s 0m0.000000s\n")

/-- The commands by their names. -/
def named? (name : String) : Option Builtin :=
  match name with
  | ":" | "true" => some fun _ s => done 0 s
  | "false" => some fun _ s => done 1 s
  | "exit" => some (ending "exit" .exit)
  | "return" => some (ending "return" .back)
  | "break" => some (looping "break" .leave)
  | "continue" => some (looping "continue" .again)
  | "shift" => some shift
  | "set" => some set_
  | "export" => some export_
  | "readonly" => some readonly
  | "local" => some local_
  | "unset" => some unset
  | "read" => some read
  | "getopts" => some getopts
  | "cd" | "chdir" => some cd
  | "pwd" => some pwd
  | "umask" => some umask
  | "ulimit" => some ulimit
  | "times" => some times
  | "test" => some (test "test")
  | "[" => some (test "[")
  | "echo" => some echo
  | "printf" => some printf
  | "kill" => some kill
  | "trap" => some trap
  | "wait" => some wait
  | "jobs" => some jobs
  | "fg" => some (moveJob "fg")
  | "bg" => some (moveJob "bg")
  | "alias" => some alias_
  | "unalias" => some unalias
  | "hash" => some hash
  | "type" => some type_
  | _ => none

/-- Carries out the command `name`, and complains if its output could not be written. -/
def carryOut (name : String) (builtin : Builtin) : Builtin := fun args s =>
  let (flow, t) := builtin args { s with broken := false }
  if t.broken then
    let status := t.status ||| 1
    (flow, { fault name (name ++ ": I/O error") t with status, broken := s.broken })
  else (flow, { t with broken := s.broken })

end PlaybookScan.Shell.Builtin

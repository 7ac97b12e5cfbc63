import PlaybookScan.Shell.Bash.Builtin.Directory
import PlaybookScan.Shell.Bash.Builtin.Input
import PlaybookScan.Shell.Bash.Builtin.Output
import PlaybookScan.Shell.Bash.Builtin.Signal
import PlaybookScan.Shell.Bash.Condition
import PlaybookScan.Shell.Builtin.Table

/-!
# Table of the commands inside the large shell

All commands that the large shell carries out itself without running others.
-/

set_option autoImplicit false

namespace PlaybookScan.Shell.Bash.Builtin

/-! ## Flow -/

/-- The status that an argument asks for, or the last one. -/
def wantedStatus (name : String) (args : List String) : Act Nat := do
  let args := unmarked args
  match args with
  | [] => return (← get).status
  | arg :: _ =>
    match integer? arg with
    | some n =>
      onlyOne name args
      return (n % 256).toNat
    | none => fail 2 name (arg ++ ": numeric argument required")

def exit_ : Builtin := fun args => do
  setStatus (← wantedStatus "exit" args)
  throw .exit

def return_ : Builtin := fun args => do
  let status ← wantedStatus "return" args
  if (← get).depth = 0 then
    fail 2 "return" "can only \x60return' from a function or sourced script"
  else
    setStatus status
    throw .back

/-- Leaves or continues loops, at most those around the command. -/
def looping (name : String) (stop : Nat → Stop) : Builtin := fun args => do
  let args := unmarked args
  let s ← get
  if s.loops = 0 then
    complain name "only meaningful in a \x60for', \x60while', or \x60until' loop"
    return 0
  match integer? (args.headD "1") with
  | none =>
    complain name (args.headD "" ++ ": numeric argument required")
    setStatus 128
    throw .exit
  | some n =>
    onlyOne name args
    if n ≤ 0 then
      complain name (args.headD "" ++ ": loop count out of range")
      setStatus 1
      throw (.leave s.loops)
    setStatus 0
    throw (stop (min n.toNat s.loops))

/-! ## Conditions and numbers -/

def test (name : String) : Builtin := fun args => do
  if name = "[" ∧ args.getLast? ≠ some "]" then return ← fail 2 name "missing \x60]'"
  match ← (Condition.eval (if name = "[" then args.dropLast else args)).run with
  | .ok truth => return statusOf truth
  | .error message => fail 2 name message

def let_ : Builtin := fun args => do
  match unmarked args with
  | [] => fail 1 "let" "expression expected"
  | args =>
    let last ← args.foldlM (fun value arg => do
      match value with
      | none => return none
      | some _ => calculate? "let: " arg.toList) (some 0)
    return statusOf (last.any (· ≠ 0))

/-! ## Other commands -/

/-- Tells from where a function was called. -/
def caller : Builtin := withOptions "caller" "" fun _ args => do
  let frames := (← get).frames
  match args with
  | [] =>
    match frames with
    | [] => return 1
    | first :: rest =>
      writeLine (toString first.line ++ " " ++ (rest.head?.map Frame.source).getD "NULL")
      return 0
  | text :: _ =>
    match integer? text with
    | none => misuse "caller" (text ++ ": invalid number")
    | some n =>
      match frames[n.toNat]?, frames[n.toNat + 1]? with
      | some here, some outer =>
        writeLine (toString here.line ++ " " ++ outer.function ++ " " ++ outer.source)
        return 0
      | _, _ => return 1

/-- The time that the shell and its children have used, which is not measured. -/
def times : Builtin := withOptions "times" "" fun _ _ => do
  write "0m0.000s 0m0.000s\n0m0.000s 0m0.000s\n"
  return 0

/-- What the shell may use: the names, units and letters of limits, and their values. -/
def limits : List (Char × String × String × String) :=
  [('R', "real-time non-blocking time", "microseconds, ", "unlimited"),
    ('c', "core file size", "blocks, ", "unlimited"),
    ('d', "data seg size", "kbytes, ", "unlimited"), ('e', "scheduling priority", "", "0"),
    ('f', "file size", "blocks, ", "unlimited"), ('i', "pending signals", "", "unlimited"),
    ('l', "max locked memory", "kbytes, ", "unlimited"),
    ('m', "max memory size", "kbytes, ", "unlimited"), ('n', "open files", "", "1048576"),
    ('p', "pipe size", "512 bytes, ", "8"),
    ('q', "POSIX message queues", "bytes, ", "819200"),
    ('r', "real-time priority", "", "0"), ('s', "stack size", "kbytes, ", "8192"),
    ('t', "cpu time", "seconds, ", "unlimited"),
    ('u', "max user processes", "", "unlimited"),
    ('v', "virtual memory", "kbytes, ", "unlimited"), ('x', "file locks", "", "unlimited")]

def ulimit : Builtin := withOptions "ulimit" "SHabcdefiklmnpqrstuvxPRT" fun o args => do
  let row : Char × String × String × String → String := fun (letter, name, unit, value) =>
    let unit := "(" ++ unit ++ "-" ++ String.singleton letter ++ ") "
    name ++ "".pushn ' ' (20 - name.length) ++ " " ++ "".pushn ' ' (20 - unit.length) ++ unit ++
      value
  if o.has 'a' then
    limits.forM fun limit => writeLine (row limit)
    return 0
  let letters := (o.found.map Prod.fst).filter fun c => c ≠ 'S' ∧ c ≠ 'H'
  let chosen := (if letters = [] then ['f'] else letters).filterMap fun c =>
    limits.find? (·.1 == c)
  match args with
  | [] =>
    chosen.forM fun limit =>
      let value := if limit.1 = 's' ∧ o.has 'H' then "unlimited" else limit.2.2.2
      writeLine (if chosen.length > 1 then row limit else value)
    return 0
  | text :: _ =>
    if ["unlimited", "hard", "soft"].contains text ∨ (countBelow? (2 ^ 63) text).isSome then
      return 0
    fail 1 "ulimit" (text ++ ": invalid number")

/-- Lists the words that begin with a text. -/
def compgen : Builtin :=
  withOptions "compgen" "abcdefgjko:prsuvA:G:W:P:S:X:F:C:" fun o args => do
    let s ← get
    let start := args.headD ""
    let action (letter : Char) (name : String) : Bool := o.has letter || o.value? 'A' == some name
    let words :=
      (if action 'a' "alias" then s.aliases.map Prod.fst else []) ++
      (if action 'b' "builtin" then names else []) ++
      (if action 'k' "keyword" then Parser.reserved else []) ++
      (if o.value? 'A' = some "function" then s.routines.map Prod.fst else []) ++
      (if action 'v' "variable" then s.variableNames else []) ++
      (if action 'e' "export" then (Session.exports s).map Prod.fst else []) ++
      ((o.value? 'W').getD "").splitOn " "
    let found := words.filter fun word => word ≠ "" ∧ word.startsWith start
    found.forM fun word => writeLine ((o.value? 'P').getD "" ++ word ++ (o.value? 'S').getD "")
    return statusOf (!found.isEmpty)

/-- The commands by their names. -/
def named? (name : String) : Option Builtin :=
  match name with
  | ":" | "true" | "history" | "fc" | "complete" | "compopt" => some fun _ => return 0
  | "false" => some fun _ => return 1
  | "exit" => some exit_
  | "return" => some return_
  | "break" => some (looping "break" .leave)
  | "continue" => some (looping "continue" .again)
  | "shift" => some shift
  | "set" => some set_
  | "shopt" => some shopt
  | "getopts" => some getopts
  | "unset" => some unset
  | "echo" => some echo
  | "printf" => some printf
  | "read" => some read
  | "cd" => some cd
  | "pwd" => some pwd
  | "pushd" => some pushd
  | "popd" => some popd
  | "dirs" => some dirs
  | "umask" => some umask
  | "ulimit" => some ulimit
  | "times" => some times
  | "test" => some (test "test")
  | "[" => some (test "[")
  | "let" => some let_
  | "caller" => some caller
  | "kill" => some kill
  | "trap" => some trap
  | "wait" => some wait
  | "jobs" => some jobs
  | "disown" => some disown
  | "fg" => some (refused "fg" "no job control")
  | "bg" => some (refused "bg" "no job control")
  | "suspend" => some (refused "suspend" "cannot suspend: no job control")
  | "logout" => some (refused "logout" "not login shell: use \x60exit'")
  | "alias" => some alias_
  | "unalias" => some unalias
  | "hash" => some hash
  | "type" => some type_
  | "enable" => some enable
  | "compgen" => some compgen
  | "bind" => some fun _ => do
    complain "bind" "warning: line editing not enabled"
    return 0
  | "help" => some fun args => do
    match args with
    | [] => return 0
    | topic :: _ => fail 1 "help" ("no help topics match \x60" ++ topic ++ "'.  Try \x60help help' " ++
        "or \x60man -k " ++ topic ++ "' or \x60info " ++ topic ++ "'.")
  | _ => none

end PlaybookScan.Shell.Bash.Builtin

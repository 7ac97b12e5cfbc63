import PlaybookScan.Shell.Bash.Builtin.Basic
import PlaybookScan.Shell.Utility.Calendar

/-!
# Commands of the large shell that write
-/

set_option autoImplicit false

namespace PlaybookScan.Shell.Bash.Builtin

/-- The options of `echo`, which are nothing else but its letters, and the other arguments: whether
a newline is written, and whether escapes are resolved. -/
def echoOptions (newline escapes : Bool) : List String → Bool × Bool × List String
  | [] => (newline, escapes, [])
  | arg :: args =>
    match arg.toList with
    | '-' :: c :: cs =>
      let known (c : Char) : Bool := "neE".contains c
      if (c :: cs).all known then
        let escapes := (c :: cs).foldl (fun on c =>
          if c = 'e' then true else if c = 'E' then false else on) escapes
        echoOptions (newline && !(c :: cs).contains 'n') escapes args
      else (newline, escapes, arg :: args)
    | _ => (newline, escapes, arg :: args)

def echo : Builtin := fun args => do
  let (newline, escapes, args) := echoOptions true ((← get).enables "xpg_echo") args
  if escapes then write (String.ofList (Printf.echo .bash newline args))
  else write (" ".intercalate args ++ if newline then "\n" else "")
  return 0

/-- The text of what a format gives. -/
def written (s : Session) : Printf.Output → List Char
  | .text cs => cs
  | .fault _ => []
  | .time shape format seconds =>
    let moment : Calendar.Moment :=
      if seconds = -1 ∨ seconds = -2 then Calendar.now s.toState else .ofSeconds seconds 0
    let text := (moment.show_ (if format = [] then "%X" else String.ofList format)).toList
    let text := match shape.precision with
      | some n => text.take n
      | none => text
    Printf.pad shape.left ' ' shape.width text

def printf : Builtin := withOptions "printf" "v:" fun o args => do
  let place := (o.value? 'v').map fun name => (name, nameAndKey? name)
  match place, args with
  | some (name, none), _ => fail 2 "printf" (badName name)
  | _, [] => usage "printf"
  | place, format :: args =>
    let out := Printf.format .bash format args
    (Printf.faultsOf out).forM fun fault => complain "printf" (fault.message .bash)
    let s ← get
    let text := String.ofList (out.flatMap (written s))
    let status := Printf.statusOf .bash out
    match place with
    | none =>
      write text
      return status
    | some (name, _) =>
      return if ← assignTo "printf" name text then status else 1

end PlaybookScan.Shell.Bash.Builtin

import PlaybookScan.Shell.Arithmetic
import PlaybookScan.Shell.Parser
import PlaybookScan.Shell.State

/-!
# Commands inside the shell

What the commands share that the shell carries out itself: how they end, how they complain, and how
they read their options.
-/

set_option autoImplicit false

namespace PlaybookScan.Shell

/-- How a command ends. -/
inductive Flow where
  /-- The next command is run. -/
  | next
  /-- So many loops are left. -/
  | leave (levels : Nat)
  /-- All but the last of so many loops are left, and that one is continued. -/
  | again (levels : Nat)
  /-- The function or script is left. -/
  | back
  /-- The shell is left. -/
  | exit
  /-- The shell gets a signal. -/
  | signalled (number : Nat)
  /-- The command does not end. -/
  | stalled
  deriving DecidableEq

/-- Carries out a command with its arguments. -/
abbrev Builtin := List String → State → Flow × State

namespace Builtin

/-- Commands whose faults end the shell and whose assignments stay. -/
def special : List String :=
  [":", ".", "break", "continue", "eval", "exec", "exit", "export", "local", "readonly", "return",
    "set", "shift", "times", "trap", "unset"]

def isSpecial (name : String) : Bool := special.contains name

/-- The other commands that the shell carries out itself. -/
def regular : List String :=
  ["[", "alias", "bg", "cd", "chdir", "command", "echo", "false", "fg", "getopts", "hash", "jobs",
    "kill", "printf", "pwd", "read", "test", "true", "type", "ulimit", "umask", "unalias", "wait"]

def isNamed (name : String) : Bool := special.contains name || regular.contains name

/-- Commands whose arguments may be assignments. -/
def declares (name : String) : Bool := ["export", "readonly", "local", "alias"].contains name

def done (status : Nat) (s : State) : Flow × State := (.next, { s with status })

/-- Reports a fault in the use of the command `name`. -/
def fault (name message : String) (s : State) : State :=
  let t := { s with within := "" }.report (name ++ ": " ++ message)
  { t with status := 2, within := s.within }

/-- The end of a command that is used in a wrong way. -/
def fail (name message : String) (s : State) : Flow × State :=
  (if isSpecial name then .exit else .next, fault name message s)

/-- A number without sign. -/
def count? (text : String) : Option Nat :=
  if text ≠ "" ∧ text.toList.all Char.isDigit then
    text.toNat?.bind fun n => if n < 2 ^ 31 then some n else none
  else none

/-- A number that may have blanks around it and a sign, but is not below zero. -/
def number? (text : String) : Option Nat :=
  let cs := Arithmetic.trim text.toList
  let cs := (Arithmetic.trim cs.reverse).reverse
  match cs with
  | '+' :: cs => count? (String.ofList cs)
  | '-' :: cs => (count? (String.ofList cs)).filter (· == 0)
  | cs => count? (String.ofList cs)

/-! ## Options -/

/-- Options of a command with their arguments, and the other arguments. -/
abbrev Scanned := List (Char × String) × List String

/-- Reads the options in one argument, behind its hyphen. A letter of `allowed` that a colon follows
takes the rest of the argument, or the next one. -/
def letters (allowed : List Char) (args : List String) : List Char →
    Except String Scanned
  | [] => .ok ([], args)
  | c :: cs =>
    if c = ':' ∨ ¬ allowed.contains c then .error ("Illegal option -" ++ String.singleton c)
    else if ((allowed.dropWhile (· != c)).drop 1).head? = some ':' then
      if cs ≠ [] then .ok ([(c, String.ofList cs)], args)
      else match args with
        | arg :: args => .ok ([(c, arg)], args)
        | [] => .error ("No arg for -" ++ String.singleton c ++ " option")
    else (letters allowed args cs).map fun (found, args) => ((c, "") :: found, args)

/-- Reads the leading arguments that are options; `fuel` is the number of arguments. -/
def scan (allowed : List Char) : Nat → List String → Except String Scanned
  | fuel + 1, arg :: args =>
    match arg.toList with
    | ['-', '-'] => .ok ([], args)
    | '-' :: c :: cs => do
      let (found, args) ← letters allowed args (c :: cs)
      let (more, args) ← scan allowed fuel args
      return (found ++ more, args)
    | _ => .ok ([], arg :: args)
  | _, args => .ok ([], args)

/-- A command with options, whose letters are `allowed`. -/
def withOptions (name allowed : String) (act : List Char → Builtin) : Builtin := fun args s =>
  match scan allowed.toList args.length args with
  | .ok (found, args) => act (found.map Prod.fst) args s
  | .error message => fail name message s

/-- A name with an optional value behind an equals sign. -/
def binding (arg : String) : String × Option String :=
  let name := arg.toList.takeWhile (· ≠ '=')
  match arg.toList.drop name.length with
  | _ :: value => (String.ofList name, some (String.ofList value))
  | [] => (arg, none)

/-- A text in quotes that stands for itself in a script. -/
def singleQuoted (text : String) : String :=
  let part (cs : List Char) : List Char :=
    if cs.head? = some '\x27' then '"' :: cs ++ ['"'] else '\x27' :: cs ++ ['\x27']
  match text.toList.splitBy fun a b => (a == '\x27') == (b == '\x27') with
  | [] => "''"
  | parts => String.ofList (parts.flatMap part)

/-- The order in which a table of `size` rows lists its names, which are kept in rows by their
letters. -/
def byRows {α : Type} (size : Nat) (entries : List (String × α)) : List (String × α) :=
  let weight (c : Char) : Int := if c.toNat < 128 then c.toNat else (c.toNat : Int) - 256
  let row (name : String) : Nat :=
    (((name.toList.head?.map Char.toNat).getD 0 * 16 + (name.toList.map weight).foldl (· + ·) 0 :
      Int) % 2 ^ 32).toNat % size
  (List.range size).flatMap fun i => entries.filter fun e => row e.1 == i

end Builtin

end PlaybookScan.Shell

import PlaybookScan.Shell.Bash.Assign
import PlaybookScan.Shell.Bash.Parser

/-!
# Commands inside the large shell

What the commands share that the large shell carries out itself: how they complain, and how they
read their options.
-/

set_option autoImplicit false

namespace PlaybookScan.Shell.Bash

/-- Carries out a command with its arguments, and answers its status. -/
abbrev Builtin := List String → Act Nat

namespace Builtin

/-- Reports a fault in the command `name`. -/
def complain (name message : String) : Act Unit := report (name ++ ": " ++ message)

/-- Reports a fault in the command `name`, which ends with a status. -/
def fail (status : Nat) (name message : String) : Act Nat := do
  complain name message
  return status

/-- What stands behind the names of commands where they tell how they are used. -/
def usages : List (String × String) :=
  [("alias", "[-p] [name[=value] ... ]"), ("bg", "[job_spec ...]"),
    ("builtin", "[shell-builtin [arg ...]]"), ("caller", "[expr]"),
    ("cd", "[-L|[-P [-e]] [-@]] [dir]"), ("command", "[-pVv] command [arg ...]"),
    ("compgen", "[-abcdefgjksuv] [-o option] [-A action] [-G globpat] [-W wordlist] " ++
      "[-F function] [-C command] [-X filterpat] [-P prefix] [-S suffix] [word]"),
    ("complete", "[-abcdefgjksuv] [-pr] [-DEI] [-o option] [-A action] [-G globpat] " ++
      "[-W wordlist] [-F function] [-C command] [-X filterpat] [-P prefix] [-S suffix] " ++
      "[name ...]"),
    ("compopt", "[-o|+o option] [-DEI] [name ...]"),
    ("declare", "[-aAfFgiIlnrtux] [name[=value] ...] or declare -p [-aAfFilnrtux] [name ...]"),
    ("dirs", "[-clpv] [+N] [-N]"), ("disown", "[-h] [-ar] [jobspec ... | pid ...]"),
    ("enable", "[-a] [-dnps] [-f filename] [name ...]"), ("eval", "[arg ...]"),
    ("exec", "[-cl] [-a name] [command [argument ...]] [redirection ...]"),
    ("export", "[-fn] [name[=value] ...] or export -p"),
    ("fc", "[-e ename] [-lnr] [first] [last] or fc -s [pat=rep] [command]"), ("fg", "[job_spec]"),
    ("getopts", "optstring name [arg ...]"),
    ("hash", "[-lr] [-p pathname] [-dt] [name ...]"), ("help", "[-dms] [pattern ...]"),
    ("history", "[-c] [-d offset] [n] or history -anrw [filename] or history -ps arg [arg...]"),
    ("jobs", "[-lnprs] [jobspec ...] or jobs -x command [args]"),
    ("kill", "[-s sigspec | -n signum | -sigspec] pid | jobspec ... or kill -l [sigspec]"),
    ("local", "[option] name[=value] ..."),
    ("mapfile", "[-d delim] [-n count] [-O origin] [-s count] [-t] [-u fd] [-C callback] " ++
      "[-c quantum] [array]"),
    ("popd", "[-n] [+N | -N]"), ("printf", "[-v var] format [arguments]"),
    ("pushd", "[-n] [+N | -N | dir]"), ("pwd", "[-LP]"),
    ("read", "[-ers] [-a array] [-d delim] [-i text] [-n nchars] [-N nchars] [-p prompt] " ++
      "[-t timeout] [-u fd] [name ...]"),
    ("readarray", "[-d delim] [-n count] [-O origin] [-s count] [-t] [-u fd] [-C callback] " ++
      "[-c quantum] [array]"),
    ("readonly", "[-aAf] [name[=value] ...] or readonly -p"),
    ("set", "[-abefhkmnptuvxBCEHPT] [-o option-name] [--] [-] [arg ...]"),
    ("shopt", "[-pqsu] [-o] [optname ...]"), ("source", "filename [arguments]"),
    (".", "filename [arguments]"), ("suspend", "[-f]"),
    ("times", ""), ("trap", "[-lp] [[arg] signal_spec ...]"), ("type", "[-afptP] name [name ...]"),
    ("typeset", "[-aAfFgiIlnrtux] name[=value] ... or typeset -p [-aAfFilnrtux] [name ...]"),
    ("ulimit", "[-SHabcdefiklmnpqrstuvxPRT] [limit]"), ("umask", "[-p] [-S] [mode]"),
    ("unalias", "[-a] name [name ...]"), ("unset", "[-f] [-v] [-n] [name ...]"),
    ("wait", "[-fn] [-p var] [id ...]")]

/-- Tells how the command `name` is used. -/
def usage (name : String) : Act Nat := do
  let text := (usages.lookup name).getD ""
  onState (·.complain (name ++ ": usage: " ++ name ++ (if text = "" then "" else " " ++ text)))
  return 2

/-- The end of a command that is used in a wrong way. -/
def misuse (name message : String) : Act Nat := do
  complain name message
  usage name

/-- Options of a command with their arguments, and the other arguments. -/
structure Options where
  found : List (Char × String)
  args : List String

namespace Options

def has (o : Options) (letter : Char) : Bool := o.found.any (·.1 == letter)

/-- The argument of the last option with this letter. -/
def value? (o : Options) (letter : Char) : Option String := o.found.reverse.lookup letter

/-- Reads the options in one argument, behind its hyphen. A letter of `allowed` that a colon follows
takes the rest of the argument, or the next one. -/
def letters (allowed : List Char) (args : List String) : List Char → Except String Options
  | [] => .ok ⟨[], args⟩
  | c :: cs =>
    if c = ':' ∨ !allowed.contains c then .error ("-" ++ String.singleton c ++ ": invalid option")
    else if ((allowed.dropWhile (· != c)).drop 1).head? = some ':' then
      if cs ≠ [] then .ok ⟨[(c, String.ofList cs)], args⟩
      else match args with
        | arg :: args => .ok ⟨[(c, arg)], args⟩
        | [] => .error ("-" ++ String.singleton c ++ ": option requires an argument")
    else (letters allowed args cs).map fun o => { o with found := (c, "") :: o.found }

/-- Reads the leading arguments that are options; `fuel` is the number of arguments. -/
def read (allowed : List Char) : Nat → List String → Except String Options
  | fuel + 1, arg :: args =>
    match arg.toList with
    | ['-', '-'] => .ok ⟨[], args⟩
    | '-' :: c :: cs => do
      let o ← letters allowed args (c :: cs)
      let more ← read allowed fuel o.args
      return ⟨o.found ++ more.found, more.args⟩
    | _ => .ok ⟨[], arg :: args⟩
  | _, args => .ok ⟨[], args⟩

end Options

/-- A command with options, whose letters are `allowed`. -/
def withOptions (name allowed : String) (act : Options → List String → Act Nat) : Builtin :=
  fun args =>
    match Options.read allowed.toList args.length args with
    | .ok o => act o o.args
    | .error message => misuse name message

/-- A number with a sign, and blanks around it. -/
def integer? (text : String) : Option Int :=
  let cs := Shell.Arithmetic.trim (Shell.Arithmetic.trim text.toList).reverse
  (Brace.integer? cs.reverse).filter fun n => Shell.Arithmetic.clamp n == n

def isName (text : String) : Bool := Parser.isName text.toList

def badName (name : String) : String := "\x60" ++ name ++ "': not a valid identifier"

/-- A name with a subscript, if there is one. -/
def nameAndKey? (text : String) : Option (String × Option String) :=
  let name := Lexer.leadingName text.toList
  match name, text.toList.drop name.length with
  | _ :: _, [] => some (text, none)
  | _ :: _, '[' :: rest =>
    if rest.getLast? = some ']' ∧ rest.length > 1 then
      some (String.ofList name, some (String.ofList rest.dropLast))
    else none
  | _, _ => none

/-- Gives the variable, or the element, that an argument names a text; says whether that worked. -/
def assignTo (command name text : String) : Act Bool := do
  match nameAndKey? name with
  | some (name, key) => Assign.give ⟨name, key, false, .text text⟩
  | none =>
    complain command (badName name)
    return false

/-- The status of success or failure. -/
def statusOf (ok : Bool) : Nat := if ok then 0 else 1

end Builtin

end PlaybookScan.Shell.Bash

import PlaybookScan.Shell.Bash.Printer
import PlaybookScan.Shell.Builtin.Signal

/-!
# Sessions of the large shell

A session is the state of a large shell: what every shell has, and the functions, the calls under
way and the settings that only this one has. An action works on a session and may stop before its
end, so that commands behind it are left out.
-/

set_option autoImplicit false

namespace PlaybookScan.Shell.Bash

/-- A function, and where it was defined. -/
structure Routine where
  line : Nat
  source : String
  body : Command
  exported : Bool
  /-- Lines to be added to those of the body. -/
  offset : Int

/-- A call under way. -/
structure Frame where
  function : String
  /-- The script that holds the commands that are run. -/
  source : String
  /-- The line of the call. -/
  line : Nat
  /-- The variables that get back a value, or none, when the function is left; a script that is read
  into another one has none. -/
  saved : Option (List (String × Option Variable))

structure Session extends State where
  routines : List (String × Routine)
  /-- Functions that must not be changed. -/
  locked : List String
  /-- Commands inside the shell that are not looked for. -/
  disabled : List String
  /-- How often programs were run whose paths are kept. -/
  hits : List (String × Nat)
  /-- The texts of background jobs. -/
  jobTexts : List (Nat × String)
  /-- The processes that were waited for, with their statuses. -/
  reaped : List (Nat × Nat)
  /-- The process of this shell, also if it is a subshell. -/
  own : Nat
  /-- Lines to be added to those of the script that is run. -/
  offset : Int
  /-- The last call first. -/
  frames : List Frame
  /-- The settings without letters that are on. -/
  features : List String
  /-- The status of each stage of the last pipeline. -/
  stages : List Nat
  /-- The number that random numbers are made of. -/
  seed : Nat
  /-- Milliseconds on the clock when the seconds are zero. -/
  started : Int
  /-- The last word of the last command. -/
  lastWord : String
  /-- The directories below the working directory, the last one put there first. -/
  stack : List String
  /-- The paths in the places of commands, the last one first, with the line and the command that is
  to read what is written there. -/
  channelPaths : List (String × Option (Nat × Command))
  /-- Number of texts around the command that were read as commands. -/
  nesting : Nat
  /-- Number of subshells around the command that is run. -/
  level : Nat
  /-- The script's text was an argument. -/
  isArgument : Bool
  /-- What complaints about the text of a script begin with. -/
  unit : String
  /-- The command that complaints about an expression name. -/
  complainer : String
  /-- The events whose commands are being run. -/
  trapped : List String
  /-- Names of variables that were worked out, and are not any more. -/
  plain : List String
  /-- The command that is run, or of which a trap tells. -/
  current : Option Command

/-- Why the commands behind an action are left out. -/
inductive Stop where
  /-- So many loops are left. -/
  | leave (levels : Nat)
  /-- All but the last of so many loops are left, and that one is continued. -/
  | again (levels : Nat)
  /-- The function or script is left. -/
  | back
  /-- The other commands that were read together are dropped. -/
  | dropped
  /-- The commands of all texts under way are dropped. -/
  | abandoned
  /-- The shell is left. -/
  | exit
  /-- The shell gets a signal. -/
  | signalled (number : Nat)
  /-- The command does not end. -/
  | stalled
  deriving DecidableEq

abbrev Act := ExceptT Stop (StateM Session)

namespace Session

/-- The name of the script, for messages. -/
def place (s : Session) : String :=
  match s.frames.head? with
  | some frame => if frame.source = "" then s.name else frame.source
  | none => s.name

def has (s : Session) (letter : Char) : Bool := s.options.contains letter

def enables (s : Session) (feature : String) : Bool := s.features.contains feature

end Session

/-- Changes what every shell has. -/
def onState (f : State → State) : Act Unit :=
  modify fun s => { s with toState := f s.toState }

/-- Does what every shell can do. -/
def inState {α : Type} (act : StateM State α) : Act α := do
  let (a, t) := act.run (← get).toState
  onState fun _ => t
  return a

def setStatus (status : Nat) : Act Unit := modify fun s => { s with status }

def write (text : String) : Act Unit := onState fun s => (s.write 1 text.toList).2

def writeLine (text : String) : Act Unit := write (text ++ "\n")

/-- Writes a message of the shell, which tells the place. -/
def reportAt (line : Nat) (message : String) : Act Unit := do
  let s ← get
  onState (·.complain (s.place ++ ": " ++ (if line = 0 then "" else "line " ++ toString line ++
    ": ") ++ message))

def report (message : String) : Act Unit := do reportAt (← get).line message

/-- Runs with another line in messages. -/
def atLine {α : Type} (line : Nat) (act : Act α) : Act α := do
  let before := (← get).line
  modify fun s => { s with line }
  try act
  finally modify fun s => { s with line := before }

/-- The status behind a fault that ends the shell. -/
def Session.fatalStatus (s : Session) : Nat := if s.isArgument && s.level = 0 then 127 else 1

/-- Ends the shell because of a fault that has been told. -/
def abort {α : Type} : Act α := do
  setStatus (← get).fatalStatus
  throw .exit

/-- Drops the commands that were read together because of a fault that has been told. -/
def drop {α : Type} : Act α := do
  setStatus 1
  throw .dropped

/-- Drops the commands of all texts under way because of a fault that has been told. -/
def abandon {α : Type} : Act α := do
  setStatus 1
  throw .abandoned

/-- Tells a fault that drops the commands that were read together. -/
def refuse {α : Type} (message : String) : Act α := do
  report message
  drop

/-- Settings without letters: the usual ones, and those that are on at the start. -/
def featureNames : List (String × Bool) :=
  [("autocd", false), ("assoc_expand_once", false), ("cdable_vars", false), ("cdspell", false),
    ("checkhash", false), ("checkjobs", false), ("checkwinsize", true), ("cmdhist", true),
    ("compat31", false), ("compat32", false), ("compat40", false), ("compat41", false),
    ("compat42", false), ("compat43", false), ("compat44", false), ("complete_fullquote", true),
    ("direxpand", false), ("dirspell", false), ("dotglob", false), ("execfail", false),
    ("expand_aliases", false), ("extdebug", false), ("extglob", false), ("extquote", true),
    ("failglob", false), ("force_fignore", true), ("globasciiranges", true),
    ("globskipdots", true), ("globstar", false), ("gnu_errfmt", false), ("histappend", false),
    ("histreedit", false), ("histverify", false), ("hostcomplete", true), ("huponexit", false),
    ("inherit_errexit", false), ("interactive_comments", true), ("lastpipe", false),
    ("lithist", false), ("localvar_inherit", false), ("localvar_unset", false),
    ("login_shell", false), ("mailwarn", false), ("no_empty_cmd_completion", false),
    ("nocaseglob", false), ("nocasematch", false), ("noexpand_translation", false),
    ("nullglob", false), ("patsub_replacement", true), ("progcomp", true),
    ("progcomp_alias", false), ("promptvars", true), ("restricted_shell", false),
    ("shift_verbose", false), ("sourcepath", true), ("varredir_close", false),
    ("xpg_echo", false)]

/-- The options by their long names. Those that no letter sets have one that cannot be typed. -/
def optionNames : List (String × Char) :=
  [("allexport", 'a'), ("braceexpand", 'B'), ("emacs", '\x01'), ("errexit", 'e'),
    ("errtrace", 'E'), ("functrace", 'T'), ("hashall", 'h'), ("histexpand", 'H'),
    ("history", '\x02'), ("ignoreeof", '\x03'), ("interactive-comments", '\x04'),
    ("keyword", 'k'), ("monitor", 'm'), ("noclobber", 'C'), ("noexec", 'n'), ("noglob", 'f'),
    ("nolog", '\x05'), ("notify", 'b'), ("nounset", 'u'), ("onecmd", 't'), ("physical", 'P'),
    ("pipefail", '\x06'), ("posix", '\x07'), ("privileged", 'p'), ("verbose", 'v'),
    ("vi", '\x08'), ("xtrace", 'x')]

/-- The letter of the option by which a pipeline fails with any of its stages. -/
def pipefail : Char := '\x06'

/-- The letters of options in the order in which they are listed. -/
def letterOrder : List Char := "abefhikmnptuvxBCEHPTcs".toList

end PlaybookScan.Shell.Bash

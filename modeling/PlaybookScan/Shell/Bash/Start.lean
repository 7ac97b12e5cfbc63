import PlaybookScan.Shell.Bash.Process
import PlaybookScan.Shell.Scope

/-!
# The start of a large shell

What a large shell reads from its arguments, and the variables that it starts with.
-/

set_option autoImplicit false

namespace PlaybookScan.Shell.Bash

/-- What a shell is to run. -/
inductive Source where
  | text (source : String)
  | file (name : String)
  | input
  /-- Nothing: it has written what was asked for. -/
  | nothing (status : Nat)

def version : List String := ["5", "2", "15", "1", "release", "x86_64-pc-linux-gnu"]

def versionText : String := "5.2.15(1)-release"

/-- The variables that a shell sets, in any case or where there are none. -/
def startVariables (s : State) : List (String × Variable) :=
  let value (text : String) : Variable := { Variable.blank with value := some text }
  let locked (v : Variable) : Variable := { v with readOnly := true }
  let empty (items : Items) : Variable := { Variable.blank with value := some "", items }
  let usual (name text : String) : List (String × Variable) :=
    match s.bindings.lookup name with
    | some _ => []
    | none => [(name, value text)]
  let level := (integerOf ((s.valueOf? "SHLVL").getD "")) + 1
  let level := if level < 0 then 0 else if 1000 ≤ level then 1 else level
  [("BASH", value "/usr/bin/bash"), ("BASHOPTS", locked (value "")),
    ("BASH_ALIASES", empty (.keyed [])), ("BASH_ARGC", empty (.indexed [])),
    ("BASH_ARGV", empty (.indexed [])), ("BASH_CMDS", empty (.keyed [])),
    ("BASH_LINENO", empty (.indexed [])), ("BASH_SOURCE", empty (.indexed [])),
    ("BASH_LOADABLES_PATH", value ("/usr/local/lib/bash:/usr/lib/bash:/opt/local/lib/bash:" ++
      "/usr/pkg/lib/bash:/opt/pkg/lib/bash:.")),
    ("BASH_VERSINFO", locked (Session.indexed version)), ("BASH_VERSION", value versionText),
    ("DIRSTACK", empty (.indexed [])), ("EUID", locked (Session.number 0)),
    ("GROUPS", empty (.indexed [])), ("HOSTNAME", value "host"), ("HOSTTYPE", value "x86_64"),
    ("IFS", value " \t\n"), ("MACHTYPE", value "x86_64-pc-linux-gnu"), ("OPTERR", value "1"),
    ("OPTIND", value "1"), ("OSTYPE", value "linux-gnu"),
    ("PPID", locked (Session.number (s.ancestors.headD 0))), ("PS4", value "+ "),
    ("SHELLOPTS", locked (value "")), ("UID", locked (Session.number 0)),
    ("SHLVL", { value (toString level) with exported := true })] ++
  usual "PATH" "/usr/local/sbin:/usr/local/bin:/usr/sbin:/usr/bin:/sbin:/bin" ++
  usual "SHELL" "/bin/bash" ++ usual "TERM" "dumb" ++
  match s.bindings.lookup "OLDPWD" with
  | some _ => []
  | none => [("OLDPWD", { Variable.blank with exported := true })]
where
  integerOf (text : String) : Int := (Builtin.integer? text).getD 0

/-- The session in which a new shell starts. -/
def newSession (s : State) (name : String) : Session :=
  let t := { newShell { s with bindings := [] } name with
    options := ['h', 'B', '\x04'], cwd := startDirectory s, line := 0 }
  let own := (("PWD", { Variable.blank with
    value := some (Octets.ofText t.cwd.text), exported := true }) :: startVariables s)
  let given := s.bindings.filter fun (name, _) =>
    !own.any (·.1 == name) && !name.startsWith "BASH_FUNC_"
  { t with
    bindings := given ++ own
    routines := []
    locked := []
    disabled := []
    hits := []
    jobTexts := []
    reaped := []
    own := s.pid
    offset := 0
    frames := []
    features := (featureNames.filter Prod.snd).map Prod.fst
    stages := [0]
    seed := 1
    started := s.clock
    lastWord := (s.valueOf? "_").getD name
    stack := []
    channelPaths := []
    nesting := 0
    level := 0
    isArgument := false
    unit := ""
    complainer := ""
    trapped := []
    plain := []
    current := none }

/-- The functions that the variables of the outer shell hold, as commands that define them. -/
def handedOn (s : State) : List String :=
  s.bindings.filterMap fun (name, v) =>
    if name.startsWith "BASH_FUNC_" ∧ name.endsWith "%%" then
      let routine := String.ofList ((name.toList.drop 10).dropLast.dropLast)
      v.value.map fun text => routine ++ " " ++ text
    else none

/-- Writes how the shell is used. -/
def usageLines : List String :=
  ["Usage:\tbash [GNU long option] [option] ...",
    "\tbash [GNU long option] [option] script-file ...", "GNU long options:", "\t--debug",
    "\t--debugger", "\t--dump-po-strings", "\t--dump-strings", "\t--help", "\t--init-file",
    "\t--login", "\t--noediting", "\t--noprofile", "\t--norc", "\t--posix", "\t--pretty-print",
    "\t--rcfile", "\t--restricted", "\t--verbose", "\t--version", "Shell options:",
    "\t-ilrsD or -c command or -O shopt_option\t\t(invocation only)",
    "\t-abefhkmnptuvxBCEHPT or -o option"]

def versionLine : String := "GNU bash, version " ++ versionText ++ " (x86_64-pc-linux-gnu)"

/-- Long options that change nothing here, and whether they have an argument. -/
def longOptions : List (String × Bool) :=
  [("debug", false), ("debugger", false), ("login", false), ("noediting", false),
    ("noprofile", false), ("norc", false), ("restricted", false), ("rcfile", true),
    ("init-file", true)]

/-- Ends the start with a complaint. -/
def startFails (message : String) : Act Source := do
  onState fun s => s.complain (s.name ++ ": " ++ message)
  return .nothing 2

/-- What the arguments of a shell ask for so far. -/
structure Asked where
  /-- Commands are given as an argument. -/
  command : Bool
  /-- Commands are read from the input. -/
  input : Bool

/-- Reads the arguments of a shell; `fuel` is more than their number. -/
def start (fuel : Nat) (asked : Asked) (args : List String) : Act Source := do
  match fuel with
  | 0 => return .nothing 2
  | fuel + 1 =>
    let finish (args : List String) : Act Source := do
      if asked.command then
        match args with
        | [] => startFails "-c: option requires an argument"
        | source :: args =>
          onState fun s => { s with name := args.headD s.name, args := args.tail }
          modify fun s => { s with isArgument := true }
          return .text source
      else match args with
        | [] =>
          Builtin.setLetter true 's'
          return .input
        | file :: rest =>
          if asked.input then
            Builtin.setLetter true 's'
            Builtin.setArgs args
            return .input
          onState fun s => { s with args := rest }
          return .file file
    match args with
    | [] => finish []
    | arg :: rest =>
      match arg.toList with
      | ['-', '-'] | ['-'] => finish rest
      | '-' :: '-' :: name =>
        let name := String.ofList name
        match name with
        | "version" =>
          writeLine versionLine
          return .nothing 0
        | "help" =>
          usageLines.forM writeLine
          return .nothing 0
        | "posix" =>
          Builtin.setLetter true '\x07'
          start fuel asked rest
        | "verbose" =>
          Builtin.setLetter true 'v'
          start fuel asked rest
        | name =>
          match longOptions.lookup name with
          | some takes => start fuel asked (if takes then rest.tail else rest)
          | none =>
            discard <| startFails (arg ++ ": invalid option")
            usageLines.forM fun line => onState (·.complain line)
            return .nothing 2
      | sign :: c :: cs =>
        if sign ≠ '-' ∧ sign ≠ '+' then finish args
        else letters fuel asked (sign == '-') (c :: cs) rest
      | _ => finish args
where
  /-- Reads the letters of one argument. -/
  letters (fuel : Nat) (asked : Asked) (on : Bool) (cs : List Char) (rest : List String) :
      Act Source := do
    match cs with
    | [] => start fuel asked rest
    | c :: cs =>
      match c with
      | 'c' => letters fuel { asked with command := true } on cs rest
      | 's' => letters fuel { asked with input := true } on cs rest
      | 'o' =>
        match rest with
        | [] =>
          Builtin.listOptions (!on)
          return .nothing 0
        | name :: rest =>
          match optionNames.lookup name with
          | some letter =>
            Builtin.setLetter on letter
            letters fuel asked on cs rest
          | none =>
            let shell := (← get).name
            startFails (shell ++ ": " ++ name ++ ": invalid option name")
      | 'O' =>
        match rest with
        | [] =>
          let s ← get
          featureNames.forM fun (name, _) => writeLine (Builtin.switchLine name (s.enables name))
          return .nothing 0
        | name :: rest =>
          if (featureNames.lookup name).isSome then
            Builtin.setFeature on name
            letters fuel asked on cs rest
          else startFails (name ++ ": invalid shell option name")
      | c =>
        if "lirD".contains c then letters fuel asked on cs rest
        else if Builtin.optionLetters.contains c then
          Builtin.setLetter on c
          letters fuel asked on cs rest
        else
          discard <| startFails (String.ofList [if on then '-' else '+', c] ++ ": invalid option")
          usageLines.forM fun line => onState (·.complain line)
          return .nothing 2

end PlaybookScan.Shell.Bash

import PlaybookScan.Shell.Builtin.Signal
import PlaybookScan.Shell.Utility.Stream

/-!
# Programs that run others

What such programs read from their arguments: variables, limits of time, and the command lines that
they run.
-/

set_option autoImplicit false

namespace PlaybookScan.Shell

/-- What is to be run, and how. -/
structure Launch where
  args : List String
  /-- Milliseconds after which a signal is sent. -/
  limit : Option Nat
  signal : Nat
  /-- Milliseconds from there to the signal that ends everything. -/
  grace : Option Nat
  /-- The status is that of the command, even if it is killed. -/
  preserves : Bool
  /-- The signals are reported. -/
  tells : Bool

namespace Launch

open Utility (misuse complain quoted quotedFile cause)

/-- Runs a command line as it is. -/
def plain (args : List String) : Launch := ⟨args, none, 15, none, false, false⟩

/-- A launch, or the status where there is none. -/
abbrev Plan := StateM State (Except Nat Launch)

def refuse (act : StateM State Nat) : Plan := do return .error (← act)

/-- Reads the arguments of a program with options. -/
def withOptions (o : Utility.Options) (status : Nat) (act : Utility.Arguments → Plan)
    (args : List String) : Plan :=
  match o.read args with
  | .ok a => act a
  | .error message => refuse (misuse status message)

/-! ## Variables -/

/-- The variables that the first words make, and the other words. -/
def bindings : List String → List (String × String) × List String
  | [] => ([], [])
  | arg :: args =>
    match arg.toList.dropWhile (· != '=') with
    | [] => ([], arg :: args)
    | _ :: value =>
      let (more, rest) := bindings args
      ((String.ofList (arg.toList.takeWhile (· != '=')), String.ofList value) :: more, rest)

/-- A text that is split into words. -/
structure Splitting where
  /-- The word that is being read, the last character first. -/
  word : Option (List Char)
  /-- The last word comes first. -/
  done : List String

def Splitting.put (cs : List Char) (s : Splitting) : Splitting :=
  { s with word := some (cs.reverse ++ s.word.getD []) }

def Splitting.close (s : Splitting) : Splitting :=
  match s.word with
  | some cs => ⟨none, String.ofList cs.reverse :: s.done⟩
  | none => s

/-- Splits a text into words: quotes hold words together, and names in braces stand for variables.
`fuel` is the number of characters. -/
def split (valueOf : String → Option String) (quote : Option Char) (s : Splitting) :
    Nat → List Char → Except String (List String)
  | 0, _ | _, [] =>
    if quote.isSome then .error "no terminating quote in -S string"
    else .ok s.close.done.reverse
  | fuel + 1, c :: rest =>
    let go (s : Splitting) (rest : List Char) : Except String (List String) :=
      split valueOf quote s fuel rest
    let isBlank : Bool := c == ' ' || ('\t' ≤ c && c ≤ '\r')
    match quote, c with
    | some '\x27', '\\' =>
      match rest with
      | '\\' :: rest => go (s.put ['\\']) rest
      | '\x27' :: rest => go (s.put ['\x27']) rest
      | rest => go (s.put ['\\']) rest
    | some '\x27', c =>
      if c = '\x27' then split valueOf none (s.put []) fuel rest else go (s.put [c]) rest
    | quote, '\\' =>
      match rest with
      | [] => .error "invalid backslash at end of string in -S"
      | '_' :: rest => if quote.isSome then go (s.put [' ']) rest else go s.close rest
      | 'c' :: _ =>
        if quote.isSome then .error "'\\c' must not appear in double-quoted -S string"
        else .ok s.close.done.reverse
      | d :: rest =>
        match if "\"#$'\\".toList.contains d then some d else if "fnrtv".toList.contains d then
          Printf.letter? d else none with
        | some d => go (s.put [d]) rest
        | none => .error ("invalid sequence '\\" ++ String.singleton d ++ "' in -S")
    | quote, '$' =>
      let name := (rest.drop 1).takeWhile fun c => c.isAlphanum || c == '_'
      match rest.head?, (rest.drop (1 + name.length)).head? with
      | some '\x7b', some '\x7d' =>
        if name = [] then .error ("only $\x7bVARNAME\x7d expansion is supported, error at: $" ++
          String.ofList rest)
        else
          let rest := rest.drop (name.length + 2)
          match valueOf (String.ofList name) with
          | some value => split valueOf quote (s.put value.toList) fuel rest
          | none => split valueOf quote s fuel rest
      | _, _ => .error ("only $\x7bVARNAME\x7d expansion is supported, error at: $" ++
          String.ofList rest)
    | some _, '"' => split valueOf none (s.put []) fuel rest
    | some _, c => go (s.put [c]) rest
    | none, '"' | none, '\x27' => split valueOf (some c) (s.put []) fuel rest
    | none, c =>
      if isBlank then go s.close rest
      else if c = '#' ∧ s.word.isNone then .ok s.close.done.reverse
      else go (s.put [c]) rest

/-- Puts words in the place of the option that holds them as one text. Answers also what is to be
said of it. -/
def spread (valueOf : String → Option String) : Nat → List String → Except String (List String)
  | 0, args => .ok args
  | _, [] => .ok []
  | fuel + 1, arg :: rest =>
    let text? : Option (String × String × List String) :=
      match arg.toList, rest with
      | '-' :: cs, rest =>
        let flags := cs.takeWhile fun c => c == 'i' || c == 'v' || c == '0'
        match cs.drop flags.length, rest with
        | ['S'], text :: rest => some (String.ofList flags, text, rest)
        | 'S' :: text, rest => some (String.ofList flags, String.ofList text, rest)
        | _, text :: rest => if arg = "--split-string" then some ("", text, rest) else none
        | _, [] => none
      | _, _ => none
    let text? := if arg.startsWith "--split-string=" then
        some ("", (arg.drop 15).toString, rest) else text?
    match text? with
    | some (flags, text, rest) => do
      let words ← split valueOf none ⟨none, []⟩ (text.length + 1) text.toList
      let more ← spread valueOf fuel (words ++ rest)
      return if flags = "" then more else ("-" ++ flags) :: more
    | none =>
      if arg = "-u" ∨ arg = "-C" then
        match rest with
        | value :: rest => (spread valueOf fuel rest).map (arg :: value :: ·)
        | [] => .ok [arg]
      else if arg ≠ "--" ∧ arg ≠ "-" ∧ arg.startsWith "-" then
        (spread valueOf fuel rest).map (arg :: ·)
      else .ok (arg :: rest)

def envOptions : Utility.Options :=
  .leading "iu:0S:vC:αβ::γ::δ::"
    [("ignore-environment", 'i'), ("null", '0'), ("unset", 'u'), ("chdir", 'C'), ("debug", 'v'),
      ("split-string", 'S'), ("list-signal-handling", 'α'), ("block-signal", 'β'),
      ("default-signal", 'γ'), ("ignore-signal", 'δ')]

/-- Changes variables. -/
def env (args : List String) : Plan := do
  let s ← get
  match spread s.valueOf? (args.foldl (fun n a => n + a.length + 1) 2) args with
  | .error message => complain message; return .error 125
  | .ok args => withOptions envOptions 125 (fun a => do
    let operands := if a.operands.head? = some "-" then a.operands.tail else a.operands
    let tell (message : String) : StateM State Unit := do
      if a.has 'v' then modify (·.complain message)
    match (a.values 'u').find? fun name => name = "" ∨ name.contains '=' with
    | some name =>
      complain ("cannot unset " ++ quoted name ++ ": Invalid argument")
      return .error 125
    | none =>
    if a.has 'i' ∨ a.operands.head? = some "-" then
      tell "cleaning environ"
      modify fun s => { s with bindings := [] }
    else (a.values 'u').forM fun name => do
      tell ("unset:    " ++ name)
      modify (·.unset name)
    let (new, command) := bindings operands
    new.forM fun (name, value) => do
      tell ("setenv:   " ++ name ++ "=" ++ value)
      modify fun s => (s.assign name value).exportVariable name
    if command = [] then
      if a.has 'C' then return ← refuse (misuse 125 "must specify command with --chdir (-C)")
      let stop := if a.has '0' then "\x00" else "\n"
      let s ← get
      s.environment.forM fun (name, v) =>
        Utility.write (name ++ "=" ++ v.value.getD "" ++ stop).toList
      return .error 0
    if a.has '0' then return ← refuse (misuse 125 "cannot specify --null (-0) with command")
    match a.value? 'C' with
    | some directory =>
      let s ← get
      match s.disk.locate true s.cwd (State.path directory) with
      | .ok (place, some (.directory _)) =>
        tell ("chdir:    " ++ quotedFile directory)
        set { s with cwd := ⟨"/" ++ "/".intercalate place⟩ }
      | found =>
        let e := match found with
          | .ok (_, some _) => .notADirectory
          | .ok (_, none) => .noSuchFile
          | .error e => e
        complain ("cannot change directory to " ++ quotedFile directory ++ ": " ++ cause e)
        return .error 125
    | none => pure ()
    if a.has 'δ' then
      let names := match (a.value? 'δ').getD "" with
        | "" => ["HUP", "INT", "QUIT", "PIPE", "ALRM", "TERM", "USR1", "USR2", "CHLD"]
        | text => text.splitOn ","
      modify fun s => { s with ignored := names ++ s.ignored }
    tell ("executing: " ++ command.headD "")
    ((List.range command.length).zip command).forM fun (i, word) =>
      tell ("   arg[" ++ toString i ++ "]= " ++ quotedFile word)
    return .ok (plain command)) args

/-! ## Time and priority -/

/-- Limits the time of a command. -/
def timeout : List String → Plan :=
  withOptions (.leading "k:s:vfp" [("kill-after", 'k'), ("signal", 's'), ("verbose", 'v'),
    ("foreground", 'f'), ("preserve-status", 'p')]) 125 fun a => do
    let interval (text : String) : Except String Nat :=
      match Utility.milliseconds? text with
      | some n => .ok n
      | none => .error ("invalid time interval " ++ quoted text)
    let options : Except String (Option Nat × Nat) := do
      let grace ← (a.value? 'k').mapM interval
      match Builtin.signal? ((a.value? 's').getD "TERM") with
      | some n => return (grace, n)
      | none => throw (quoted ((a.value? 's').getD "") ++ ": invalid signal")
    match options, a.operands with
    | .error message, _ => refuse (misuse 125 message)
    | .ok _, [] | .ok _, [_] => refuse (do Utility.hint; return 125)
    | .ok (grace, signal), duration :: command =>
      match interval duration with
      | .error message => refuse (misuse 125 message)
      | .ok n =>
        let limit := if n = 0 then none else some n
        return .ok ⟨command, limit, signal, grace.filter (· ≠ 0), a.has 'p', a.has 'v'⟩

/-- Makes a command more or less patient. -/
def nice (args : List String) : Plan :=
  let isNumber (cs : List Char) : Bool := cs != [] && cs.all Char.isDigit
  let args := args.map fun arg => match arg.toList with
    | '-' :: '-' :: cs | '-' :: '+' :: cs =>
      if isNumber cs then "-n" ++ (arg.drop 1).toString else arg
    | '-' :: cs => if isNumber cs then "-n" ++ String.ofList cs else arg
    | _ => arg
  withOptions (.leading "n:" [("adjustment", 'n')]) 125 (fun a => do
    let text := (a.value? 'n').getD "10"
    let digits := if text.startsWith "+" then (text.drop 1).toString else text
    match digits.toInt?, a.operands with
    | none, _ => complain ("invalid adjustment " ++ quoted text); return .error 125
    | some _, [] =>
      if a.has 'n' then refuse (misuse 125 "a command must be given with an adjustment")
      else
        Utility.writeLine (toString (← get).niceness)
        return .error 0
    | some n, command =>
      modify fun s => { s with niceness := max (-20) (min 19 (s.niceness + n)) }
      return .ok (plain command)) args

/-! ## Other surroundings -/

/-- Runs a command as it is, behind options that change nothing here. -/
def through (letters missing : String) (status : Nat) : List String → Plan :=
  withOptions (.leading letters []) status fun a =>
    if a.operands = [] then refuse (misuse status missing)
    else return .ok (plain a.operands)

/-- The way in which a stream keeps what is written to it. -/
def isBuffering (text : String) : Bool :=
  text = "L" ∨ (Sizes.read true text.toList).toOption.isSome

def stdbuf : List String → Plan :=
  withOptions (.leading "i:o:e:" [("input", 'i'), ("output", 'o'), ("error", 'e')]) 125 fun a => do
    match a.options.find? fun (_, mode) => !isBuffering mode with
    | some (_, mode) => complain ("invalid mode " ++ quoted mode); return .error 125
    | none =>
      if (a.values 'i').contains "L" then
        refuse (misuse 125 "line buffering stdin is meaningless")
      else if a.operands = [] then refuse (misuse 125 "missing operand")
      else if a.options = [] then
        refuse (misuse 125 "you must specify a buffering mode option")
      else return .ok (plain a.operands)

def nohup (args : List String) : Plan := do
  match ← through "" "missing operand" 125 args with
  | .ok l =>
    modify fun s => { s with ignored := "HUP" :: s.ignored }
    return .ok l
  | found => return found

/-- Runs a command while a file is held, which is made if it is not there. -/
def flock : List String → Plan :=
  withOptions (.leading "sxeunw:oE:c:F" [("shared", 's'), ("exclusive", 'x'), ("unlock", 'u'),
    ("nonblock", 'n'), ("timeout", 'w'), ("close", 'o'), ("conflict-exit-code", 'E'),
    ("command", 'c')]) 64 fun a => do
    match a.operands, a.value? 'c' with
    | [], _ => refuse (misuse 64 "not enough arguments")
    | [file], none =>
      if file ≠ "" ∧ file.toList.all Char.isDigit then return .error 0
      else
        complain ("bad file descriptor: " ++ quoted file)
        return .error 64
    | file :: command, text =>
      let s ← get
      match s.disk.writeFile s.cwd (State.path file) s.newMode true [] with
      | .ok disk =>
        set { s with disk }
        return .ok (plain (match text, command with
          | some text, _ => ["/bin/sh", "-c", text]
          | none, "-c" :: text :: _ => ["/bin/sh", "-c", text]
          | none, command => command))
      | .error .isADirectory => return .ok (plain command)
      | .error e =>
        complain ("cannot open lock file " ++ file ++ ": " ++ cause e)
        return .error 66

/-- Runs a command behind the set of processors that it may use. -/
def taskset : List String → Plan :=
  withOptions (.leading "apc" [("cpu-list", 'c'), ("all-tasks", 'a'), ("pid", 'p')]) 1 fun a =>
    if a.operands.length < 2 then refuse (misuse 1 "bad usage")
    else return .ok (plain (a.operands.drop 1))

/-- How a program of this name launches another. -/
def named? (name : String) : Option (List String → Plan) :=
  match name with
  | "env" => some env
  | "timeout" => some timeout
  | "nohup" => some nohup
  | "nice" => some nice
  | "setsid" => some (through "cfw" "no command specified" 1)
  | "stdbuf" => some stdbuf
  | "ionice" => some (through "c:n:p:P:u:t" "bad usage" 1)
  | "flock" => some flock
  | "taskset" => some taskset
  | _ => none

/-- Says that a command cannot be run, in the words of the program `name`. -/
def complaint (name : String) (command : String) (e : IoError) : String :=
  (match name with
  | "env" | "nice" => quoted command
  | "setsid" | "ionice" | "taskset" => "failed to execute " ++ command
  | _ => "failed to run command " ++ quoted command) ++ ": " ++ cause e

end Launch

end PlaybookScan.Shell

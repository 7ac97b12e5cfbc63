import PlaybookScan.Shell.State
import PlaybookScan.Shell.Utility.Quoting

/-!
# Programs

What the programs of the system share: how they read their arguments, how they complain, and how
they open the files that their arguments name.
-/

set_option autoImplicit false

namespace PlaybookScan.Shell

/-- A program: gets its arguments and answers its status. -/
abbrev Utility := List String → StateM State Nat

/-- How a process ended. -/
inductive Ending where
  | exited (status : Nat)
  | signalled (signal : Nat)
  /-- It could not be started. -/
  | refused (e : IoError)
  /-- It does not end. -/
  | stalled

/-- Runs a command line in a process of its own. -/
abbrev Host := List String → StateM State Ending

namespace Host

/-- Has a shell run a text. -/
def shell (h : Host) (text : String) : StateM State Ending := h ["sh", "-c", text]

/-- Runs a command line, and takes its output. -/
def outputOf (h : Host) (args : List String) : StateM State (List Char × Ending) := do
  let s ← get
  let (n, inner) := s.newPipe
  set (inner.open_ 1 (.pipe n))
  let ending ← h args
  modify fun t => { t with channels := s.channels, clock := t.pipeEnd n t.clock }
  let (text, cycle) := (← get).pipeContent n
  return (text ++ State.cycled State.flood cycle, ending)

/-- Has a shell run a text, and takes its output. -/
def output (h : Host) (text : String) : StateM State (List Char × Ending) :=
  h.outputOf ["sh", "-c", text]

end Host

namespace Utility

def write (text : List Char) : StateM State Unit := modify fun s => (s.write 1 text).2

def writeLine (text : String) : StateM State Unit := write (text ++ "\n").toList

/-- Complains under the name by which the program was called. -/
def complain (message : String) : StateM State Unit :=
  modify fun s => s.complain (s.name ++ ": " ++ message)

/-- Tells how to get help. -/
def hint : StateM State Unit :=
  modify fun s => s.complain ("Try '" ++ s.name ++ " --help' for more information.")

/-- Complains of the arguments. -/
def misuse (status : Nat) (message : String) : StateM State Nat := do
  complain message
  hint
  return status

/-- The operating system's words for an error. -/
def cause : IoError → String
  | .system n => IoError.systemText n
  | .other text => text

def quoted (word : String) : String := Quoting.plain word

/-- The name of a file within a sentence. -/
def quotedFile (name : String) : String := Quoting.always name

/-- The name of a file in front of a colon. -/
def fileTitle (name : String) : String := Quoting.ifNeeded name

/-! ## Options -/

/-- What an option has to have. -/
inductive Demand where
  | nothing
  | argument
  /-- An argument, if one is attached to it. -/
  | attached
  deriving DecidableEq

/-- The options of a program: letters, those with an argument before a colon, those that may have
one before two, and long names for some of them. Options with a long name alone get a letter that no
argument can hold. -/
structure Options where
  letters : List Char
  names : List (String × Char)
  /-- Options may stand behind operands. -/
  mixed : Bool

/-- Options with their arguments, and the operands. -/
structure Arguments where
  options : List (Char × String)
  operands : List String

namespace Arguments

def has (a : Arguments) (letter : Char) : Bool := a.options.any (·.1 == letter)

/-- The argument of the last option with this letter. -/
def value? (a : Arguments) (letter : Char) : Option String :=
  (a.options.reverse.find? (·.1 == letter)).map Prod.snd

def values (a : Arguments) (letter : Char) : List String :=
  (a.options.filter (·.1 == letter)).map Prod.snd

def addOption (letter : Char) (value : String) (a : Arguments) : Arguments :=
  { a with options := (letter, value) :: a.options }

def addOperand (operand : String) (a : Arguments) : Arguments :=
  { a with operands := operand :: a.operands }

end Arguments

namespace Options

/-- Options whose letters, and their arguments, are written as in `of "n:v" []`. -/
def of (letters : String) (names : List (String × Char)) : Options := ⟨letters.toList, names, true⟩

/-- As `of`, but the first operand ends the options. -/
def leading (letters : String) (names : List (String × Char)) : Options :=
  ⟨letters.toList, names, false⟩

def knows (o : Options) (c : Char) : Bool := c != ':' && o.letters.contains c

def demand (o : Options) (c : Char) : Demand :=
  match (o.letters.dropWhile (· != c)).drop 1 with
  | ':' :: ':' :: _ => .attached
  | ':' :: _ => .argument
  | _ => .nothing

/-- Reads letters behind a hyphen: options with their arguments, and the letter, if any, that still
needs one. -/
def cluster (o : Options) : List Char → Except String (List (Char × String) × Option Char)
  | [] => .ok ([], none)
  | c :: cs =>
    if !o.knows c then .error ("invalid option -- '" ++ String.singleton c ++ "'")
    else match o.demand c with
      | .nothing => (cluster o cs).map fun (found, open_) => ((c, "") :: found, open_)
      | .attached => .ok ([(c, String.ofList cs)], none)
      | .argument => if cs = [] then .ok ([], some c) else .ok ([(c, String.ofList cs)], none)

/-- Reads a long option: its full name, the letter that it stands for, and its argument, if it needs
none of the arguments behind. -/
def long (o : Options) (text : String) : Except String (String × Char × Option String) :=
  let name := String.ofList (text.toList.takeWhile (· != '='))
  let value := String.ofList ((text.toList.drop name.length).tail)
  let assigned : Bool := name.length < text.length
  let candidates := match o.names.lookup name with
    | some c => [(name, c)]
    | none => o.names.filter fun (full, _) => full.startsWith name
  match candidates with
  | [] => .error ("unrecognized option '--" ++ text ++ "'")
  | (full, c) :: more =>
    if more.any (·.2 != c) then
      .error ("option '--" ++ text ++ "' is ambiguous; possibilities:" ++
        String.join (candidates.map fun (full, _) => " '--" ++ full ++ "'"))
    else match o.demand c with
      | .argument => .ok (full, c, if assigned then some value else none)
      | .attached => .ok (full, c, some value)
      | .nothing =>
        if assigned then .error ("option '--" ++ full ++ "' doesn't allow an argument")
        else .ok (full, c, some "")

/-- Reads all arguments. -/
def read (o : Options) : List String → Except String Arguments
  | [] => .ok ⟨[], []⟩
  | arg :: args =>
    match arg.toList with
    | ['-', '-'] => .ok ⟨[], args⟩
    | '-' :: '-' :: _ => do
      match ← o.long (String.ofList (arg.toList.drop 2)), args with
      | (_, c, some value), args => return (← read o args).addOption c value
      | (_, c, none), value :: args => return (← read o args).addOption c value
      | (full, _, none), [] => throw ("option '--" ++ full ++ "' requires an argument")
    | '-' :: c :: cs => do
      let (found, open_) ← o.cluster (c :: cs)
      let a ← match open_, args with
        | none, args => read o args
        | some d, value :: args => pure ((← read o args).addOption d value)
        | some d, [] => throw ("option requires an argument -- '" ++ String.singleton d ++ "'")
      return { a with options := found ++ a.options }
    | _ =>
      if o.mixed then return (← read o args).addOperand arg
      else return ⟨[], arg :: args⟩

end Options

/-- A program with options; `status` tells of wrong ones. -/
def withOptions (o : Options) (status : Nat) (act : Arguments → StateM State Nat) : Utility :=
  fun args =>
    match o.read args with
    | .ok a => act a
    | .error message => misuse status message

/-! ## Files -/

/-- The descriptor under which programs open files. -/
def fileDescriptor : Nat := 99

/-- The descriptor that a path stands for. -/
def standard? (path : String) : Option Nat :=
  match path with
  | "/dev/stdin" | "/dev/fd/0" => some 0
  | "/dev/stdout" | "/dev/fd/1" => some 1
  | "/dev/stderr" | "/dev/fd/2" => some 2
  | _ => none

/-- Opens the file of this name, or the input if it is a hyphen; answers the descriptor. -/
def openOperand (operand : String) : StateM State (Except IoError Nat) := do
  let s ← get
  match if operand = "-" then some 0 else standard? operand with
  | some n => return .ok n
  | none =>
    let opened (channel : Channel) (s : State) : StateM State (Except IoError Nat) := do
      set (s.open_ fileDescriptor channel)
      return .ok fileDescriptor
    match s.disk.node s.cwd (State.path operand) with
    | .ok (.device .zero) => opened .zero s
    | .ok (.device .null) => opened .null s
    | .ok (.directory _) => opened .directory s
    | .ok (.file content _) =>
      let (n, s) := s.addInput ⟨Octets.ofBytes content, [], s.clock, true⟩
      opened (.input n) s
    | .ok (.closed _ e) | .error e => return .error e
    | .ok _ =>
      let (n, s) := s.newInput [] s.clock
      opened (.input n) s

/-- Reads a descriptor with `act`. -/
def readWith {α : Type} (descriptor : Nat) (act : State → Option α × State) :
    StateM State (Except IoError α) := do
  let s ← get
  match act s with
  | (some x, t) => set t; return .ok x
  | (none, t) => set t; return .error (s.readFault descriptor)

/-- Reads all that the operand names. -/
def readOperand (operand : String) : StateM State (Except IoError (List Char)) := do
  match ← openOperand operand with
  | .ok n => readWith n (·.readAll n)
  | .error e => return .error e

/-- Reads the operands one after the other and gives each to `act`; complains of those that cannot
be read. -/
def forOperands (describe : String → String → String) (failure : Nat) (operands : List String)
    (act : String → List Char → StateM State Unit) : StateM State Nat := do
  let operands := if operands = [] then ["-"] else operands
  operands.foldlM (fun status operand => do
    match ← readOperand operand with
    | .ok text => act operand text; return status
    | .error e => complain (describe operand (cause e)); return failure) 0

/-- The usual complaint about a file. -/
def ofOperand (operand cause : String) : String := fileTitle operand ++ ": " ++ cause

/-- Opens a file to be written over or behind what it holds; answers the descriptor. -/
def openOutput (append : Bool) (operand : String) : StateM State (Except IoError Nat) := do
  let s ← get
  match standard? operand with
  | some n => return .ok n
  | none =>
    match s.disk.writeFile s.cwd (State.path operand) s.newMode append [] with
    | .error e => return .error e
    | .ok disk =>
      let channel := match s.disk.node s.cwd (State.path operand) with
        | .ok (.device _) => .null
        | _ => Channel.file (s.cwd.join (State.path operand))
      set ({ s with disk }.open_ fileDescriptor channel)
      return .ok fileDescriptor

/-- Lines with their newlines. -/
def lines (cs : List Char) : List (List Char) :=
  let pieces := cs.splitOn '\n'
  let whole := pieces.dropLast.map (· ++ ['\n'])
  match pieces.getLast? with
  | some [] | none => whole
  | some last => whole ++ [last]

/-- A line without its newline. -/
def chomp (line : List Char) : List Char :=
  if line.getLast? = some '\n' then line.dropLast else line

/-- The lines of a text without the character that ends each of them. -/
def linesUpTo (stop : Char) (cs : List Char) : List (List Char) :=
  let pieces := cs.splitOn stop
  if pieces.getLast? = some [] then pieces.dropLast else pieces

/-- Milliseconds that no run waits for. -/
def forever : Nat := 2 ^ 40

/-- The output is read as long as there is any: nothing but the end of the program ends it. -/
def isUnbounded (s : State) : Bool :=
  match s.channel? 1 with
  | some (.pipe n) => n < 2
  | _ => true

/-- Writes a text again and again, until nobody reads it. -/
def writeForever (text : List Char) : StateM State Unit := do
  let s ← get
  if isUnbounded s then
    write (State.cycled State.flood text)
    modify fun s => { s with clock := s.clock + forever }
  else set (s.writeForever 1 text)

end Utility

end PlaybookScan.Shell

import PlaybookScan.Disk.Lookup
import PlaybookScan.Shell.Command
import PlaybookScan.Shell.Octets

/-!
# The state of a shell

A running shell has variables, arguments and open descriptors of its own; the disk, the pipes and
the clock it shares with the processes that it starts. What is written into a pipe is kept with its
time, so that the output of processes that run side by side can be put into order.
-/

set_option autoImplicit false

namespace PlaybookScan.Shell

/-- Something written into a pipe. -/
structure Chunk where
  /-- Milliseconds on the clock. -/
  time : Nat
  /-- The background job that wrote it, or zero. -/
  job : Nat
  text : List Char
  /-- It is written again and again. -/
  endless : Bool

/-- What a descriptor leads to. -/
inductive Channel where
  | null
  | zero
  /-- The end of a pipe that is written into. -/
  | pipe (index : Nat)
  /-- Bytes to be read. -/
  | input (index : Nat)
  /-- A directory, which cannot be read as bytes. -/
  | directory
  /-- A file that is written at its end. -/
  | file (path : Path)
  deriving DecidableEq

/-- Bytes to be read, all of them there at the time `ready`. -/
structure Input where
  text : List Char
  /-- What comes again and again behind the text, if it is not empty. -/
  cycle : List Char
  ready : Nat
  /-- Comes from a file, so that a reader can give back what it does not need. -/
  seekable : Bool

/-- The elements of a variable that can have several. -/
inductive Items where
  | none
  /-- In the order of their numbers. -/
  | indexed (items : List (Nat × String))
  /-- In the order in which they are listed. -/
  | keyed (items : List (String × String))
  deriving DecidableEq

/-- A variable may have properties without having a value. -/
structure Variable where
  value : Option String
  exported : Bool
  readOnly : Bool
  items : Items
  /-- The letters of other properties, in the order in which they are listed. -/
  traits : List Char

/-- A variable that nothing is known of. -/
def Variable.blank : Variable := ⟨.none, false, false, .none, []⟩

/-- Where the scan of the options of a script stands. -/
structure OptionScan where
  /-- Number of the next argument, from 1 on. -/
  next : Nat
  /-- Characters that have been read of the argument before it, unless it is done with. -/
  offset : Option Nat
  deriving DecidableEq

/-- A background job that has been started. -/
structure Job where
  pid : Nat
  endsAt : Nat
  status : Nat
  /-- The signal that killed it. -/
  signal : Option Nat

/-- A signal on its way to a shell. -/
structure Sent where
  /-- Milliseconds on the clock. -/
  time : Nat
  pid : Nat
  signal : Nat

/-- What the processes of a run share. -/
structure World where
  disk : Disk
  /-- What was written into each pipe, last first. -/
  pipes : Array (List Chunk)
  inputs : Array Input
  /-- Milliseconds. -/
  clock : Nat
  nextPid : Nat
  /-- Signals that have not been received yet. -/
  sent : List Sent

/-- Files and directories are named by texts; all other texts are octet texts. -/
structure State extends World where
  /-- The shell's process; a subshell has the one of the shell that it is part of. -/
  pid : Nat
  isSubshell : Bool
  /-- The processes that wait for this one. -/
  ancestors : List Nat
  /-- The background job that this process is part of, or zero. -/
  job : Nat
  cwd : Path
  /-- The name that messages begin with. -/
  name : String
  args : List String
  bindings : List (String × Variable)
  functions : List (String × Command)
  /-- Texts that commands stand for. -/
  aliases : List (String × String)
  /-- The paths at which commands were found. -/
  hashed : List (String × String)
  scan : OptionScan
  /-- Permissions that new files do not get. -/
  mask : Nat
  niceness : Int
  channels : List (Nat × Channel)
  /-- Some output could not be written. -/
  broken : Bool
  status : Nat
  jobs : List Job
  /-- The process of the last background job. -/
  background : Option Nat
  /-- Number of functions and scripts around the command that is run. -/
  depth : Nat
  /-- Number of loops around the command that is run. -/
  loops : Nat
  /-- The letters of the options that are on. -/
  options : List Char
  /-- Commands to run on an exit or a signal. -/
  traps : List (String × String)
  /-- Signals that have no effect, whatever is set for them. -/
  ignored : List String
  /-- Within a function, the values that variables get back when it is left. -/
  saved : Option (List (String × Option Variable))
  /-- The status of the last commands whose output was taken. -/
  captured : Option Nat
  /-- The line of the command that is run. -/
  line : Nat
  /-- What messages say of the script within the script that is run. -/
  within : String

namespace State

/-! ## Variables -/

def valueOf? (s : State) (name : String) : Option String :=
  (s.bindings.lookup name).bind Variable.value

/-- Changes the variable of this name, or makes it. -/
def alterVariable (f : Option Variable → Variable) (name : String) :
    List (String × Variable) → List (String × Variable)
  | [] => [(name, f none)]
  | (other, v) :: vs =>
    if other = name then (name, f (some v)) :: vs else (other, v) :: alterVariable f name vs

/-- Changes a variable, which is a new one without a value if there is none. -/
def alter (s : State) (name : String) (f : Variable → Variable) : State :=
  { s with bindings := alterVariable (fun v => f (v.getD .blank)) name s.bindings }

/-- The number that a text starts with. -/
def leadingNumber (text : String) : Nat :=
  (text.toList.takeWhile Char.isDigit).foldl (fun n d => 10 * n + (d.toNat - 48)) 0

/-- Changes what follows from the value of a variable. -/
def noticed (name : String) (value : Option String) (s : State) : State :=
  match name with
  | "PATH" => { s with hashed := [] }
  | "OPTIND" => { s with scan := ⟨max 1 (leadingNumber (value.getD "")), none⟩ }
  | _ => s

/-- Gives a variable a value, if it may be changed or not. -/
def assign (s : State) (name value : String) : State :=
  let exported := s.options.contains 'a'
  noticed name (some value) (s.alter name fun v =>
    { v with value := some value, exported := v.exported || exported })

/-- The options by their long names. Those with a letter that cannot be typed have none. -/
def optionNames : List (String × Char) :=
  [("errexit", 'e'), ("noglob", 'f'), ("ignoreeof", 'I'), ("interactive", 'i'), ("monitor", 'm'),
    ("noexec", 'n'), ("stdin", 's'), ("xtrace", 'x'), ("verbose", 'v'), ("vi", 'V'),
    ("emacs", 'E'), ("noclobber", 'C'), ("allexport", 'a'), ("notify", 'b'), ("nounset", 'u'),
    ("privileged", 'p'), ("nolog", '\x01'), ("debug", '\x02')]

/-- The letters of the options that are on. -/
def activeLetters (s : State) : List Char :=
  (optionNames.map Prod.snd).reverse.filter fun c => c.isAlpha && s.options.contains c

def isReadOnly (s : State) (name : String) : Bool :=
  ((s.bindings.lookup name).map Variable.readOnly).getD false

/-- Gives a variable a value, or says why it cannot have it. -/
def assign? (s : State) (name value : String) : Except String State :=
  if s.isReadOnly name then .error (name ++ ": is read only")
  else if name = "OPTIND" ∧ !value.toList.all Char.isDigit then
    .error ("Illegal number: " ++ value)
  else .ok (s.assign name value)

def exportVariable (s : State) (name : String) : State :=
  s.alter name fun v => { v with exported := true }

def unset (s : State) (name : String) : State :=
  noticed name none { s with bindings := s.bindings.filter (·.1 != name) }

/-! ## Descriptors -/

def channel? (s : State) (descriptor : Nat) : Option Channel := s.channels.lookup descriptor

def open_ (s : State) (descriptor : Nat) (channel : Channel) : State :=
  { s with channels := (descriptor, channel) :: s.channels.filter (·.1 != descriptor) }

def close (s : State) (descriptor : Nat) : State :=
  { s with channels := s.channels.filter (·.1 != descriptor) }

/-- Makes a new pipe. -/
def newPipe (s : State) : Nat × State :=
  (s.pipes.size, { s with pipes := s.pipes.push [] })

def addInput (s : State) (input : Input) : Nat × State :=
  (s.inputs.size, { s with inputs := s.inputs.push input })

/-- Makes bytes readable. -/
def newInput (s : State) (text : List Char) (ready : Nat) : Nat × State :=
  s.addInput ⟨text, [], ready, false⟩

/-- The permissions that a new file gets. -/
def newMode (s : State) : Nat := 0o666 - (0o666 &&& s.mask)

/-- Writes to a descriptor; says whether that worked. -/
def write (s : State) (descriptor : Nat) (text : List Char) : Bool × State :=
  match s.channel? descriptor with
  | some (.pipe n) =>
    (true, { s with
      pipes := s.pipes.modify n fun chunks => ⟨s.clock, s.job, text, false⟩ :: chunks })
  | some (.file p) =>
    match s.disk.writeFile s.cwd p s.newMode true (Octets.bytes text) with
    | .ok disk => (true, { s with disk })
    | .error _ => fault
  | some .null | some .zero => (true, s)
  | some (.input _) | some .directory | none => fault
where
  fault : Bool × State :=
    (false, { s with broken := s.broken || (descriptor == 1 && !text.isEmpty) })

def writeText (s : State) (descriptor : Nat) (text : String) : State :=
  (s.write descriptor text.toList).2

/-- Writes a line to the error output. -/
def complain (s : State) (message : String) : State := s.writeText 2 (message ++ "\n")

/-- Writes a message of the shell itself. -/
def report (s : State) (message : String) : State :=
  s.complain (s.name ++ ": " ++ toString s.line ++ ": " ++ s.within ++ message)

/-- Writes to a descriptor again and again. -/
def writeForever (s : State) (descriptor : Nat) (text : List Char) : State :=
  match s.channel? descriptor with
  | some (.pipe n) =>
    { s with pipes := s.pipes.modify n fun chunks => ⟨s.clock, s.job, text, true⟩ :: chunks }
  | _ => s

/-- Bytes that are read from an endless input where their number is not given. -/
def flood : Nat := 2 ^ 20

/-- The first `count` characters of a text that is repeated. -/
def cycled (count : Nat) (text : List Char) : List Char :=
  if text = [] then []
  else (List.replicate (count / text.length + 1) text).flatten.take count

/-- What is read of `input` if `count` bytes are wanted, or all, and what is left. -/
def takeInput (count : Option Nat) (input : Input) : List Char × Input :=
  match count with
  | none => (input.text ++ cycled flood input.cycle, { input with text := [] })
  | some n =>
    let first := input.text.take n
    let more := n - first.length
    if more = 0 ∨ input.cycle = [] then (first, { input with text := input.text.drop n })
    else
      let skipped := more % input.cycle.length
      (first ++ cycled more input.cycle, { input with
        text := []
        cycle := input.cycle.drop skipped ++ input.cycle.take skipped })

/-- Reads a descriptor: `count` bytes, or to its end. -/
def readInput (s : State) (descriptor : Nat) (count : Option Nat) : Option (List Char) × State :=
  match s.channel? descriptor with
  | some (.input n) =>
    match s.inputs[n]? with
    | some input =>
      let (text, rest) := takeInput count input
      (some text, { s with
        inputs := s.inputs.set! n rest
        clock := max s.clock input.ready })
    | none => (some [], s)
  | some .zero => (some (List.replicate (count.getD flood) '\x00'), s)
  | some .null => (some [], s)
  | some (.pipe _) | some (.file _) | some .directory | none => (none, s)

/-- Why a descriptor cannot be read. -/
def readFault (s : State) (descriptor : Nat) : IoError :=
  if s.channel? descriptor = some .directory then .isADirectory else .system 9

/-- Reads a descriptor to its end. -/
def readAll (s : State) (descriptor : Nat) : Option (List Char) × State :=
  s.readInput descriptor none

/-- Reads at most `count` bytes. -/
def readSome (s : State) (descriptor count : Nat) : Option (List Char) × State :=
  s.readInput descriptor (some count)

/-- Number of bytes that a descriptor holds before they come again. -/
def readable (s : State) (descriptor : Nat) : Nat :=
  match s.channel? descriptor with
  | some (.input n) => ((s.inputs[n]?).map fun i => i.text.length + i.cycle.length).getD 0
  | _ => 0

/-- Puts bytes back in front of what is left of a descriptor, if it can take them. -/
def putBack (s : State) (descriptor : Nat) (text : List Char) : State :=
  match s.channel? descriptor with
  | some (.input n) =>
    { s with inputs := s.inputs.modify n fun i =>
        if i.seekable then { i with text := text ++ i.text } else i }
  | _ => s

/-- Reads up to the character `stop`, which is taken too, and says whether it was there; the bytes
behind it stay. -/
def readUpTo (s : State) (descriptor : Nat) (stop : Char) : Option (List Char × Bool) × State :=
  match s.channel? descriptor with
  | some (.input n) =>
    match s.inputs[n]? with
    | some input =>
      let line := input.text.takeWhile (· ≠ stop)
      let rest := input.text.drop line.length
      let more := if rest = [] then input.cycle else []
      let line' := line ++ more.takeWhile (· ≠ stop)
      let size := line'.length + 1
      let (_, left) := takeInput (some size) input
      (some (line', rest ≠ [] || more.contains stop), { s with
        inputs := s.inputs.set! n left
        clock := max s.clock input.ready })
    | none => (some ([], false), s)
  | some .null | some .zero => (some ([], false), s)
  | some (.pipe _) | some (.file _) | some .directory | none => (none, s)

/-- Reads a line and says whether a newline ended it. -/
def readLine (s : State) (descriptor : Nat) : Option (List Char × Bool) × State :=
  s.readUpTo descriptor '\n'

/-! ## Pipes -/

/-- What was written into a pipe, in the order of time. -/
def chunks (s : State) (index : Nat) : List Chunk :=
  ((s.pipes[index]?.getD []).reverse).mergeSort fun a b => a.time ≤ b.time

/-- The text of a pipe up to something that is written again and again, and that. -/
def pipeContent (s : State) (index : Nat) : List Char × List Char :=
  let all := s.chunks index
  ((all.takeWhile (!·.endless)).flatMap Chunk.text,
    ((all.find? (·.endless)).map Chunk.text).getD [])

/-- The text of a pipe. -/
def pipeText (s : State) (index : Nat) : List Char := (s.pipeContent index).1

/-- The time at which the last text came into a pipe, but not before `start`. -/
def pipeEnd (s : State) (index start : Nat) : Nat :=
  (s.chunks index).foldl (fun t c => max t c.time) start

/-- Drops what the job writes after now. -/
def silence (s : State) (job : Nat) : State :=
  { s with pipes := s.pipes.map fun chunks =>
      chunks.filter fun c => !(c.job == job && s.clock < c.time) }

/-! ## Processes -/

/-- The state of `outer` after a process that it started ended in `inner`. -/
def resume (outer inner : State) : State :=
  { outer with toWorld := inner.toWorld }

/-- A process that starts out like this shell. Signals that are ignored stay so. -/
def fork (s : State) : State :=
  { s with traps := s.traps.filter (·.2 == ""), jobs := [], isSubshell := true }

/-- The variables that a program gets. -/
def environment (s : State) : List (String × Variable) :=
  s.bindings.filter fun (_, v) => v.exported && v.value.isSome

/-- The text of a path. -/
def path (text : String) : Path := ⟨Octets.toText text⟩

/-- What is there by this name; a link itself, not what it leads to. -/
def itself (s : State) (operand : String) : Except IoError Node :=
  match s.disk.locate false s.cwd (path operand) with
  | .ok (_, some node) => .ok node
  | .ok (_, none) => .error .noSuchFile
  | .error e => .error e

end State

end PlaybookScan.Shell

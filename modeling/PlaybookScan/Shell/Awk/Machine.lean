import PlaybookScan.Shell.Awk.Lexer
import PlaybookScan.Shell.Awk.Syntax
import PlaybookScan.Shell.Awk.Table
import PlaybookScan.Shell.Utility.Basic

/-!
# The machine that runs record programs

The machine holds variables and tables, the record with its fields, and what is being read and
written. Output is held back until the program ends or starts another one.
-/

set_option autoImplicit false

namespace PlaybookScan.Shell.Awk

open Utility (readOperand openOutput standard? forever)

/-- What a variable holds. -/
inductive Slot where
  | scalar (v : Value)
  /-- Nothing yet; if it becomes a table, it is this one. -/
  | open_ (index : Nat)
  | table (index : Nat)

/-- The text of a record and its fields, one of which there is. -/
structure Record where
  text : Option String
  fields : Option (Array Value)

/-- How a record is cut into fields. -/
inductive Splitter where
  | blanks
  | characters
  | letter (c : Char)
  | expression (f : Regex.Finder)

/-- Where output is collected: a file, or a command that reads it. -/
structure Sink where
  name : String
  isPipe : Bool
  /-- The last comes first. -/
  texts : List (List Char)

/-- What is left of something that is read. -/
structure Stream where
  name : String
  /-- How the command ended whose output is read. -/
  ending : Option Ending
  rest : List Char

structure Machine where
  shell : State
  host : Host
  functions : Std.HashMap String Function
  globals : Std.HashMap String Slot
  arrays : Array Table
  /-- The arguments of the function that runs. -/
  locals : Array Slot
  depth : Nat
  record : Record
  /-- Lines end fields, too, as the separator of records was set after that of fields. -/
  linesSplit : Bool
  /-- What is left of the input, once it has been opened. -/
  input : Option (List Char)
  /-- The next argument to be read. -/
  nextArg : Nat
  /-- Some argument has been read as a file. -/
  anyFile : Bool
  sources : List Stream
  /-- What waits for being written to the output. The last comes first. -/
  out : List (List Char)
  sinks : List Sink
  /-- The rules that are within their range. -/
  active : List Nat
  status : Nat
  seed : Float
  /-- The number that the next random number comes from. -/
  chance : UInt64

/-- Why the running of statements stops. -/
inductive Stop where
  | leave
  | again
  | next
  | nextFile
  | exit
  | give (v : Value)
  /-- A fault of the program; `running` says that the place in the input is told. -/
  | fault (running : Bool) (message : String)
  | stalled

abbrev Act (α : Type) := ExceptT Stop (StateM Machine) α

namespace Act

def fault {α : Type} (message : String) : Act α := throw (.fault true message)

/-- Does something with the shell. -/
def onShell {α : Type} (act : StateM State α) : Act α := do
  let m ← get
  let (a, shell) := act.run m.shell
  set { m with shell }
  return a

/-! ## Variables -/

def slot (x : Name) : Act (Option Slot) := do
  let m ← get
  match x with
  | .global name => return m.globals[name]?
  | .local i => return m.locals[i]?

def setSlot (x : Name) (s : Slot) : Act Unit := modify fun m =>
  match x with
  | .global name => { m with globals := m.globals.insert name s }
  | .local i => { m with locals := m.locals.set! i s }

/-- Makes a new table. -/
def newTable : Act Nat := do
  let n := (← get).arrays.size
  modify fun m => { m with arrays := m.arrays.push .empty }
  return n

/-- The table of a name. -/
def tableOf (x : Name) : Act Nat := do
  match ← slot x with
  | some (.table n) => return n
  | some (.open_ n) =>
    setSlot x (.table n)
    return n
  | some (.scalar _) | none =>
    let n ← newTable
    setSlot x (.table n)
    return n

/-- Does something with a table. -/
def onTable {α : Type} (n : Nat) (act : Table → α × Table) : Act α := do
  let m ← get
  let t := m.arrays[n]?.getD .empty
  -- the array lets go of the table, so that it can be changed in its place
  let arrays := m.arrays.set! n .empty
  let (a, t) := act t
  set { m with arrays := arrays.set! n t }
  return a

/-- The value of a global variable. -/
def global (name : String) : Act Value := do
  match (← get).globals[name]? with
  | some (.scalar v) => return v
  | _ => return .missing

def setGlobal (name : String) (v : Value) : Act Unit := setSlot (.global name) (.scalar v)

/-- The format of numbers in texts. -/
def format : Act String := do return (← global "CONVFMT").shown "%.6g"

def shown (v : Value) : Act String := do
  match v with
  | .text s | .input s => return s
  | v => return v.shown (← format)

/-- The text of a global variable. -/
def globalText (name : String) : Act String := do shown (← global name)

/-! ## Regular expressions -/

def finder (pattern : String) : Act Regex.Finder :=
  match finder? pattern with
  | .ok f => return f
  | .error message => fault message

/-- What separates fields, by the text that tells it. -/
def splitter (text : String) : Act Splitter := do
  match text.toList with
  | [' '] => return .blanks
  | [] => return .characters
  | [c] => return .letter c
  | _ => return .expression (← finder text)

end Act

/-! ## Fields -/

/-- The pieces between the matches of an expression from an offset on; `fuel` bounds their
number. -/
def piecesBetween (f : Regex.Finder) (text : List Char) :
    Nat → Nat → Nat → List (List Char)
  | 0, start, _ => [text.drop start]
  | fuel + 1, start, place =>
    match f.find? text place with
    | none => [text.drop start]
    | some found =>
      if found.start = found.stop then
        if found.start < text.length then piecesBetween f text fuel start (found.start + 1)
        else [text.drop start]
      else (text.take found.start).drop start ::
        piecesBetween f text fuel found.stop found.stop

/-- The fields of a text. -/
def Splitter.split (s : Splitter) (lines : Bool) (text : String) : List String :=
  let cs := text.toList
  let isBlank (c : Char) : Bool := c == ' ' || c == '\t' || c == '\n'
  let pieces : List (List Char) := match s with
    | .blanks => (cs.splitOnP isBlank).filter (!·.isEmpty)
    | .characters => cs.map ([·])
    | .letter c => if cs = [] then [] else cs.splitOnP fun d => d == c || (lines && d == '\n')
    | .expression f =>
      if cs = [] then []
      else
        let pieces := piecesBetween f cs (cs.length + 1) 0 0
        if lines then pieces.flatMap (·.splitOn '\n') else pieces
  pieces.map String.ofList

namespace Act

/-- The fields of the record. -/
def fields : Act (Array Value) := do
  let m ← get
  match m.record.fields with
  | some fs => return fs
  | none =>
    let s ← splitter (← globalText "FS")
    let found := s.split m.linesSplit (m.record.text.getD "")
    let fs := (found.map Value.input).toArray
    modify fun m => { m with record := { m.record with fields := some fs } }
    return fs

/-- The text of the record. -/
def recordText : Act String := do
  let m ← get
  match m.record.text with
  | some text => return text
  | none =>
    let parts ← (m.record.fields.getD #[]).toList.mapM shown
    let text := (← globalText "OFS").intercalate parts
    modify fun m => { m with record := { m.record with text := some text } }
    return text

def setRecord (text : String) : Act Unit :=
  modify fun m => { m with record := ⟨some text, none⟩ }

def field (n : Int) : Act Value := do
  if n < 0 then fault ("negative field index $" ++ toString n)
  else if n = 0 then return .input (← recordText)
  else return ((← fields)[n.toNat - 1]?).getD .missing

/-- Changes the number of fields. -/
def resize (n : Nat) : Act Unit := do
  let fs ← fields
  let fs := if n ≤ fs.size then fs.extract 0 n
    else fs ++ Array.replicate (n - fs.size) (Value.input "")
  modify fun m => { m with record := ⟨none, some fs⟩ }

def setField (n : Int) (v : Value) : Act Unit := do
  if n < 0 then fault ("negative field index $" ++ toString n)
  else if n = 0 then setRecord (← shown v)
  else
    let fs ← fields
    if fs.size < n.toNat then resize n.toNat
    let fs ← fields
    modify fun m => { m with record := ⟨none, some (fs.set! (n.toNat - 1) v)⟩ }

/-- The value of a name. -/
def value (x : Name) : Act Value := do
  match x with
  | .global "NF" => return .number (Float.ofNat (← fields).size)
  | x => match ← slot x with
    | some (.scalar v) => return v
    | _ => return .missing

/-- Gives a name a value. -/
def assign (x : Name) (v : Value) : Act Unit := do
  match x with
  | .global "NF" =>
    let n := clipped v.toNumber
    if n < 0 then fault "negative value assigned to NF"
    resize n.toNat
  | .global "FS" =>
    -- the fields of the record are those by the old separator
    let _ ← fields
    setGlobal "FS" v
    modify fun m => { m with linesSplit := false }
  | .global "RS" =>
    setGlobal "RS" v
    let text ← shown v
    modify fun m => { m with linesSplit := text == "" }
  | x => setSlot x (.scalar v)

/-- Adds one to a global variable. -/
def countUp (name : String) : Act Unit := do
  setGlobal name (.number ((← global name).toNumber + 1))

/-! ## Output -/

/-- Hands over all that waits. -/
def flush : Act Unit := do
  let m ← get
  let shell := if m.out = [] then m.shell
    else (m.shell.write 1 m.out.reverse.flatten).2
  let write := fun (shell : State) (s : Sink) =>
    if s.isPipe || s.texts.isEmpty then shell
    else match (openOutput true s.name).run shell with
      | (.ok n, shell) => (shell.write n s.texts.reverse.flatten).2
      | (.error _, shell) => shell
  let shell := m.sinks.reverse.foldl write shell
  let sinks := m.sinks.map fun s => if s.isPipe then s else { s with texts := [] }
  set { m with shell, sinks, out := [] }

/-- Runs a command line. -/
def run (args : List String) : Act Ending := do
  flush
  let ending ← onShell ((← get).host args)
  match ending with
  | .stalled => throw .stalled
  | ending => return ending

/-- The number that tells how a command ended. -/
def endingNumber : Ending → Float
  | .exited n => Float.ofNat n
  | .signalled n => Float.ofNat (256 + n)
  | .refused _ => 127
  | .stalled => 0

/-- Runs a command with a text as its input. -/
def feed (s : Sink) : Act Ending := do
  flush
  let m ← get
  let (n, shell) := m.shell.newInput s.texts.reverse.flatten m.shell.clock
  let channels := m.shell.channels
  set { m with shell := shell.open_ 0 (.input n) }
  let ending ← run ["/bin/sh", "-c", s.name]
  modify fun m => { m with shell := { m.shell with channels } }
  return ending

/-- Writes a text to where output goes by a name. -/
def writeTo (kind : Target) (name : String) (text : List Char) : Act Unit := do
  if kind ≠ .pipe ∧ name = "/dev/stdout" then
    modify fun m => { m with out := text :: m.out }
  else if kind ≠ .pipe ∧ name = "/dev/stderr" then
    modify fun m => { m with shell := (m.shell.write 2 text).2 }
  else
    let isPipe := kind = .pipe
    let m ← get
    let known := m.sinks.find? fun s => s.name = name ∧ s.isPipe = isPipe
    let others := m.sinks.filter fun s => !(s.name = name ∧ s.isPipe = isPipe)
    match known with
    | some s => set { m with sinks := { s with texts := text :: s.texts } :: others }
    | none =>
      if isPipe then flush
      else
        match ← onShell (openOutput (kind = .append) name) with
        | .ok _ => pure ()
        | .error e =>
          throw (.fault false
            ("cannot open \"" ++ name ++ "\" for output (" ++ Utility.cause e ++ ")"))
      modify fun m => { m with sinks := ⟨name, isPipe, [text]⟩ :: m.sinks }

/-- Closes all that is read or written by a name; answers how that went. -/
def close (name : String) : Act Float := do
  let m ← get
  let sinks := m.sinks.filter (·.name = name)
  let sources := m.sources.filter (·.name = name)
  flush
  modify fun m => { m with
    sinks := m.sinks.filter (·.name ≠ name), sources := m.sources.filter (·.name ≠ name) }
  let found ← sinks.foldlM (fun _ s => do
    if s.isPipe then return endingNumber (← feed s) else return 0) (-1.0)
  return sources.foldl (fun _ s => (s.ending.map endingNumber).getD 0) found

/-- Ends all output. -/
def closeAll : Act Unit := do
  let pipes := (← get).sinks.filter Sink.isPipe
  let late := (← get).out
  -- what waits for the output itself comes last
  modify fun m => { m with out := [] }
  pipes.forM fun s => do
    let _ ← feed s
  modify fun m => { m with out := late, sinks := m.sinks.filter (!·.isPipe) }
  flush

/-! ## Input -/

/-- A record that a text starts with, by what separates records, and the rest. -/
def cutRecord (separator : String) (text : List Char) : Act (Option (String × List Char)) := do
  let upTo (stop : Char) (text : List Char) : Option (String × List Char) :=
    if text = [] then none
    else
      let line := text.takeWhile (· != stop)
      some (String.ofList line, text.drop (line.length + 1))
  match separator.toList with
  | [c] => return upTo c text
  | [] =>
    let text := text.dropWhile (· == '\n')
    if text = [] then return none
    let lines := text.splitOn '\n'
    let part := lines.takeWhile (· ≠ [])
    let size := part.foldl (fun n l => n + l.length + 1) 0
    return some ("\n".intercalate (part.map String.ofList),
      (text.drop size).dropWhile (· == '\n'))
  | _ =>
    if text = [] then return none
    let f ← finder separator
    match f.find? text 0 with
    | some found =>
      if found.start = found.stop then return some (String.ofList text, [])
      else return some (String.ofList (text.take found.start), text.drop found.stop)
    | none => return some (String.ofList text, [])

/-- An argument is an assignment: the name and the value. -/
def assignment? (arg : String) : Option (String × String) :=
  let name := arg.toList.takeWhile (· != '=')
  let isName : Bool := match name with
    | c :: cs => (c.isAlpha || c == '_') && cs.all Text.isWordChar
    | [] => false
  if isName && name.length < arg.length then
    let value := arg.toList.drop (name.length + 1)
    some (String.ofList name, String.ofList (Lexer.unescape value.length value))
  else none

/-- Opens the next argument that names a file; `fuel` bounds their number. -/
def openNext (fuel : Nat) : Act Bool := do
  match fuel with
  | 0 => return false
  | fuel + 1 =>
    let m ← get
    let count := clipped (← global "ARGC").toNumber
    let start (file : String) : Act Bool := do
      match ← onShell (readOperand file) with
      | .ok text =>
        setGlobal "FILENAME" (.input file)
        setGlobal "FNR" (.number 0)
        modify fun m => { m with input := some text, anyFile := true }
        return true
      | .error .isADirectory => throw (.fault false "read error (Is a directory)")
      | .error e =>
        throw (.fault false ("cannot open \"" ++ file ++ "\" (" ++ Utility.cause e ++ ")"))
    if count ≤ m.nextArg then
      if m.anyFile then return false else start "-"
    else
      modify fun m => { m with nextArg := m.nextArg + 1 }
      let n ← tableOf (.global "ARGV")
      let key : Table.Key := ⟨some (m.nextArg : Int), toString m.nextArg⟩
      let there ← onTable n fun t => t.find key
      let arg ← if there then do shown (← onTable n fun t => t.get key) else pure ""
      if arg = "" then openNext fuel
      else match assignment? arg with
        | some (name, value) =>
          assign (.global name) (.input value)
          openNext fuel
        | none => start arg

/-- The next record of the input; `fuel` bounds the number of files. -/
def nextRecord (fuel : Nat) : Act (Option String) := do
  match fuel with
  | 0 => return none
  | fuel + 1 =>
    match (← get).input with
    | some text =>
      match ← cutRecord (← globalText "RS") text with
      | some (line, rest) =>
        modify fun m => { m with input := some rest }
        countUp "NR"
        countUp "FNR"
        return some line
      | none =>
        modify fun m => { m with input := none }
        nextRecord fuel
    | none =>
      let count := clipped (← global "ARGC").toNumber
      if ← openNext (count.toNat + 1) then nextRecord fuel else return none

/-- A bound for the number of files. -/
def fileCount : Act Nat := do return 2 * (clipped (← global "ARGC").toNumber).toNat + 4

/-- The next record of a file, or of the output of a command; an error if it cannot be read. -/
def recordFrom (isCommand : Bool) (name : String) : Act (Except Unit (Option String)) := do
  let m ← get
  let same (s : Stream) : Bool := s.name == name && s.ending.isSome == isCommand
  let source ← match m.sources.find? same with
    | some s => pure (some s)
    | none =>
      if isCommand then
        flush
        let (text, ending) ← onShell (m.host.outputOf ["/bin/sh", "-c", name])
        pure (some ⟨name, some ending, text⟩)
      else
        match ← onShell (readOperand name) with
        | .ok text => pure (some ⟨name, none, text⟩)
        | .error .isADirectory => throw (.fault false "read error (Is a directory)")
        | .error _ => pure none
  match source with
  | none => return .error ()
  | some s =>
    let found ← cutRecord (← globalText "RS") s.rest
    let rest := (found.map Prod.snd).getD []
    modify fun m => { m with
      sources := { s with rest } :: m.sources.filter fun s => !same s }
    return .ok (found.map Prod.fst)

end Act

end PlaybookScan.Shell.Awk

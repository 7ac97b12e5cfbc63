import PlaybookScan.Cli.Usage
import PlaybookScan.Text.Similarity

/-!
# Reading the command line

The arguments are read in order. The value of an option may be attached to it; else it is the next
argument, which then must not look like a switch. An option whose value is the next argument is
looked at when the next switch or the first argument for the linter comes, or at the end; a switch
that is unknown is reported at once. Everything behind `--` goes to the linter.
-/

set_option autoImplicit false

namespace PlaybookScan

/-- Where the reading of a command line stands. -/
structure Reading where
  options : Options
  /-- The options given so far, in order. -/
  used : List OptionName
  /-- An option that is still to be looked at, and the values given to it. -/
  pending : Option (OptionName × List String)
  /-- The next argument may be the value of the pending option. -/
  awaiting : Bool
  deriving Repr

namespace Reading

def start : Reading := ⟨.standard, [], none, false⟩

/-- The options that may be given once only. -/
def isSingle : OptionName → Bool
  | .baseDir | .logFilter | .logFormat => true
  | .property | .rules => false

/-- Gives `option` one value. -/
def setValue (option : OptionName) (value : String) (o : Options) : Except UsageError Options :=
  match option with
  | .baseDir =>
    if value = "" then .error (.missingValue option) else .ok { o with baseDir := ⟨value⟩ }
  | .property =>
    match Options.parseProperty value with
    | .ok property => .ok { o with properties := o.properties ++ [property] }
    | .error e => .error (.badValue option value e.message)
  | .rules => .ok { o with rules := some (o.rules.getD [] ++ [value]) }
  | .logFilter => .ok { o with logFilter := value }
  | .logFormat =>
    match Log.Format.parse value with
    | .ok logFormat => .ok { o with logFormat }
    | .error e => .error (.badValue option value e.message)

/-- The values that one argument stands for. -/
def splitValue (option : OptionName) (value : String) : List String :=
  match option with
  | .rules => (value.toList.splitOn ',').map String.ofList
  | _ => [value]

/-- Gives `option` its values. -/
def accept (r : Reading) (option : OptionName) (values : List String) :
    Reading × Except UsageError Unit :=
  if values.isEmpty then (r, .error (.missingValue option))
  else if isSingle option && r.used.contains option then
    ({ r with used := r.used.erase option }, .error (.repeated option))
  else
    let r := { r with used := if r.used.contains option then r.used else r.used ++ [option] }
    let values := values.flatMap (splitValue option)
    match values.foldlM (fun o v => setValue option v o) r.options with
    | .ok options => ({ r with options }, .ok ())
    | .error e => (r, .error e)

/-- Looks at the pending option. -/
def settle (r : Reading) : Reading × Except UsageError Unit :=
  match r.pending with
  | none => (r, .ok ())
  | some (option, values) => { r with pending := none, awaiting := false }.accept option values

/-- Looks at the pending option; an error ends the reading. -/
def settled (r : Reading) : Except Stop Reading :=
  match r.settle with
  | (r, .ok ()) => .ok r
  | (_, .error e) => .error (.error e)

/-- The switches used so far. An error of the pending option is passed over. -/
def usedSwitches (r : Reading) : List Switch := r.settle.1.used.map .option

def unknownLong (r : Reading) (name : String) : Stop :=
  let similar := (Text.mostSimilar? name (Switch.all.filterMap Switch.long?)).bind Switch.ofLong?
  let used := r.usedSwitches
  let used := match similar with
    | some s => if used.contains s then used else used ++ [s]
    | none => used
  .error (.unknownArgument ("--" ++ name) similar true used)

/-- Reads what stands behind two hyphens. -/
def readLong (r : Reading) (cs : List Char) : Except Stop Reading :=
  let name := String.ofList (cs.takeWhile (· != '='))
  let value := match cs.dropWhile (· != '=') with
    | _ :: value => some (String.ofList value)
    | [] => none
  match Switch.ofLong? name, value with
  | some (.option option), some value => do
    let r ← r.settled
    match r.accept option [value] with
    | (r, .ok ()) => return { r with awaiting := false }
    | (_, .error e) => throw (.error e)
  | some (.option option), none => do
    let r ← r.settled
    return { r with pending := some (option, []), awaiting := true }
  | some (.flag flag), some value =>
    throw (.error (.unexpectedValue flag value !r.used.isEmpty))
  | some (.flag flag), none => do
    let _ ← r.settled
    throw (.show flag)
  | none, _ => throw (r.unknownLong name)

/-- Reads what stands behind one hyphen: flags, and at the end perhaps an option with its value. -/
def readShort (r : Reading) : List Char → Except Stop Reading
  | [] => .ok r
  | c :: cs =>
    match Switch.ofShort? c with
    | some (.flag flag) => do
      let _ ← r.settled
      throw (.show flag)
    | some (.option option) => do
      let r ← r.settled
      let value := match cs with
        | '=' :: value => some value
        | [] => none
        | value => some value
      match value with
      | none => return { r with pending := some (option, []), awaiting := true }
      | some value =>
        match r.accept option [String.ofList value] with
        | (r, .ok ()) => return { r with awaiting := false }
        | (_, .error e) => throw (.error e)
    | none => throw (.error (.unknownArgument (String.ofList ['-', c]) none true []))

/-- Reads an argument that is no switch. -/
def readValue (r : Reading) (value : String) : Except Stop Reading :=
  match r.pending, r.awaiting with
  | some (option, values), true =>
    .ok { r with pending := some (option, values ++ [value]), awaiting := false }
  | _, _ => .error (.error (.unknownArgument value none false []))

def read (r : Reading) : List String → Except Stop Reading
  | [] => r.settled
  | "--" :: rest => do
    let r ← r.settled
    return { r with options := { r.options with lintArgs := rest } }
  | arg :: rest => do
    let r ← match arg.toList with
      | '-' :: '-' :: cs => r.readLong cs
      | '-' :: c :: cs => r.readShort (c :: cs)
      | _ => r.readValue arg
    r.read rest

end Reading

/-- Reads the arguments behind the program's name. -/
def Options.parse (args : List String) : Except Stop Options :=
  (Reading.start.read args).map (·.options)

end PlaybookScan

import PlaybookScan.Shell.Bash.Builtin.Declare
import PlaybookScan.Shell.Builtin.Variable

/-!
# Options and arguments of the large shell
-/

set_option autoImplicit false

namespace PlaybookScan.Shell.Bash.Builtin

/-- A name and whether it is on, in two columns. -/
def switchLine (name : String) (on : Bool) : String :=
  name ++ "".pushn ' ' (15 - name.length) ++ "\t" ++ (if on then "on" else "off")

/-- Lists the options, or the commands that set them as they are. -/
def listOptions (asCommands : Bool) : Act Unit := do
  let s ← get
  optionNames.forM fun (name, letter) =>
    let on := s.has letter
    writeLine (if asCommands then "set " ++ (if on then "-o " else "+o ") ++ name
      else switchLine name on)

def setLetter (on : Bool) (letter : Char) : Act Unit :=
  onState (Shell.Builtin.setOption on letter)

/-- The letters that set options. -/
def optionLetters : List Char := (optionNames.map Prod.snd).filter fun c => c.isAlpha

/-- Letters behind a sign, with the names that the letter `o` takes. -/
structure Switch where
  on : Bool
  letter : Char
  name : Option String

/-- Reads the letters of one argument, where `names` follow. -/
def switches (on : Bool) (names : List String) : List Char → Except String (List Switch × List String)
  | [] => .ok ([], names)
  | 'o' :: cs =>
    match names with
    | [] => (switches on [] cs).map fun (more, rest) => (⟨on, 'o', none⟩ :: more, rest)
    | name :: names =>
      if name.startsWith "-" ∨ name.startsWith "+" then
        (switches on (name :: names) cs).map fun (more, rest) => (⟨on, 'o', none⟩ :: more, rest)
      else (switches on names cs).map fun (more, rest) => (⟨on, 'o', some name⟩ :: more, rest)
  | c :: cs =>
    if optionLetters.contains c then
      (switches on names cs).map fun (more, rest) => (⟨on, c, none⟩ :: more, rest)
    else .error (String.ofList [if on then '-' else '+', c] ++ ": invalid option")

/-- Reads the arguments of `set`: options, and the new arguments if there are any; `fuel` is the
number of arguments. -/
def settings : Nat → List String → Except String (List Switch × Option (List String))
  | fuel + 1, arg :: args =>
    match arg.toList with
    | ['-', '-'] => .ok ([], some args)
    | ['-'] => .ok ([⟨false, 'v', none⟩, ⟨false, 'x', none⟩], if args = [] then none else some args)
    | sign :: c :: cs =>
      if sign = '-' ∨ sign = '+' then do
        let (found, args) ← switches (sign == '-') args (c :: cs)
        let (more, rest) ← settings fuel args
        return (found ++ more, rest)
      else .ok ([], some (arg :: args))
    | _ => .ok ([], some (arg :: args))
  | _, _ => .ok ([], none)

/-- Carries out what was read. Answers the status. -/
def applySwitches : List Switch → Act Nat
  | [] => return 0
  | ⟨on, 'o', none⟩ :: rest => do
    listOptions (!on)
    applySwitches rest
  | ⟨on, 'o', some name⟩ :: rest => do
    match optionNames.lookup name with
    | some letter =>
      setLetter on letter
      applySwitches rest
    | none => fail 2 "set" (name ++ ": invalid option name")
  | ⟨on, letter, _⟩ :: rest => do
    setLetter on letter
    applySwitches rest

/-- Gives the script new arguments. -/
def setArgs (args : List String) : Act Unit := onState fun s => { s with args }

def set_ : Builtin := fun args => do
  if args = [] then
    listAll true
    return 0
  match settings args.length args with
  | .error message => misuse "set" message
  | .ok (found, rest) =>
    match ← applySwitches found with
    | 0 =>
      match rest with
      | some args => setArgs args
      | none => pure ()
      return 0
    | status => return status

/-! ## Settings without letters -/

/-- A setting as a command, or in two columns. -/
def featureLine (o : Options) (name : String) (on : Bool) : String :=
  if o.has 'p' then
    if o.has 'o' then "set " ++ (if on then "-o " else "+o ") ++ name
    else "shopt " ++ (if on then "-s " else "-u ") ++ name
  else switchLine name on

def setFeature (on : Bool) (name : String) : Act Unit :=
  modify fun s =>
    let others := s.features.filter (· != name)
    { s with features := if on then name :: others else others }

def shopt : Builtin := withOptions "shopt" "psuoq" fun o names => do
  if o.has 's' && o.has 'u' then
    return ← fail 1 "shopt" "cannot set and unset shell options simultaneously"
  let s ← get
  let all : List (String × Bool) := if o.has 'o' then
      optionNames.map fun (name, letter) => (name, s.has letter)
    else featureNames.map fun (name, _) => (name, s.enables name)
  let unknown := if o.has 'o' then ": invalid option name" else ": invalid shell option name"
  if names.isEmpty then
    let shown := all.filter fun (_, on) =>
      if o.has 's' then on else if o.has 'u' then !on else true
    if !o.has 'q' then shown.forM fun (name, on) => writeLine (featureLine o name on)
    return 0
  names.foldlM (fun status name => do
    match all.lookup name with
    | none =>
      complain "shopt" (name ++ unknown)
      return 1
    | some on =>
      if o.has 's' || o.has 'u' then
        if o.has 'o' then (optionNames.lookup name).forM (setLetter (o.has 's'))
        else setFeature (o.has 's') name
        return status
      if !o.has 'q' then writeLine (featureLine o name on)
      return if on then status else 1) 0

/-! ## Arguments -/

/-- Fails if a command has more than one argument. -/
def onlyOne (name : String) (args : List String) : Act Unit := do
  if args.length > 1 then
    complain name "too many arguments"
    abandon

/-- The arguments without a mark for the end of options. -/
def unmarked (args : List String) : List String :=
  if args.head? = some "--" then args.tail else args

def shift : Builtin := fun args => do
  let args := unmarked args
  match integer? (args.headD "1") with
  | none => fail 1 "shift" (args.headD "" ++ ": numeric argument required")
  | some n =>
    onlyOne "shift" args
    let s ← get
    if n < 0 then fail 1 "shift" (args.headD "" ++ ": shift count out of range")
    else if (s.args.length : Int) < n then
      if s.enables "shift_verbose" then
        complain "shift" (args.headD "" ++ ": shift count out of range")
      return 1
    else
      setArgs (s.args.drop n.toNat)
      return 0

/-- What a shell says of an option of its script. -/
def optionMessage : Shell.Builtin.OptionFault → String
  | .unknown c => "illegal option -- " ++ String.singleton c
  | .lacking c => "option requires an argument -- " ++ String.singleton c

def getopts : Builtin := withOptions "getopts" "" fun _ args => do
  match args with
  | allowed :: name :: given =>
    let s ← get
    let params := if given = [] then s.args else given
    let scan := if params.length + 1 < s.scan.next then ⟨1, none⟩ else s.scan
    let (letter, scan, status) ← match Shell.Builtin.nextOption allowed.toList params scan with
      | .error scan => do
        removeVariable "OPTARG"
        pure ('?', scan, 1)
      | .ok found => do
        let takes : Bool :=
          ((Shell.Builtin.behindLetter? found.letter allowed.toList).bind List.head?) == some ':'
        match found.argument with
        | some value =>
          if takes || value ≠ "" then discard <| store "OPTARG" .none value
          else removeVariable "OPTARG"
        | none => removeVariable "OPTARG"
        match found.complaint with
        | some fault =>
          if s.text? "OPTERR" ≠ some "0" then
            onState (·.complain (s.name ++ ": " ++ optionMessage fault))
        | none => pure ()
        pure (found.letter, found.scan, 0)
    discard <| store "OPTIND" .none (toString scan.next)
    onState fun s => { s with scan }
    if !isName name then return ← fail 1 "getopts" (badName name)
    return if ← store name .none (String.singleton letter) then status else 1
  | _ => usage "getopts"

end PlaybookScan.Shell.Bash.Builtin

import PlaybookScan.Shell.Builtin.Basic

/-!
# Options and arguments of the shell
-/

set_option autoImplicit false

namespace PlaybookScan.Shell.Builtin

/-- Turns an option on or off. -/
def setOption (on : Bool) (letter : Char) (s : State) : State :=
  let others := s.options.filter (· != letter)
  { s with options := if on then letter :: others else others }

/-- The complaint about an option that does not exist. -/
def illegalOption (option : String) : String := "Illegal option -" ++ option

/-- Turns on or off the option of this letter. -/
def setLetter (on : Bool) (letter : Char) (s : State) : Except String State :=
  if letter.isAlpha ∧ (State.optionNames.map Prod.snd).contains letter then
    .ok (setOption on letter s)
  else .error (illegalOption (String.singleton letter))

/-- Lists the options, or the commands that set them as they are. -/
def listOptions (asCommands : Bool) (s : State) : State :=
  let line := fun ((name, letter) : String × Char) =>
    let on := s.options.contains letter
    if asCommands then "set " ++ (if on then "-o " else "+o ") ++ name ++ "\n"
    else name ++ "".pushn ' ' (16 - name.length) ++ (if on then "on" else "off") ++ "\n"
  s.writeText 1 ((if asCommands then "" else "Current option settings\n") ++
    String.join (State.optionNames.map line))

/-- Reads the letters of one argument. The letter `o` takes a long name from the arguments behind,
or lists the options if there is none. -/
def setLetters (on : Bool) (args : List String) : List Char → State →
    Except String (List String × State)
  | [], s => .ok (args, s)
  | 'o' :: cs, s =>
    match args with
    | [] => setLetters on [] cs (listOptions (!on) s)
    | name :: args =>
      match State.optionNames.lookup name with
      | some letter => setLetters on args cs (setOption on letter s)
      | none => .error (illegalOption ("o " ++ name))
  | c :: cs, s => do setLetters on args cs (← setLetter on c s)

/-- Reads the arguments of `set`; `fuel` is their number. -/
def setAll : Nat → List String → State → Except String State
  | fuel + 1, arg :: args, s =>
    match arg.toList with
    | ['-', '-'] => .ok { s with args, scan := ⟨1, none⟩ }
    | ['-'] =>
      let s := setOption false 'x' (setOption false 'v' s)
      .ok (if args = [] then s else { s with args, scan := ⟨1, none⟩ })
    | sign :: cs =>
      if sign = '-' ∨ sign = '+' then do
        let (args, s) ← setLetters (sign == '-') args cs s
        setAll fuel args s
      else .ok { s with args := arg :: args, scan := ⟨1, none⟩ }
    | [] => .ok { s with args := arg :: args, scan := ⟨1, none⟩ }
  | _, _, s => .ok s

/-- Lists the variables that `shown` picks, in the order of their names, behind `lead`. -/
def listVariables (lead : String) (shown : Variable → Bool) (s : State) : State :=
  let line := fun ((name, v) : String × Variable) =>
    lead ++ name ++ ((v.value.map fun value => "=" ++ singleQuoted value).getD "") ++ "\n"
  let chosen := (s.bindings.filter fun (_, v) => shown v).mergeSort fun a b =>
    a.1.toList ≤ b.1.toList
  s.writeText 1 (String.join (chosen.map line))

def set_ : Builtin := fun args s =>
  if args = [] then done 0 (listVariables "" (·.value.isSome) s)
  else match setAll args.length args s with
    | .ok s => done 0 s
    | .error message => fail "set" message s

def shift : Builtin := fun args s =>
  match number? (args.headD "1") with
  | none => fail "shift" ("Illegal number: " ++ args.headD "") s
  | some n =>
    if n ≤ s.args.length then done 0 { s with args := s.args.drop n, scan := ⟨1, none⟩ }
    else fail "shift" "can't shift that many" s

/-! ## The start of a shell -/

/-- What a shell is to run. -/
inductive Source where
  | text (source : String)
  | file (name : String)
  | input
  deriving DecidableEq

/-- Reads the leading options of a shell's arguments: whether commands are given as an argument, and
the other arguments. -/
def startOptions : Nat → Bool → List String → State → Except String (Bool × List String × State)
  | fuel + 1, given, arg :: args, s =>
    match arg.toList with
    | ['-', '-'] | ['-'] => .ok (given, args, s)
    | sign :: cs =>
      if sign = '-' ∨ sign = '+' then do
        let given := given || (sign == '-' && cs.contains 'c')
        let (args, s) ← setLetters (sign == '-') args
          (cs.filter fun c => c != 'c' && c != 'l') s
        startOptions fuel given args s
      else .ok (given, arg :: args, s)
    | [] => .ok (given, arg :: args, s)
  | _, given, args, s => .ok (given, args, s)

/-- Reads the arguments of a shell: what it runs, and its state at the start. -/
def start (args : List String) (s : State) : Except String (Source × State) := do
  let (given, args, s) ← startOptions args.length false args s
  match given, args with
  | true, [] => throw "-c requires an argument"
  | true, source :: args =>
    return (.text source, { s with name := args.headD s.name, args := args.tail })
  | false, [] => return (.input, setOption true 's' s)
  | false, file :: args =>
    if s.options.contains 's' then return (.input, { s with args := file :: args })
    else return (.file file, { s with name := file, args })

end PlaybookScan.Shell.Builtin

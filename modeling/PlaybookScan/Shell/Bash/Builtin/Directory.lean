import PlaybookScan.Shell.Bash.Builtin.Options
import PlaybookScan.Shell.Builtin.Directory
import PlaybookScan.Shell.Utility.Basic

/-!
# The working directory in the large shell

Directories can be kept on a stack, the top of which is the working directory.
-/

set_option autoImplicit false

namespace PlaybookScan.Shell.Bash.Builtin

/-- The path of the working directory. -/
def here (s : Session) : String := Octets.ofText s.cwd.text

/-- Why a directory cannot be entered. -/
def entryFault (s : Session) (target : String) : IoError :=
  match s.disk.locate true s.cwd (State.path target) with
  | .ok (_, some (.directory _)) | .ok (_, some (.closed ..)) => .permissionDenied
  | .ok (_, some _) => .notADirectory
  | .ok (_, none) => .noSuchFile
  | .error e => e

/-- Goes to a directory, or tells why not. -/
def enter (command : String) (physical : Bool) (target shown : String) : Act Bool := do
  let s ← get
  match Shell.Builtin.goTo s.toState physical target with
  | some t =>
    onState fun _ => { t with hashed := s.hashed }
    return true
  | none =>
    complain command (shown ++ ": " ++ Utility.cause (entryFault s target))
    return false

def cd : Builtin := withOptions "cd" "eLP" fun o args => do
  if args.length > 1 then return ← fail 1 "cd" "too many arguments"
  let s ← get
  let physical := match (o.found.filter (·.1 != 'e')).getLast? with
    | some (c, _) => c == 'P'
    | none => s.has 'P'
  let back : Bool := args.head? == some "-"
  let wanted : Except String String := match args.head? with
    | some "-" => match s.text? "OLDPWD" with
      | some dir => .ok dir
      | none => .error "OLDPWD not set"
    | some dir => .ok dir
    | none => match s.text? "HOME" with
      | some dir => .ok dir
      | none => .error "HOME not set"
  match wanted with
  | .error message => fail 1 "cd" message
  | .ok "" => return 0
  | .ok target =>
    let (place, shown) : String × Bool := if Shell.Builtin.isFixed target then (target, back)
      else match Shell.Builtin.found? s.toState target with
        | some (place, shown) => (place, shown || back)
        | none => (target, back)
    let place ← if s.enables "cdable_vars" && !s.disk.isDirectory s.cwd (State.path place) then
        pure ((s.text? target).getD place)
      else pure place
    if ← enter "cd" physical place target then
      if shown then writeLine (here (← get))
      return 0
    return 1

def pwd : Builtin := withOptions "pwd" "LP" fun o _ => do
  let s ← get
  let physical := (o.found.getLast?.map fun (c, _) => c == 'P').getD (s.has 'P')
  writeLine (if physical then Octets.ofText s.physical.text else here s)
  return 0

/-! ## The stack -/

/-- The path with a tilde in the place of the home directory. -/
def polite (s : Session) (path : String) : String :=
  match s.text? "HOME" with
  | some home =>
    if home = "" ∨ home = "/" then path
    else if path = home then "~"
    else if path.startsWith (home ++ "/") then "~" ++ (path.drop home.length).toString
    else path
  | none => path

/-- The directories of the stack, the working directory first. -/
def stacked (s : Session) : List String := here s :: s.stack

/-- A place in the stack that is counted from its top or, behind a hyphen, from its end. -/
inductive Place where
  | at_ (n : Nat)
  /-- The count is too large. -/
  | beyond
  | none

/-- The place that a text with a sign names. -/
def place (s : Session) (text : String) : Place :=
  let size := (stacked s).length
  match text.toList with
  | sign :: digits =>
    if (sign = '+' ∨ sign = '-') ∧ digits ≠ [] ∧ digits.all Char.isDigit then
      let n := Printf.number 10 digits
      if size ≤ n then .beyond else .at_ (if sign = '+' then n else size - 1 - n)
    else .none
  | [] => .none

/-- Writes the stack in a line. -/
def showStack : Act Unit := do
  let s ← get
  writeLine (" ".intercalate ((stacked s).map (polite s)))

def setStack (dirs : List String) : Act Unit := modify fun s => { s with stack := dirs }

def outOfRange (command text : String) : Act Nat :=
  fail 1 command (text ++ ": directory stack index out of range")

def dirs : Builtin := fun args => do
  let isNumber (arg : String) : Bool :=
    match arg.toList with
    | '+' :: c :: _ | '-' :: c :: _ => c.isDigit
    | _ => false
  match args.find? fun arg => !isNumber arg &&
      !(arg.startsWith "-" && ((arg.toList.drop 1).all fun c => "clpv".contains c)) with
  | some arg =>
    if arg.startsWith "-" then misuse "dirs" (arg ++ ": invalid number")
    else misuse "dirs" (arg ++ ": invalid option")
  | none =>
    let letters := (args.filter fun arg => !isNumber arg).flatMap fun arg => arg.toList.drop 1
    if letters.contains 'c' then
      setStack []
      return 0
    let s ← get
    let shown (path : String) : String := if letters.contains 'l' then path else polite s path
    let all := (stacked s).map shown
    match args.find? isNumber with
    | some text =>
      match place s text with
      | .at_ n =>
        writeLine (all.getD n "")
        return 0
      | _ =>
        if s.stack = [] then fail 1 "dirs" "directory stack empty"
        else outOfRange "dirs" (String.ofList (text.toList.drop 1))
    | none =>
      if letters.contains 'v' then
        ((List.range all.length).zip all).forM fun (n, dir) =>
          let count := toString n
          writeLine ("".pushn ' ' (2 - count.length) ++ count ++ "  " ++ dir)
      else writeLine ((if letters.contains 'p' then "\n" else " ").intercalate all)
      return 0

/-- Goes to the first of some directories, and keeps the others. -/
def goToFirst (command : String) (dirs : List String) : Act Nat := do
  match dirs with
  | [] => return 0
  | dir :: rest =>
    if ← enter command false dir dir then
      setStack rest
      showStack
      return 0
    return 1

def pushd : Builtin := fun args => do
  let stays := args.head? = some "-n"
  let args := unmarked (if stays then args.tail else args)
  let s ← get
  let all := stacked s
  match args with
  | [] =>
    match s.stack with
    | [] => fail 1 "pushd" "no other directory"
    | dir :: rest =>
      if stays then return 0
      goToFirst "pushd" (dir :: here s :: rest)
  | [arg] =>
    match place s arg with
    | .at_ n =>
      if s.stack = [] ∧ n ≠ 0 then outOfRange "pushd" arg
      else
        let turned := all.drop n ++ all.take n
        if stays then return 0 else goToFirst "pushd" turned
    | .beyond =>
      if s.stack = [] then fail 1 "pushd" "directory stack empty" else outOfRange "pushd" arg
    | .none =>
      if arg.startsWith "-" ∧ arg ≠ "-" then misuse "pushd" (arg ++ ": invalid number")
      else if stays then
        setStack (arg :: s.stack)
        showStack
        return 0
      else
        let target := if arg = "-" then (s.text? "OLDPWD").getD "" else arg
        let entered ← if target = "" then pure true else enter "pushd" false target target
        if entered then
          setStack all
          showStack
          return 0
        return 1
  | _ => fail 1 "pushd" "too many arguments"

def popd : Builtin := fun args => do
  let stays := args.head? = some "-n"
  let args := unmarked (if stays then args.tail else args)
  let s ← get
  let arg := args.headD "+0"
  match place s arg with
  | .none =>
    if arg.startsWith "-" then misuse "popd" (arg ++ ": invalid number")
    else misuse "popd" (arg ++ ": invalid argument")
  | .beyond =>
    if s.stack = [] then fail 1 "popd" "directory stack empty" else outOfRange "popd" arg
  | .at_ n =>
    match s.stack, n with
    | [], _ => fail 1 "popd" "directory stack empty"
    | dir :: rest, 0 =>
      if stays then
        setStack rest
        showStack
        return 0
      else goToFirst "popd" (dir :: rest)
    | stack, n + 1 =>
      setStack (stack.eraseIdx n)
      showStack
      return 0

/-! ## Permissions of new files -/

/-- The character of a mode at which the reading of it ends. -/
def wrongModeCharacter (text : String) : Char × Bool :=
  let who (cs : List Char) : List Char := cs.dropWhile fun c => "ugoa".contains c
  let clauses := text.toList.splitOn ','
  match clauses.findSome? fun clause =>
      match who clause with
      | [] => some (' ', true)
      | sign :: rest =>
        if !"+-=".contains sign then some (sign, true)
        else (rest.find? fun c => !"rwxXstugo+-=".contains c).map (·, false) with
  | some found => found
  | none => (' ', true)

def umask : Builtin := withOptions "umask" "pS" fun o args => do
  let s ← get
  let show_ (mask : Nat) : Act Unit := do
    let digits := String.ofList (Nat.toDigits 8 mask)
    let shown := if o.has 'S' then Shell.Builtin.modeLetters (0o777 - mask)
      else "".pushn '0' (4 - digits.length) ++ digits
    let lead := if o.has 'p' then "umask " ++ (if o.has 'S' then "-S " else "") else ""
    writeLine (lead ++ shown)
  match args with
  | [] =>
    show_ s.mask
    return 0
  | text :: _ =>
    if (text.toList.head?.map Char.isDigit).getD false then
      let mask := text.toList.foldl (fun n c => 8 * n + (c.toNat - 48)) 0
      if text.toList.all (fun c => c.isDigit && c.toNat < 56) ∧ mask < 0o10000 then
        onState fun s => { s with mask := mask % 0o1000 }
        if o.has 'S' then show_ (mask % 0o1000)
        return 0
      else fail 1 "umask" (text ++ ": octal number out of range")
    else match Shell.Builtin.symbolicMode? (0o777 - s.mask) text with
      | some mode =>
        onState fun s => { s with mask := 0o777 - mode }
        if o.has 'S' then show_ (0o777 - mode)
        return 0
      | none =>
        let (c, isOperator) := wrongModeCharacter text
        fail 1 "umask" ("\x60" ++ String.singleton c ++ "': invalid symbolic mode " ++
          if isOperator then "operator" else "character")

end PlaybookScan.Shell.Bash.Builtin

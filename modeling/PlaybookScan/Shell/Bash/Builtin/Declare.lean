import PlaybookScan.Shell.Bash.Builtin.Basic
import PlaybookScan.Shell.Bash.Printer

/-!
# Declarations of the large shell

Commands that make variables and functions, give them properties, list them and take them away. A
variable that a function declares is its own: when the function is left, the variable gets back what
it had.
-/

set_option autoImplicit false

namespace PlaybookScan.Shell.Bash

/-- An argument of a command that declares variables. -/
inductive Operand where
  | word (text : String)
  | assignment (given : Given)

def Operand.text : Operand → String
  | .word text => text
  | .assignment g => g.shown

/-- What an argument gives to which variable; none if it names no variable. -/
def Operand.given? : Operand → Option Given
  | .assignment g => some g
  | .word text =>
    let cs := text.toList
    let left := cs.takeWhile (· ≠ '=')
    let assigned : Bool := left.length < cs.length
    let appends : Bool := assigned && left.getLast? == some '+'
    let place := String.ofList (if appends then left.dropLast else left)
    (Builtin.nameAndKey? place).map fun (name, key) =>
      ⟨name, key, appends,
        if assigned then .text (String.ofList (cs.drop (left.length + 1))) else .nothing⟩

/-! ## Scopes of variables -/

namespace Session

/-- The place of the call whose variables a function declares. -/
def callIndex? (s : Session) : Option Nat := s.frames.findIdx? (·.saved.isSome)

/-- Changes the values that variables get back when a call is left. -/
def alterSaved (n : Nat)
    (f : List (String × Option Variable) → List (String × Option Variable)) (s : Session) :
    Session :=
  { s with frames := s.frames.modify n fun frame => { frame with saved := frame.saved.map f } }

/-- The values that variables get back when the call is left. -/
def savedAt (s : Session) (n : Nat) : List (String × Option Variable) :=
  ((s.frames[n]?).bind Frame.saved).getD []

/-- Gives a variable an earlier value, or takes it away. -/
def putBack (name : String) (old : Option Variable) (s : Session) : Session :=
  let s := { s with bindings := match old with
    | some v => State.alterVariable (fun _ => v) name s.bindings
    | none => s.bindings.filter (·.1 != name) }
  s.noticed name (old.bind (Variable.text? · .none))

/-- The calls that have a variable of this name, the last one first. -/
def owners (s : Session) (name : String) : List Nat :=
  (List.range s.frames.length).filter fun n => (s.savedAt n).any (·.1 == name)

end Session

/-- The name under which a call keeps the options that it gives back. -/
def optionsKey : String := "-"

/-- Makes a variable that belongs to the call under way. -/
def makeLocal (name : String) : Act Unit := do
  let s ← get
  match s.callIndex? with
  | none => return
  | some n =>
    if (s.savedAt n).any (·.1 == name) then return
    let old := s.bindings.lookup name
    modify (Session.alterSaved n ((name, old) :: ·))
    if name ≠ optionsKey then
      let keeps := s.enables "localvar_inherit"
      modify fun s => { s with bindings := match old with
        | some v => if keeps then s.bindings else
          State.alterVariable (fun _ => { Variable.blank with exported := v.exported }) name
            s.bindings
        | none => State.alterVariable (fun _ => .blank) name s.bindings }

/-- Keeps the options until the call under way is left. -/
def keepOptions : Act Unit := do
  let s ← get
  match s.callIndex? with
  | none => return
  | some n =>
    if (s.savedAt n).any (·.1 == optionsKey) then return
    modify (Session.alterSaved n ((optionsKey,
      some { Variable.blank with value := some (String.ofList s.options) }) :: ·))

/-- Acts where no call has a variable of this name. -/
def globally {α : Type} (name : String) (act : Act α) : Act α := do
  let s ← get
  match (s.owners name).getLast? with
  | none => act
  | some n =>
    let mine := s.bindings.lookup name
    modify (Session.putBack name ((s.savedAt n).lookup name).join)
    let found ← act
    let other := (← get).bindings.lookup name
    modify fun s => (s.putBack name mine).alterSaved n fun saved =>
      saved.map fun (x, old) => (x, if x = name then other else old)
    return found

/-- Takes a variable away. In the call that it belongs to it stays without a value; that of an outer
call gives way to the one before it. -/
def unsetVariable (name : String) : Act Unit := do
  let s ← get
  match s.owners name with
  | [] => removeVariable name
  | n :: _ =>
    if s.callIndex? = some n then
      putVariable name .blank
      modify fun s => s.noticed name none
    else
      let old := ((s.savedAt n).lookup name).join
      modify fun s => (s.putBack name old).alterSaved n fun saved =>
        saved.filter (·.1 != name)

namespace Builtin

/-! ## Lists -/

/-- A text that a shell would not read as it is. -/
def hasSpecial (text : String) : Bool :=
  let pairs := (none :: text.toList.map some).zip text.toList
  pairs.any fun (before, c) =>
    " \t\n'\"\\|&;()<>!\x7b\x7d*[]?^$\x60".contains c || match before with
      | none => c == '~' || c == '#'
      | some b => c == '~' && (b == '=' || b == ':')

/-- A variable as an assignment. -/
def assignmentLine (name : String) (v : Variable) : String :=
  name ++ "=" ++ match v.items, v.value with
    | .none, some text =>
      if !text.toList.all Quoting.isPrintable || hasSpecial text then Expand.reusable text else text
    | .none, none => ""
    | _, _ => Expand.shownElements v

/-- The variables in the order of their names, some of which are worked out. -/
def listed (s : Session) : List (String × Variable) :=
  let sorted := s.bindings.mergeSort fun a b => a.1.toList ≤ b.1.toList
  sorted.map fun (name, v) =>
    (name, if ["SHELLOPTS", "BASHOPTS", "_"].contains name then (s.computed? name).getD v else v)

def hasValue (v : Variable) : Bool := v.value.isSome || Variable.isArray v

/-- A variable that this letter is about. -/
def isAbout (v : Variable) (letter : Char) : Bool := (Expand.propertyLetters v).contains letter

/-- Writes the declarations of the variables with any of the properties, or of all. -/
def listDeclarations (properties : List Char) (names : List String → List String) : Act Unit := do
  let all := listed (← get)
  let chosen := names (all.map Prod.fst)
  all.forM fun (name, v) => do
    if chosen.contains name && (properties.isEmpty || properties.any (isAbout v)) then
      writeLine (Expand.declaration name v)

/-- Writes all variables and functions. -/
def listAll (functions : Bool) : Act Unit := do
  (listed (← get)).forM fun (name, v) => do
    if hasValue v then writeLine (assignmentLine name v)
  if functions then
    let routines := (← get).routines.mergeSort fun a b => a.1.toList ≤ b.1.toList
    routines.forM fun (name, r) => writeLine (r.body.definition name)

/-- The letters of the properties of a function. -/
def routineLetters (s : Session) (name : String) (r : Routine) : String :=
  "f" ++ (if s.locked.contains name then "r" else "") ++ if r.exported then "x" else ""

/-- Writes a function, or with `brief` its name. -/
def showRoutine (brief : Bool) (name : String) (r : Routine) : Act Unit := do
  let s ← get
  if brief then writeLine ("declare -" ++ routineLetters s name r ++ " " ++ name)
  else
    writeLine (r.body.definition name)
    let letters := routineLetters s name r
    if letters ≠ "f" then writeLine ("declare -" ++ letters ++ " " ++ name)

/-- Writes the functions with all of the properties. -/
def listRoutines (brief : Bool) (properties : List Char) : Act Unit := do
  let s ← get
  let routines := s.routines.mergeSort fun a b => a.1.toList ≤ b.1.toList
  routines.forM fun (name, r) => do
    if properties.all (fun c => (routineLetters s name r).contains c) then
      showRoutine brief name r

/-! ## Declarations -/

/-- What is asked for with signs and letters. -/
structure Wishes where
  on : List Char
  off : List Char

/-- Reads the leading arguments that are letters behind a sign; `fuel` is their number. -/
def wishes (allowed : List Char) (fuel : Nat) (w : Wishes) (operands : List Operand) :
    Except String (Wishes × List Operand) :=
  match fuel, operands with
  | fuel + 1, .word arg :: rest =>
    match arg.toList with
    | ['-', '-'] => .ok (w, rest)
    | sign :: c :: cs =>
      if sign ≠ '-' ∧ sign ≠ '+' then .ok (w, operands)
      else match (c :: cs).find? fun d => !allowed.contains d with
        | some d => .error (String.ofList [sign, d] ++ ": invalid option")
        | none =>
          wishes allowed fuel (if sign = '-' then { w with on := w.on ++ c :: cs }
            else { w with off := w.off ++ c :: cs }) rest
    | _ => .ok (w, operands)
  | _, operands => .ok (w, operands)

/-- The letters of cases that go out with another one. -/
def casesBut (c : Char) : List Char := if "luc".contains c then "luc".toList.filter (· ≠ c) else []

/-- The variable with other properties. -/
def withWishes (w : Wishes) (v : Variable) : Variable :=
  let v := w.on.foldl (fun v c => match c with
    | 'x' => { v with exported := true }
    | 'r' => v
    | c => if "ilucnt".contains c then Variable.withTrait true c v else v) v
  (w.off ++ w.on.flatMap casesBut).foldl (fun v c => match c with
    | 'x' => { v with exported := false }
    | c => if "ilucnt".contains c then Variable.withTrait false c v else v) v

/-- The variable as one with several elements, if that is asked for, or why it cannot be one. -/
def shapedAs (w : Wishes) (name : String) (v : Variable) : Except String Variable :=
  let size : Bool := w.off.contains 'a' || w.off.contains 'A'
  if size ∧ Variable.isArray v then
    .error (name ++ ": cannot destroy array variables in this way")
  else if w.on.contains 'A' then
    match v.items, v.value with
    | .indexed _, _ => .error (name ++ ": cannot convert indexed to associative array")
    | .keyed _, _ => .ok v
    | .none, some text => .ok { v with value := some "", items := .keyed [("0", text)] }
    | .none, none => .ok { v with items := .keyed [] }
  else if w.on.contains 'a' then
    match v.items, v.value with
    | .keyed _, _ => .error (name ++ ": cannot convert associative to indexed array")
    | .indexed _, _ => .ok v
    | .none, some text => .ok { v with value := some "", items := .indexed [(0, text)] }
    | .none, none => .ok { v with items := .indexed [] }
  else .ok v

/-- Lets a variable refer to another one. -/
def refer (command : String) (g : Given) (v : Variable) : Act Bool := do
  let name := g.name
  match g.gift with
  | .text target =>
    if target = name then
      complain command (name ++ ": nameref variable self references not allowed")
      return false
    if (nameAndKey? target).isNone then
      complain command ("\x60" ++ target ++ "': invalid variable name for name reference")
      return false
    putVariable name { Variable.withTrait true 'n' v with value := some target }
    return true
  | _ =>
    if Variable.isArray v then
      complain command (name ++ ": reference variable cannot be an array")
      return false
    putVariable name (Variable.withTrait true 'n' v)
    return true

/-- A text that lists elements between parentheses. -/
def isList (g : Given) : Bool :=
  match g.gift with
  | .text text => text.startsWith "(" && text.endsWith ")" && text.length > 1
  | _ => false

/-- Gives a variable its properties and its value. -/
def declareOne (eval : String → Act Unit) (command : String) (w : Wishes) (g : Given) :
    Act Bool := do
  let direct := w.on.contains 'n' || w.off.contains 'n'
  let s ← get
  let name := if direct then g.name else s.target g.name
  let g := { g with name }
  let v := (s.bindings.lookup name).getD .blank
  let gives : Bool := match g.gift with
    | .nothing => false
    | _ => true
  if v.readOnly && (gives || w.off.contains 'r' || w.on.contains 'n') then
    complain command (readOnlyMessage name)
    return false
  if w.on.contains 'n' then return ← refer command g v
  let w' : Wishes := match g.gift, g.key with
    | .items _, _ | _, some _ =>
      if Variable.isArray v || w.on.contains 'A' then w else { w with on := 'a' :: w.on }
    | _, _ => w
  match shapedAs w' name v with
  | .error message =>
    complain command message
    return false
  | .ok v =>
    putVariable name (withWishes w v)
    let lists := (w.on.contains 'a' || w.on.contains 'A') && isList g && g.key.isNone
    let given ← match g.gift, g.key with
      | .nothing, _ => pure true
      | .text text, none =>
        if lists then
          eval (name ++ (if g.appends then "+=" else "=") ++ text)
          pure true
        else if Variable.isArray v then Assign.give { g with key := some "0" }
        else Assign.give g
      | _, _ => Assign.give g
    if w.on.contains 'r' then
      modify fun s => { s with toState := s.toState.alter name fun v => { v with readOnly := true } }
    return given

/-- Gives functions properties, or shows them. -/
def declareRoutines (command : String) (w : Wishes) (operands : List Operand) : Act Nat := do
  operands.foldlM (fun status operand => do
    let name := operand.text
    match (← get).routines.lookup name with
    | none =>
      if w.on.contains 'p' then complain command (name ++ ": not found")
      return 1
    | some r =>
      let changes := (w.on ++ w.off).any fun c => c == 'x' || c == 'r' || c == 't'
      if !changes then
        if w.on.contains 'F' then
          let s ← get
          writeLine (if s.enables "extdebug" then
            name ++ " " ++ toString r.line ++ " " ++ r.source else name)
        else showRoutine false name r
      else
        let exported := (r.exported || w.on.contains 'x') && !w.off.contains 'x'
        modify fun s => { s with
          routines := s.routines.map fun (x, old) =>
            (x, if x = name then { old with exported } else old)
          locked := if w.on.contains 'r' then name :: s.locked else s.locked }
      return status) 0

/-- Shows variables by their names. -/
def showNames (command : String) (operands : List Operand) : Act Nat := do
  operands.foldlM (fun status operand => do
    let name := operand.text
    let s ← get
    let found := match s.bindings.lookup name with
      | some v => some ((s.computed? name).getD v)
      | none => s.computed? name
    match found with
    | some v =>
      writeLine (Expand.declaration name v)
      return status
    | none =>
      complain command (name ++ ": not found")
      return 1) 0

/-- Declares variables; with `own`, they belong to the function. -/
def declare (eval : String → Act Unit) (command : String) (own : Bool) (operands : List Operand) :
    Act Nat := do
  if own ∧ (← get).callIndex?.isNone then
    return ← fail 1 command "can only be used in a function"
  match wishes "aAfFgiIlnprtucx".toList operands.length ⟨[], []⟩ operands with
  | .error message => misuse command message
  | .ok (w, operands) =>
    let functions := w.on.contains 'f' || w.on.contains 'F'
    let filter := w.on.filter fun c => !"pgfFI".contains c
    if operands.isEmpty then
      if functions then listRoutines (w.on.contains 'F') filter
      else if own then
        let s ← get
        let mine := ((s.callIndex?.map s.savedAt).getD []).map Prod.fst
        listDeclarations filter fun names => names.filter mine.contains
      else if w.on.contains 'p' || !filter.isEmpty then listDeclarations filter id
      else listAll true
      return 0
    if functions then return ← declareRoutines command w operands
    if w.on.contains 'p' then return ← showNames command operands
    operands.foldlM (fun status operand => do
      if own && operand.text == "-" then
        keepOptions
        return status
      match operand.given? with
      | none =>
        complain command (badName operand.text)
        return 1
      | some g =>
        let one := declareOne eval command w g
        let inCall := (← get).callIndex?.isSome && !w.on.contains 'g'
        let ok ← if inCall then do
            let s ← get
            let locked := (s.bindings.lookup g.name).any (·.readOnly)
            let mine := (s.callIndex?.map s.savedAt).getD []
            if locked && !mine.any (·.1 == g.name) then
              complain command (readOnlyMessage g.name)
              pure false
            else
              makeLocal g.name
              one
          else if w.on.contains 'g' then globally g.name one
          else one
        return if ok then status else 1) 0

/-- Marks variables or functions. -/
def mark (command : String) (letter : Char) (allowed : String) (eval : String → Act Unit)
    (operands : List Operand) : Act Nat := do
  match wishes allowed.toList operands.length ⟨[], []⟩ operands with
  | .error message => misuse command message
  | .ok (w, operands) =>
    let undoes := w.on.contains 'n'
    if operands.isEmpty then
      if w.on.contains 'f' then listRoutines true [letter]
      else listDeclarations [letter] id
      return 0
    operands.foldlM (fun status operand => do
      if w.on.contains 'f' then
        match (← get).routines.lookup operand.text with
        | none =>
          complain command (operand.text ++ ": not a function")
          return 1
        | some _ =>
          let wish : Wishes := if undoes then ⟨[], [letter]⟩ else ⟨[letter], []⟩
          discard <| declareRoutines command wish [operand]
          return status
      match operand.given? with
      | none =>
        complain command (badName operand.text)
        return 1
      | some g =>
        if letter = 'x' && g.key.isSome then
          complain command (badName operand.text)
          return 1
        let name := (← get).target g.name
        let ok ← match g.gift with
          | .nothing => pure true
          | _ =>
            let shape := w.on.filter fun c => c == 'a' || c == 'A'
            if ← isLocked name then pure false
            else declareOne eval command ⟨shape, []⟩ g
        if !ok then return 1
        let v := ((← get).bindings.lookup name).getD .blank
        let v := match g.gift, shapedAs ⟨w.on, []⟩ name v with
          | .nothing, .ok v => v
          | _, _ => v
        putVariable name (if letter = 'x' then { v with exported := !undoes }
          else { v with readOnly := true })
        return status) 0

/-! ## The end of variables and functions -/

/-- Takes an element of a variable away. -/
def unsetElement (name key : String) : Act Nat := do
  let target := (← get).target name
  match (← get).bindings.lookup target with
  | none => return 0
  | some v =>
    if !Variable.isArray v then
      if (← subscriptOf key.toList) = 0 then
        unsetVariable target
        return 0
      return ← fail 1 "unset" (name ++ ": not an array variable")
    if key = "@" ∨ key = "*" then
      putVariable target { v with
        value := some "", items := if Variable.isKeyed v then .keyed [] else .indexed [] }
      return 0
    match ← Assign.key? name key with
    | some found =>
      putVariable target (Variable.dropElement v found)
      return 0
    | none => fail 1 "unset" ("[" ++ key ++ "]: bad array subscript")

def unsetRoutine (name : String) : Act Nat := do
  if (← get).locked.contains name then
    return ← fail 1 "unset" (name ++ ": cannot unset: readonly function")
  modify fun s => { s with routines := s.routines.filter (·.1 != name) }
  return 0

def unset : Builtin := withOptions "unset" "fvn" fun o names => do
  if o.has 'f' && o.has 'v' then
    return ← fail 1 "unset" "cannot simultaneously unset a function and a variable"
  names.foldlM (fun status text => do
    let one ← if o.has 'f' then unsetRoutine text
      else match nameAndKey? text with
        | none =>
          if o.has 'v' then fail 1 "unset" (badName text)
          else if ((← get).routines.lookup text).isSome then unsetRoutine text
          else pure 0
        | some (name, key) =>
          let s ← get
          let target := if o.has 'n' then name else s.target name
          match (s.computed? target).orElse fun _ => s.bindings.lookup target with
          | none =>
            if !o.has 'v' && !o.has 'n' && (s.routines.lookup text).isSome then unsetRoutine text
            else pure 0
          | some v =>
            if v.readOnly then fail 1 "unset" (target ++ ": cannot unset: readonly variable")
            else match key with
              | some key => unsetElement name key
              | none =>
                unsetVariable target
                pure 0
    return max status one) 0

end Builtin

end PlaybookScan.Shell.Bash

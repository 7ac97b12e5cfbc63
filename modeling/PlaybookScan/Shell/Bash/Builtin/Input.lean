import PlaybookScan.Shell.Bash.Builtin.Basic
import PlaybookScan.Shell.Builtin.Variable
import PlaybookScan.Shell.Utility.Basic

/-!
# Commands of the large shell that read
-/

set_option autoImplicit false

namespace PlaybookScan.Shell.Bash.Builtin

/-- What is read of an input. -/
structure Wanted where
  descriptor : Nat
  /-- Backslashes have no meaning. -/
  raw : Bool
  /-- The character that ends it. -/
  stop : Option Char
  /-- Characters at most. -/
  limit : Option Nat

/-- Reads characters, which come last first; behind a backslash, one is `escaped`. Says whether the
input did not end before. `fuel` is more than the number of characters. -/
def take (w : Wanted) (fuel : Nat) (escaped : Bool) (done : List Shell.Builtin.Read) (s : State) :
    (List Shell.Builtin.Read × Bool) × State :=
  match fuel with
  | 0 => ((done, false), s)
  | fuel + 1 =>
    if w.limit.any (· ≤ done.length) then ((done, true), s)
    else match s.readSome w.descriptor 1 with
      | (some (c :: _), s) =>
        if escaped then
          if c = '\n' then take w fuel false done s else take w fuel false ((c, false) :: done) s
        else if c = '\\' ∧ !w.raw then take w fuel true done s
        else if some c = w.stop then ((done, true), s)
        else if c = '\x00' then take w fuel false done s
        else take w fuel false ((c, true) :: done) s
      | (_, s) => ((done, false), s)

/-- A number without sign below a bound. -/
def countBelow? (bound : Nat) (text : String) : Option Nat :=
  match integer? text with
  | some n => if 0 ≤ n ∧ n < bound then some n.toNat else none
  | none => none

/-- Milliseconds of a text in seconds. -/
def timeLimit? (text : String) : Option Nat :=
  let whole := text.toList.takeWhile Char.isDigit
  let rest := text.toList.drop whole.length
  let fraction := rest.drop 1
  if (rest = [] ∨ rest.head? = some '.') ∧ fraction.all Char.isDigit ∧ text ≠ "." ∧ text ≠ "" then
    some (1000 * Printf.number 10 whole + Printf.number 10 ((fraction ++ ['0', '0', '0']).take 3))
  else none

/-- The descriptor that an option names. -/
def descriptor? (command text : String) : Act (Option Nat) := do
  match countBelow? (2 ^ 31) text with
  | none =>
    complain command (text ++ ": invalid file descriptor specification")
    return none
  | some n =>
    if ((← get).toState.channel? n).isSome then return some n
    complain command (toString n ++ ": invalid file descriptor: Bad file descriptor")
    return none

/-- Milliseconds until there is something to be read. -/
def delay (s : State) (descriptor : Nat) : Nat :=
  match s.channel? descriptor with
  | some (.input n) => ((s.inputs[n]?).map fun input => input.ready - s.clock).getD 0
  | _ => 0

/-- The fields of what was read. -/
def fieldsOf (separators : List Char) (text : List Shell.Builtin.Read) : List String :=
  let atoms := text.flatMap fun (c, active) =>
    Shell.Expand.valueAtoms (!active) (String.singleton c)
  (Shell.Expand.fields separators (.start false) [] atoms).map Shell.Expand.unmark

/-- Gives what was read to variables. -/
def deal (names : List String) (text : List Shell.Builtin.Read) (separators : List Char) :
    Act Bool := do
  let words := Shell.Builtin.distribute separators names.length text
  ((List.range names.length).zip names).foldlM (fun ok (i, name) => do
    if !ok then return false
    assignTo "read" name (words.getD i "")) true

def read : Builtin := withOptions "read" "ersa:d:i:n:p:t:u:N:" fun o names => do
  let fail (message : String) : Act Nat := do
    complain "read" message
    return 1
  let counts := ['n', 'N'].filterMap o.value?
  match counts.find? fun text => (countBelow? (2 ^ 31) text).isNone with
  | some text => return ← fail (text ++ ": invalid number")
  | none => pure ()
  let limit := counts.head?.bind (countBelow? (2 ^ 31))
  let wait := (o.value? 't').map timeLimit?
  if wait = some none then
    return ← fail ((o.value? 't').getD "" ++ ": invalid timeout specification")
  let source ← match o.value? 'u' with
    | some text => descriptor? "read" text
    | none => pure (some 0)
  let some descriptor := source | return 1
  if wait = some (some 0) then
    let late := delay (← get).toState descriptor
    return statusOf (late = 0)
  let valid := match o.value? 'a', names with
    | some array, _ => if isName array then none else some array
    | none, name :: _ => if (nameAndKey? name).isSome then none else some name
    | none, [] => none
  match valid with
  | some name => return ← fail (badName name)
  | none => pure ()
  let exact := o.has 'N'
  let s ← get
  let late := delay s.toState descriptor
  let isLate : Bool := match wait.join with
    | some limit => limit < late
    | none => false
  let stop := if exact then none else some (((o.value? 'd').getD "\n").toList.headD '\x00')
  let (text, ok) ← if isLate then do
      onState fun s => { s with clock := s.clock + (wait.join).getD 0 }
      pure ([], false)
    else do
      let bound := s.toState.readable descriptor + 2
      let wanted : Wanted := ⟨descriptor, o.has 'r', stop, limit⟩
      let readable : Bool := match s.toState.channel? descriptor with
        | some (.pipe _) | some (.file _) | some .directory | none => false
        | _ => true
      if !readable then
        complain "read" ("read error: " ++ toString descriptor ++ ": " ++
          Utility.cause (s.toState.readFault descriptor))
      let (text, ok) ← inState (take wanted bound false [])
      pure (text.reverse, ok)
  let now ← get
  let separators := if exact then [] else Expand.separators now
  let given ← match o.value? 'a', names with
    | some array, _ =>
      let items := (fieldsOf separators text).map fun text => (⟨none, false, text⟩ : Item)
      Assign.give ⟨array, none, false, .items items⟩
    | none, [] => store "REPLY" .none (String.ofList (text.map Prod.fst))
    | none, names => deal names text separators
  return if !given then 1 else if isLate then 142 else statusOf ok

/-! ## Lines -/

/-- Reads lines up to the character `stop`, at most `fuel`; they keep it if it is not `cut`. -/
def takeLines (descriptor : Nat) (stop : Char) (cut : Bool) (fuel : Nat) (s : State) :
    List String × State :=
  match fuel with
  | 0 => ([], s)
  | fuel + 1 =>
    match s.readUpTo descriptor stop with
    | (some (line, ended), s) =>
      if line = [] ∧ !ended then ([], s)
      else
        let text := line.filter (· ≠ '\x00') ++ if ended && !cut && stop != '\x00' then [stop] else []
        let (more, s) := if ended then takeLines descriptor stop cut fuel s else ([], s)
        (String.ofList text :: more, s)
    | (none, s) => ([], s)

/-- Reads lines into the elements of a variable; `eval` runs a text. -/
def mapfile (command : String) (eval : String → Act Unit) : Builtin :=
  withOptions command "d:u:n:O:tC:c:s:" fun o names => do
    let fail (message : String) : Act Nat := do
      complain command message
      return 1
    let number (letter : Char) (usual : Nat) (what : String) : ExceptT String Act Nat := do
      match o.value? letter with
      | none => return usual
      | some text =>
        match countBelow? (2 ^ 63) text with
        | some n => return n
        | none => throw (text ++ ": invalid " ++ what)
    let numbers : ExceptT String Act (Nat × Nat × Nat × Nat) := do
      let count ← number 'n' 0 "line count"
      let origin ← number 'O' 0 "array origin"
      let skipped ← number 's' 0 "line count"
      let quantum ← number 'c' 5000 "callback quantum"
      if quantum = 0 then throw ((o.value? 'c').getD "" ++ ": invalid callback quantum")
      return (count, origin, skipped, quantum)
    match ← numbers.run with
    | .error message => fail message
    | .ok (count, origin, skipped, quantum) =>
      let source ← match o.value? 'u' with
        | some text => descriptor? command text
        | none => pure (some 0)
      let some descriptor := source | return 1
      let name := names.headD "MAPFILE"
      if name = "" then return ← fail "empty array variable name"
      if !isName name then return ← fail (badName name)
      let target := (← get).target name
      let v := ((← get).bindings.lookup target).getD .blank
      if v.readOnly then
        report (readOnlyMessage name)
        return 1
      if Variable.isKeyed v then return ← fail (name ++ ": not an indexed array")
      let stop := ((o.value? 'd').getD "\n").toList.headD '\x00'
      let bound := (← get).toState.readable descriptor + 1
      discard <| inState (takeLines descriptor stop false (min skipped bound))
      let limit := if count = 0 then bound else min count bound
      let lines ← inState (takeLines descriptor stop (o.has 't') limit)
      let fresh := { v with value := some "", items := .indexed [] }
      let old := match v.items, v.value with
        | .indexed _, _ => { v with value := some "" }
        | _, some text => { fresh with items := .indexed [(0, text)] }
        | _, none => fresh
      putVariable target (if o.has 'O' then old else fresh)
      ((List.range lines.length).zip lines).forM fun (i, line) => do
        match o.value? 'C' with
        | some callback =>
          if (i + 1) % quantum = 0 then
            eval (callback ++ " " ++ toString (origin + i) ++ " " ++ Expand.reusable line)
        | none => pure ()
        discard <| Assign.giveText name (.number (origin + i)) false line
      return 0

end PlaybookScan.Shell.Bash.Builtin

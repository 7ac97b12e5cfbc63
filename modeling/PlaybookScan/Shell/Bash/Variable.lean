import PlaybookScan.Shell.Bash.Session

/-!
# Variables of the large shell

A variable can have several elements, numbered or with names, and properties that change what it is
given. Some variables have no value of their own: what they give is worked out when it is asked for.
-/

set_option autoImplicit false

namespace PlaybookScan.Shell.Bash

/-- The element of a variable that is meant. -/
inductive Key where
  | none
  | number (n : Nat)
  | name (key : String)
  deriving DecidableEq

/-- The row of a table of `rows` rows in which a name is kept. -/
def tableRow (rows : Nat) (name : String) : Nat :=
  (name.toList.foldl (fun (h : UInt32) c => (h * 16777619) ^^^ UInt32.ofNat c.toNat)
    2166136261).toNat % rows

/-- Rows of the tables of variables and of elements with names. -/
def rows : Nat := 1024

/-- The names in the order of their rows. -/
def inRows {α : Type} (entries : List (String × α)) : List (String × α) :=
  entries.mergeSort fun a b => tableRow rows a.1 ≤ tableRow rows b.1

namespace Variable

/-- Sets an element in the order of the numbers. -/
def setNumber (n : Nat) (text : String) : List (Nat × String) → List (Nat × String)
  | [] => [(n, text)]
  | (m, old) :: items =>
    if m = n then (n, text) :: items
    else if n < m then (n, text) :: (m, old) :: items
    else (m, old) :: setNumber n text items

/-- Sets an element with a name; a new one comes before the others of its row. -/
def setName (key text : String) (items : List (String × String)) : List (String × String) :=
  if items.any (·.1 == key) then items.map fun (k, old) => (k, if k = key then text else old)
  else
    let row := tableRow rows key
    let before (item : String × String) : Bool := tableRow rows item.1 < row
    items.takeWhile before ++ (key, text) :: items.dropWhile before

/-- The elements, with their keys as texts. -/
def elements (v : Shell.Variable) : List (String × String) :=
  match v.items with
  | .none => (v.value.map fun text => ("0", text)).toList
  | .indexed items => items.map fun (n, text) => (toString n, text)
  | .keyed items => items

def isArray (v : Shell.Variable) : Bool := v.items != .none

def isKeyed (v : Shell.Variable) : Bool :=
  match v.items with
  | .keyed _ => true
  | _ => false

def has (v : Shell.Variable) (trait : Char) : Bool := v.traits.contains trait

/-- The text of an element. -/
def text? (v : Shell.Variable) (key : Key) : Option String :=
  match v.items, key with
  | .none, .none | .none, .number 0 => v.value
  | .none, _ => none
  | .indexed items, .number n => items.lookup n
  | .indexed items, _ => items.lookup 0
  | .keyed items, .none => items.lookup "0"
  | .keyed items, .number n => items.lookup (toString n)
  | .keyed items, .name key => items.lookup key

/-- Sets the text of an element. -/
def set (v : Shell.Variable) (key : Key) (text : String) : Shell.Variable :=
  match v.items, key with
  | .none, .none => { v with value := some text }
  | .none, .number n =>
    let items := match v.value with
      | some old => [(0, old)]
      | none => []
    { v with value := none, items := .indexed (setNumber n text items) }
  | .none, .name key => { v with value := none, items := .keyed [(key, text)] }
  | .indexed items, .number n => { v with items := .indexed (setNumber n text items) }
  | .indexed items, _ => { v with items := .indexed (setNumber 0 text items) }
  | .keyed items, .none => { v with items := .keyed (setName "0" text items) }
  | .keyed items, .number n => { v with items := .keyed (setName (toString n) text items) }
  | .keyed items, .name key => { v with items := .keyed (setName key text items) }

/-- The variable without an element. -/
def dropElement (v : Shell.Variable) (key : Key) : Shell.Variable :=
  match v.items, key with
  | .indexed items, .number n => { v with items := .indexed (items.filter (·.1 != n)) }
  | .keyed items, .name key => { v with items := .keyed (items.filter (·.1 != key)) }
  | _, _ => v

/-- The text in the case that the variable asks for. -/
def shaped (v : Shell.Variable) (text : String) : String :=
  if has v 'u' then text.map Char.toUpper
  else if has v 'l' then text.map Char.toLower
  else if has v 'c' then
    String.ofList ((text.toList.take 1).map Char.toUpper ++ (text.toList.drop 1).map Char.toLower)
  else text

/-- Adds a property or takes it away. -/
def withTrait (on : Bool) (trait : Char) (v : Shell.Variable) : Shell.Variable :=
  let others := v.traits.filter (· != trait)
  { v with traits := if on then trait :: others else others }

end Variable

/-- The next random number and the number that it is made of. -/
def nextRandom (seed : Nat) : Nat × Nat :=
  let seed : Int := if seed = 0 then 123459876 else seed
  let t := 16807 * (seed % 127773) - 2836 * (seed / 127773)
  let next := (if t < 0 then t + 0x7fffffff else t).toNat
  ((next / 2 ^ 16 ^^^ next % 2 ^ 16) % 2 ^ 15, next)

namespace Session

/-- The name of the variable that a name refers to, with a subscript if it refers to an element;
`fuel` bounds the references. -/
def resolve (s : Session) (fuel : Nat) (name : String) : String :=
  match fuel with
  | 0 => name
  | fuel + 1 =>
    match s.bindings.lookup name with
    | some v =>
      if Variable.has v 'n' then
        match v.value with
        | some other => if other = "" then name else resolve s fuel other
        | none => name
      else name
    | none => name

/-- The name of the variable that a name refers to. -/
def target (s : Session) (name : String) : String :=
  String.ofList ((s.resolve 8 name).toList.takeWhile (· ≠ '['))

def indexed (texts : List String) : Shell.Variable :=
  { Shell.Variable.blank with items := .indexed ((List.range texts.length).zip texts) }

def number (n : Int) : Shell.Variable :=
  { Shell.Variable.blank with value := some (toString n), traits := ['i'] }

/-- The letters of the options that are on. -/
def activeLetters (s : Session) : List Char :=
  letterOrder.filter fun c => s.options.contains c || (c == 'c' && s.isArgument)

/-- The value of a variable that is worked out. -/
def computed? (s : Session) (name : String) : Option Shell.Variable :=
  let calls := s.frames.filter (·.saved.isSome)
  let isFile : Bool := !s.isArgument
  if s.plain.contains name then none
  else match name with
  | "BASH_COMMAND" =>
    s.current.map fun c => { Shell.Variable.blank with value := some c.shown }
  | "LINENO" => some (number s.line)
  | "SECONDS" => some (number (((s.clock : Int) - s.started) / 1000))
  | "RANDOM" => some (number (nextRandom s.seed).1)
  | "BASHPID" => some (number s.own)
  | "BASH_SUBSHELL" => some (number s.level)
  | "PIPESTATUS" => some (indexed (s.stages.map fun n => toString n))
  | "FUNCNAME" =>
    if calls = [] then none
    else some (indexed (s.frames.map Frame.function))
  | "BASH_SOURCE" =>
    if s.frames = [] then none else some (indexed (s.frames.map Frame.source))
  | "BASH_LINENO" =>
    if s.frames = [] then none
    else some (indexed (s.frames.map fun f => toString f.line))
  | "DIRSTACK" => some (indexed (Octets.ofText s.cwd.text :: s.stack))
  | "GROUPS" => some (indexed ["0"])
  | "SHELLOPTS" =>
    let on := optionNames.filter fun (_, letter) => s.options.contains letter
    some { Shell.Variable.blank with
      value := some (":".intercalate (on.map Prod.fst)), readOnly := true }
  | "BASHOPTS" =>
    let on := featureNames.filter fun (name, _) => s.features.contains name
    some { Shell.Variable.blank with
      value := some (":".intercalate (on.map Prod.fst)), readOnly := true }
  | "_" => if isFile || s.lastWord ≠ "" then
      some { Shell.Variable.blank with value := some s.lastWord } else none
  | _ => none

def lookup? (s : Session) (name : String) : Option Shell.Variable :=
  let name := s.target name
  match s.computed? name with
  | some v => some v
  | none => s.bindings.lookup name

/-- The text of a variable as a whole. -/
def text? (s : Session) (name : String) : Option String :=
  (s.lookup? name).bind (Variable.text? · .none)

end Session

/-- The variable of this name, which is changed if its value is a new one each time. -/
def readVariable (name : String) : Act (Option Shell.Variable) := do
  let s ← get
  let found := s.lookup? name
  if name = "RANDOM" then set { s with seed := (nextRandom s.seed).2 }
  return found

/-- The session after what follows from a new value of a variable. -/
def Session.noticed (s : Session) (name : String) (value : Option String) : Session :=
  let s := { s with toState := State.noticed name value s.toState }
  match name, value with
  | "RANDOM", some text => if s.plain.contains name then s else { s with seed := State.leadingNumber text % 2 ^ 32 }
  | "SECONDS", some text => if s.plain.contains name then s else { s with started := s.clock - 1000 * State.leadingNumber text }
  | _, _ => s

/-- Puts a variable into the place of the one of this name. -/
def putVariable (name : String) (v : Shell.Variable) : Act Unit :=
  modify fun s =>
    let v := { v with exported := v.exported || s.has 'a' }
    Session.noticed { s with bindings := State.alterVariable (fun _ => v) name s.bindings } name
      (Variable.text? v .none)

def readOnlyMessage (name : String) : String := name ++ ": readonly variable"

/-- Tells that a variable cannot be changed, if that is so. -/
def isLocked (name : String) : Act Bool := do
  let s ← get
  match s.lookup? name with
  | some v =>
    if v.readOnly then
      report (readOnlyMessage name)
      return true
    return false
  | none => return false

/-- Sets the text of an element; says whether that is allowed. -/
def store (name : String) (key : Key) (text : String) : Act Bool := do
  let name := (← get).target name
  if ← isLocked name then return false
  let v := ((← get).bindings.lookup name).getD .blank
  putVariable name (Variable.set v key (Variable.shaped v text))
  return true

/-- Takes a variable away, which then is no longer worked out. -/
def removeVariable (name : String) : Act Unit :=
  modify fun s =>
    let plain := if (s.computed? name).isSome && name != "_" then name :: s.plain else s.plain
    Session.noticed { s with bindings := s.bindings.filter (·.1 != name), plain } name none

/-- The variables that programs get, in their order. -/
def Session.exports (s : Session) : List (String × Shell.Variable) :=
  inRows (s.environment.filter fun (name, v) => name != "_" && v.items == .none)

/-- Names of the variables that have something to show, in their order. -/
def Session.variableNames (s : Session) : List String :=
  (s.bindings.map Prod.fst).mergeSort fun a b => a.toList ≤ b.toList

end PlaybookScan.Shell.Bash

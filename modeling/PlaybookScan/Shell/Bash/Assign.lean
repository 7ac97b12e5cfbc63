import PlaybookScan.Shell.Bash.Expand

/-!
# Assignments of the large shell

What a variable gets can be a text, a text for one of its elements, or a list of elements. Its
properties decide what becomes of a text: a number, or letters of one case.
-/

set_option autoImplicit false

namespace PlaybookScan.Shell.Bash

/-- An element of a list of values, after its words were expanded. -/
structure Item where
  key : Option String
  appends : Bool
  value : String

/-- What a variable is given. -/
inductive Gift where
  | nothing
  | text (text : String)
  | items (items : List Item)

/-- An assignment after its words were expanded. -/
structure Given where
  name : String
  key : Option String
  appends : Bool
  gift : Gift

/-- The text of an assignment. -/
def Given.shown (g : Given) : String :=
  let lead := g.name ++ (match g.key with
    | some key => "[" ++ key ++ "]"
    | none => "")
  match g.gift with
  | .nothing => lead
  | .text text => lead ++ (if g.appends then "+=" else "=") ++ text
  | .items _ => lead

namespace Assign

/-- The items of a list of values. A word without key may come to several. -/
def itemsOf (r : Runner) (elements : List (Element Word)) : Act (List Item) := do
  let found ← elements.mapM fun e => do
    match e.key with
    | .element key =>
      let key ← Expand.text r Expand.depth key.pieces
      return [⟨some key, e.appends, ← Expand.value r e.value⟩]
    | _ => return (← Expand.word r e.value).map fun text => ⟨none, false, text⟩
  return found.flatten

/-- Expands the words of an assignment. -/
def expand (r : Runner) (a : Assignment Word) : Act Given := do
  let gift ← match a.content with
    | .text w => do pure (Gift.text (← Expand.value r w))
    | .elements elements => do pure (.items (← itemsOf r elements))
  match a.key with
  | .element key =>
    return ⟨a.name, some (← Expand.text r Expand.depth (Expand.homes (← get) key.pieces)), a.appends,
      gift⟩
  | _ => return ⟨a.name, none, a.appends, gift⟩

/-- The element that the text of a subscript means; none if there is no such element. -/
def key? (name text : String) : Act (Option Key) := do
  let v := ((← get).lookup? name).getD .blank
  if Variable.isKeyed v then return some (.name text)
  let n ← subscriptOf text.toList
  let size : Int := match v.items with
    | .indexed items => (items.getLast?.map fun (m, _) => (m : Int) + 1).getD 0
    | _ => if v.value.isSome then 1 else 0
  let n := if n < 0 then n + size else n
  return if n < 0 then none else some (.number n.toNat)

/-- The text that an element has after an assignment. -/
def combined (v : Shell.Variable) (key : Key) (appends : Bool) (text : String) : Act String := do
  let old := (Variable.text? v key).getD ""
  if Variable.has v 'i' then
    let n ← numberOf text.toList
    let before ← if appends then numberOf old.toList else pure 0
    return toString (Shell.Arithmetic.wrap (before + n))
  else return if appends then old ++ text else text

/-- Gives an element a text; says whether that is allowed. -/
def giveText (name : String) (key : Key) (appends : Bool) (text : String) : Act Bool := do
  let full := (← get).resolve 8 name
  let name := (← get).target name
  let key ← match full.toList.dropWhile (· ≠ '['), key with
    | '[' :: inside, .none => do
      match ← key? name (String.ofList inside.dropLast) with
      | some key => pure key
      | none => pure .none
    | _, key => pure key
  if ← isLocked name then return false
  let v := ((← get).bindings.lookup name).getD .blank
  store name key (← combined v key appends text)

/-- The message about a subscript that means no element. -/
def badSubscript (name key : String) : String := name ++ "[" ++ key ++ "]: bad array subscript"

/-- The variable with more items; those without key follow the element `next`. -/
def withNumbered (name : String) (v : Shell.Variable) (next : Nat) : List Item → Act Shell.Variable
  | [] => return v
  | item :: items => do
    let n ← match item.key with
      | none => pure next
      | some text => do
        let n ← subscriptOf text.toList
        let size : Int := match v.items with
          | .indexed old => (old.getLast?.map fun (m, _) => (m : Int) + 1).getD 0
          | _ => 0
        let n := if n < 0 then n + size else n
        if n < 0 then
          report (badSubscript name text)
          return ← withNumbered name v next items
        pure n.toNat
    let text ← combined v (.number n) item.appends item.value
    withNumbered name (Variable.set v (.number n) (Variable.shaped v text)) (n + 1) items

/-- The variable with more items with names. Without keys, each second item is the value of the one
before it. -/
def withNamed (name : String) (paired : Bool) (v : Shell.Variable) :
    List Item → Act Shell.Variable
  | [] => return v
  | ⟨some key, appends, value⟩ :: items => do
    let text ← combined v (.name key) appends value
    withNamed name paired (Variable.set v (.name key) (Variable.shaped v text)) items
  | ⟨none, _, key⟩ :: items => do
    if !paired then
      report (name ++ ": '" ++ key ++ "': must use subscript when assigning associative array")
      return ← withNamed name paired v items
    match items with
    | ⟨_, _, value⟩ :: items =>
      let text ← combined v (.name key) false value
      withNamed name paired (Variable.set v (.name key) (Variable.shaped v text)) items
    | [] => return Variable.set v (.name key) ""

/-- Gives a variable a list of items; says whether that is allowed. -/
def giveItems (name : String) (appends : Bool) (items : List Item) : Act Bool := do
  let name := (← get).target name
  if ← isLocked name then return false
  let v := ((← get).bindings.lookup name).getD .blank
  let filled ← match v.items with
    | .keyed old =>
      let start := { v with value := some "", items := .keyed (if appends then old else []) }
      withNamed name ((items.head?.map fun i => i.key.isNone).getD true) start items
    | found => do
      let old : List (Nat × String) := match found, v.value with
        | .indexed old, _ => old
        | _, some text => [(0, text)]
        | _, none => []
      let old := if appends then old else []
      let start := { v with value := some "", items := .indexed old }
      withNumbered name start ((old.getLast?.map fun (m, _) => m + 1).getD 0) items
  putVariable name filled
  return true

/-- Gives a variable what it is to get; says whether that is allowed. -/
def give (g : Given) : Act Bool := do
  match g.gift, g.key with
  | .nothing, _ => return true
  | .text text, none => giveText g.name .none g.appends text
  | .text text, some key =>
    match ← key? g.name key with
    | some found => giveText g.name found g.appends text
    | none =>
      report (badSubscript g.name key)
      return false
  | .items items, none => giveItems g.name g.appends items
  | .items _, some key =>
    report (g.name ++ "[" ++ key ++ "]: cannot assign list to array member")
    return false

end Assign

end PlaybookScan.Shell.Bash

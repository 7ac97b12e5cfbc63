import PlaybookScan.Shell.Utility.Files

/-!
# Programs on the names of files
-/

set_option autoImplicit false

namespace PlaybookScan.Shell.Utility

/-! ## Parts of paths -/

/-- `cs` without the slashes at its end. -/
def dropSlashes (cs : List Char) : List Char := (cs.reverse.dropWhile (· == '/')).reverse

/-- The last name of a path, without a suffix that is not all of it. -/
def lastName (suffix path : String) : String :=
  let cs := path.toList
  let trimmed := dropSlashes cs
  let name := if trimmed = [] then cs.take 1 else (trimmed.splitOn '/').getLastD []
  match suffix.toList.reverse.isPrefixOf? name.reverse with
  | some [] | none => String.ofList name
  | some kept => String.ofList kept.reverse

/-- Writes a text with a newline or a zero byte behind it. -/
def writeItem (a : Arguments) (text : String) : StateM State Unit :=
  write (text.toList ++ [if a.has 'z' then '\x00' else '\n'])

def basename : Utility :=
  withOptions (.leading "as:z" [("multiple", 'a'), ("suffix", 's'), ("zero", 'z')]) 1 fun a => do
    match a.operands with
    | [] => misuse 1 "missing operand"
    | operand :: rest =>
      if a.has 'a' || a.has 's' then
        a.operands.forM fun x => writeItem a (lastName ((a.value? 's').getD "") x)
        return 0
      else match rest with
        | _ :: extra :: _ => misuse 1 ("extra operand " ++ quoted extra)
        | rest => writeItem a (lastName (rest.headD "") operand); return 0

/-- The path without its last name. -/
def parentName (path : String) : String :=
  let trimmed := dropSlashes path.toList
  let parent := dropSlashes (trimmed.reverse.dropWhile (· != '/')).reverse
  if parent ≠ [] then String.ofList parent else if path.startsWith "/" then "/" else "."

def dirname : Utility := withOptions (.of "z" [("zero", 'z')]) 1 fun a => do
  if a.operands = [] then misuse 1 "missing operand"
  else
    a.operands.forM fun operand => writeItem a (parentName operand)
    return 0

def pwd : Utility := withOptions (.of "LP" [("logical", 'L'), ("physical", 'P')]) 1 fun a => do
  if a.operands ≠ [] then complain "ignoring non-option arguments"
  let s ← get
  let logical := (s.valueOf? "PWD").filter fun p =>
    p.startsWith "/" && samePlace s p "." && !(p.splitOn "/").any fun c => c == "." || c == ".."
  match if a.options.getLast? = some ('L', "") then logical else none with
  | some path => writeLine path
  | none => writeLine (Octets.ofText s.physical.text)
  return 0

/-! ## Paths without links -/

/-- Which parts of a path have to exist. -/
inductive Presence where
  | all
  | allButLast
  | none
  deriving DecidableEq

/-- Goes on from a place through names that need not exist. -/
def lenientPlace (s : State) (follow : Bool) (place : List String) : List String → List String
  | [] => place
  | name :: names =>
    if name = "" ∨ name = "." then lenientPlace s follow place names
    else if name = ".." then lenientPlace s follow place.dropLast names
    else
      let next := place ++ [name]
      let next := match if follow then s.disk.locate true s.cwd ⟨"/" ++ "/".intercalate next⟩
          else .error .noSuchFile with
        | .ok (found, some _) => found
        | _ => next
      lenientPlace s follow next names

/-- The names on the way to what an operand names, without links. -/
def placeOf (s : State) (presence : Presence) (follow : Bool) (operand : String) :
    Except IoError (List String) := do
  if operand = "" then throw .noSuchFile
  let full := (s.cwd.join (State.path operand)).text
  let lenient := lenientPlace s follow [] (full.splitOn "/")
  if presence = .none then return lenient
  let trimmed : Path := ⟨String.ofList (dropSlashes full.toList)⟩
  let (place, node) ← s.disk.locate true s.cwd (if trimmed.isEmpty then ⟨"/"⟩ else trimmed)
  match node with
  | none => if presence = .all then throw .noSuchFile
  | some node =>
    if operand.endsWith "/" ∧ !node.isDirectory then throw .notADirectory
  return if follow then place else lenient

/-- The text of a place. -/
def textOf (place : List String) : String := Octets.ofText ("/" ++ "/".intercalate place)

/-- A place as it is seen from another one. -/
def seenFrom (base place : List String) : String :=
  let common := ((base.zip place).takeWhile fun (x, y) => x == y).length
  let names := List.replicate (base.length - common) ".." ++ place.drop common
  if names = [] then "." else Octets.ofText ("/".intercalate names)

/-- The presence that options ask for. -/
def presenceOf (a : Arguments) (usual : Presence) : Presence :=
  match ((a.options.map Prod.fst).filter fun c => "efm".contains c).getLast? with
  | some 'e' => .all
  | some 'm' => .none
  | some _ => .allButLast
  | none => usual

def readlink : Utility :=
  withOptions (.of "femnqsvz" [("canonicalize", 'f'), ("canonicalize-existing", 'e'),
    ("canonicalize-missing", 'm'), ("no-newline", 'n'), ("quiet", 'q'), ("silent", 's'),
    ("verbose", 'v'), ("zero", 'z')]) 1 fun a => do
    if a.operands = [] then return ← misuse 1 "missing operand"
    let bare : Bool := a.has 'n' && a.operands.length == 1
    if a.has 'n' ∧ !bare then complain "ignoring --no-newline with multiple arguments"
    a.operands.foldlM (fun status operand => do
      let s ← get
      let found : Except IoError String :=
        if a.has 'f' || a.has 'e' || a.has 'm' then
          (placeOf s (presenceOf a .allButLast) true operand).map textOf
        else match s.itself operand with
          | .ok (.link target) => .ok (Octets.ofText target)
          | .ok _ => .error (.system 22)
          | .error e => .error e
      match found with
      | .ok text =>
        if bare then write text.toList else writeItem a text
        return status
      | .error e =>
        if a.has 'v' then complain (ofOperand operand (cause e))
        return 1) 0

def realpath : Utility :=
  withOptions (.of "emLPqszρ:β:" [("canonicalize-existing", 'e'), ("canonicalize-missing", 'm'),
    ("logical", 'L'), ("physical", 'P'), ("quiet", 'q'), ("strip", 's'), ("no-symlinks", 's'),
    ("zero", 'z'), ("relative-to", 'ρ'), ("relative-base", 'β')]) 1 fun a => do
    if a.operands = [] then return ← misuse 1 "missing operand"
    let presence := presenceOf a .allButLast
    let follow := !a.has 's'
    let place (operand : String) : StateM State (Option (List String)) := do
      let s ← get
      let operand := if a.has 'L' then Builtin.lexical (Octets.ofText s.cwd.text) operand
        else operand
      match placeOf s presence follow operand with
      | .ok place => return some place
      | .error e =>
        if !a.has 'q' then complain (ofOperand operand (cause e))
        return none
    let target ← match a.value? 'ρ' with
      | some dir =>
        let some found ← place dir | return 1
        pure (some found)
      | none => pure none
    let limit ← match a.value? 'β' with
      | some dir =>
        let some found ← place dir | return 1
        pure (some found)
      | none => pure none
    a.operands.foldlM (fun status operand => do
      match ← place operand with
      | none => return 1
      | some found =>
        let inside : Bool := match limit with
          | some base => base.isPrefixOf found
          | none => true
        match target.orElse fun _ => limit with
        | some base =>
          writeItem a (if inside then seenFrom base found else textOf found)
        | none => writeItem a (textOf found)
        return status) 0

end PlaybookScan.Shell.Utility

import PlaybookScan.Log.Pattern.CharClass
import PlaybookScan.Text.Alphanumeric

/-!
# Patterns of field values

`Pattern.check` says whether a text is a regular expression that field values can be compared with.
Closing braces cannot occur in it, as they end the field: so an opening brace is never complete.
-/

set_option autoImplicit false

namespace PlaybookScan.Log.Pattern

/-- What is wrong with a pattern. -/
inductive Fault where
  | malformed
  /-- Edges of words made of any letters are asked for. -/
  | unicodeBoundary
  deriving DecidableEq, Repr

def Fault.message : Fault → String
  | malformed => "error building NFA"
  | unicodeBoundary =>
    "unsupported regex feature for DFAs: cannot build DFAs for regexes with Unicode word " ++
      "boundaries; switch to ASCII word boundaries, or heuristically enable Unicode word " ++
      "boundaries or use a different regex engine"

/-- Patterns may nest this deep. -/
def depthLimit : Nat := 250

/-- The parts since the last group was opened or the last alternative began. -/
structure Parts where
  count : Nat
  /-- Depth of the deepest part. -/
  depth : Nat
  /-- Depth of the last part, if it can be repeated. -/
  last : Option Nat
  deriving DecidableEq, Repr

namespace Parts

def empty : Parts := ⟨0, 0, none⟩

def push (p : Parts) (depth : Nat) : Parts := ⟨p.count + 1, max p.depth depth, some depth⟩

/-- Flags are a part that cannot be repeated. -/
def pushFlags (p : Parts) : Parts := ⟨p.count + 1, p.depth, none⟩

/-- Repeats the last part. -/
def repeat? (p : Parts) : Option Parts :=
  p.last.map fun depth => { p with depth := max p.depth (depth + 1), last := some (depth + 1) }

def total (p : Parts) : Nat := if p.count ≤ 1 then p.depth else p.depth + 1

end Parts

/-- Parts, and the depth of the alternatives before them. -/
structure Branches where
  alternatives : Option Nat
  parts : Parts
  deriving DecidableEq, Repr

namespace Branches

def empty : Branches := ⟨none, .empty⟩

def push (b : Branches) (depth : Nat) : Branches := { b with parts := b.parts.push depth }

/-- Begins the next alternative. -/
def branch (b : Branches) : Branches :=
  ⟨some (max (b.alternatives.getD 0) b.parts.total), .empty⟩

def total (b : Branches) : Nat :=
  match b.alternatives with
  | none => b.parts.total
  | some depth => max depth b.parts.total + 1

end Branches

/-- Where the reading of a pattern stands. -/
structure Reading where
  mode : Mode
  branches : Branches
  /-- What the open groups stand behind, and how the pattern was read there. -/
  outer : List (Branches × Mode)
  /-- Names of groups. -/
  names : List String
  /-- An edge of words made of any letters has been read. -/
  boundary : Bool
  deriving DecidableEq, Repr

def Reading.start : Reading := ⟨⟨false, true⟩, .empty, [], [], false⟩

namespace Reading

def push (r : Reading) (depth : Nat) : Reading := { r with branches := r.branches.push depth }

def openGroup (r : Reading) (mode : Mode) : Reading :=
  { r with mode, branches := .empty, outer := (r.branches, r.mode) :: r.outer }

def closeGroup? (r : Reading) : Option Reading :=
  match r.outer with
  | [] => none
  | (branches, mode) :: outer =>
    some { r with mode, branches := branches.push (r.branches.total + 1), outer }

end Reading

/-! ## Groups -/

/-- Reads flags up to a colon or a closing parenthesis. `seen` are those before; each may come once,
and so may the hyphen that switches the later ones off. -/
def flags? (m : Mode) (seen : List Char) : List Char → Option (Mode × List Char × List Char)
  | [] => none
  | c :: cs =>
    if c == ':' || c == ')' then
      if seen.head? == some '-' then none else some (m, seen, c :: cs)
    else if seen.contains c then none
    else
      let on := !seen.contains '-'
      match c with
      | '-' | 'i' | 'm' | 's' | 'U' | 'R' => flags? m (c :: seen) cs
      | 'u' => flags? { m with unicode := on } (c :: seen) cs
      | 'x' => flags? { m with verbose := on } (c :: seen) cs
      | _ => none

/-- Reads the name of a group up to its closing angle. -/
def groupName? (cs : List Char) : Option (String × List Char) :=
  let isFirst (c : Char) := c == '_' || Text.isAlphabetic c
  let isLater (c : Char) := c == '_' || c == '.' || c == '[' || c == ']' || Text.isAlphanumeric c
  match cs.takeWhile (· != '>'), cs.dropWhile (· != '>') with
  | c :: name, _ :: rest =>
    if isFirst c && name.all isLater then some (String.ofList (c :: name), rest) else none
  | _, _ => none

/-- Reads the start of a group, behind its parenthesis. Looking ahead or behind is no group. -/
def group? (r : Reading) (cs : List Char) : Option (Reading × List Char) :=
  let named (cs : List Char) := do
    let (name, rest) ← groupName? cs
    if r.names.contains name then none
    else some ({ r with names := name :: r.names }.openGroup r.mode, rest)
  match r.mode.skip cs with
  | '?' :: '=' :: _ | '?' :: '!' :: _ | '?' :: '<' :: '=' :: _ | '?' :: '<' :: '!' :: _ => none
  | '?' :: 'P' :: '<' :: cs | '?' :: '<' :: cs => named cs
  | '?' :: cs => do
    let (mode, seen, rest) ← flags? r.mode [] cs
    match rest with
    | ')' :: rest =>
      if seen.isEmpty then none
      else
        let branches := { r.branches with parts := r.branches.parts.pushFlags }
        some ({ r with mode, branches }, rest)
    | rest => some (r.openGroup mode, rest.drop 1)
  | cs => some (r.openGroup r.mode, cs)

/-! ## Patterns -/

/-- Reads the rest of a pattern, in at most `fuel` steps. -/
def rest? : Nat → Reading → List Char → Option Reading
  | 0, _, _ => none
  | fuel + 1, r, cs =>
    match r.mode.skip cs with
    | [] => some r
    | '(' :: cs => do
      let (r, cs) ← group? r cs
      rest? fuel r cs
    | ')' :: cs => do rest? fuel (← r.closeGroup?) cs
    | '|' :: cs => rest? fuel { r with branches := r.branches.branch } cs
    | '[' :: cs => do
      let (depth, cs) ← charClass? r.mode cs
      rest? fuel (r.push depth) cs
    | '?' :: cs | '*' :: cs | '+' :: cs => do
      let parts ← r.branches.parts.repeat?
      let cs := if cs.head? == some '?' then cs.drop 1 else cs
      rest? fuel { r with branches := { r.branches with parts } } cs
    | '\x7b' :: _ => none
    | '\\' :: cs => do
      let (e, cs) ← escape? r.mode cs
      if !e.fits r.mode then none
      let boundary := r.boundary || (e == .wordBoundary && r.mode.unicode)
      rest? fuel { r.push 0 with boundary } cs
    | '.' :: cs => if r.mode.unicode then rest? fuel (r.push 0) cs else none
    | _ :: cs => rest? fuel (r.push 0) cs

/-- Says what is wrong with a pattern. -/
def check (cs : List Char) : Except Fault Unit :=
  match rest? (cs.length + 1) .start cs with
  | none => .error .malformed
  | some r =>
    if !r.outer.isEmpty || depthLimit < r.branches.total then .error .malformed
    else if r.boundary then .error .unicodeBoundary
    else .ok ()

end PlaybookScan.Log.Pattern

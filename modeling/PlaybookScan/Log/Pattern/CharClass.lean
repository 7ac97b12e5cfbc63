import PlaybookScan.Log.Pattern.Escape

/-!
# Character classes in patterns

A class stands between brackets. It lists characters, ranges, escapes, named classes and classes
inside it; the operators for intersection and differences apply to all that stands on their sides.
-/

set_option autoImplicit false

namespace PlaybookScan.Log.Pattern

/-- A class that is not closed yet. -/
structure OpenClass where
  /-- Depth of what stands before the last operator. -/
  left : Option Nat
  /-- Number of the items since then, and depth of the deepest of them. -/
  count : Nat
  depth : Nat
  deriving DecidableEq, Repr

namespace OpenClass

def empty : OpenClass := ⟨none, 0, 0⟩

def push (k : OpenClass) (depth : Nat) : OpenClass :=
  { k with count := k.count + 1, depth := max k.depth depth }

/-- Depth of all that has been read. -/
def total (k : OpenClass) : Nat :=
  let right := if k.count ≤ 1 then k.depth else k.depth + 1
  match k.left with
  | none => right
  | some left => max left right + 1

/-- An operator follows. -/
def operate (k : OpenClass) : OpenClass := ⟨some k.total, 0, 0⟩

end OpenClass

def namedClasses : List String :=
  ["alnum", "alpha", "ascii", "blank", "cntrl", "digit", "graph", "lower", "print", "punct",
    "space", "upper", "word", "xdigit"]

/-- Reads a named class behind its opening bracket: whether it is negated, and what is left. -/
def namedClass? : List Char → Option (Bool × List Char)
  | ':' :: cs =>
    let negated := cs.head? == some '^'
    let cs := if negated then cs.drop 1 else cs
    match cs.dropWhile (· != ':') with
    | ':' :: ']' :: rest =>
      if namedClasses.contains (String.ofList (cs.takeWhile (· != ':'))) then some (negated, rest)
      else none
    | _ => none
  | _ => none

/-- Reads hyphens that stand for themselves, at most `fuel` of them; more text must follow. -/
def hyphens? (m : Mode) : Nat → OpenClass → List Char → Option (OpenClass × List Char)
  | fuel + 1, k, '-' :: cs => do hyphens? m fuel (k.push 0) (← m.more? cs)
  | _, k, cs => some (k, cs)

/-- Reads the start of a class behind its opening bracket. The hyphens there, and a closing bracket
in the first place, stand for themselves. -/
def openClass? (m : Mode) (cs : List Char) : Option (OpenClass × List Char) := do
  let cs ← m.more? cs
  let negated := cs.head? == some '^'
  if negated && !m.unicode then none
  let cs ← if negated then m.more? (cs.drop 1) else some cs
  let (k, cs) ← hyphens? m cs.length .empty cs
  if k.count = 0 && cs.head? == some ']' then
    return (k.push 0, ← m.more? (cs.drop 1))
  else return (k, cs)

/-- Reads one end of a range, or an item that is no range. -/
def classItem? (m : Mode) : List Char → Option (Escape × List Char)
  | [] => none
  | '\\' :: cs => escape? m cs
  | c :: cs => some (.literal c false, cs)

/-- Reads an item or a range, and answers what is left. The ends of a range are characters in
order. -/
def classRange? (m : Mode) (cs : List Char) : Option (List Char) := do
  let (first, cs) ← classItem? m cs
  let cs ← m.more? cs
  if !first.fitsClass m then none
  match cs with
  | '-' :: rest =>
    if m.peek? rest == some ']' || m.peek? rest == some '-' then return cs
    let (last, rest) ← classItem? m (← m.more? rest)
    if !last.fitsClass m then none
    match first, last with
    | .literal a _, .literal b _ => if a ≤ b then return rest else none
    | _, _ => none
  | cs => return cs

/-- Reads the rest of the class `k` within the classes `outer`: its depth, and what is left. -/
def classRest? (m : Mode) : Nat → OpenClass → List OpenClass → List Char →
    Option (Nat × List Char)
  | 0, _, _, _ => none
  | fuel + 1, k, outer, cs =>
    match m.skip cs with
    | [] => none
    | '[' :: rest =>
      match namedClass? rest with
      | some (negated, rest) =>
        if m.unicode || !negated then classRest? m fuel (k.push 0) outer rest else none
      | none => do
        let (inner, rest) ← openClass? m rest
        classRest? m fuel inner (k :: outer) rest
    | ']' :: rest =>
      match outer with
      | [] => some (k.total + 1, rest)
      | parent :: outer => classRest? m fuel (parent.push (k.total + 1)) outer rest
    | '&' :: '&' :: rest | '-' :: '-' :: rest | '~' :: '~' :: rest =>
      classRest? m fuel k.operate outer rest
    | cs => do classRest? m fuel (k.push 0) outer (← classRange? m cs)

/-- Reads a class behind its opening bracket: its depth, and what is left. -/
def charClass? (m : Mode) (cs : List Char) : Option (Nat × List Char) := do
  let (k, rest) ← openClass? m cs
  classRest? m (rest.length + 1) k [] rest

end PlaybookScan.Log.Pattern

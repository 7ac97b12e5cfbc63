import PlaybookScan.Shell.Pattern
import PlaybookScan.Text.CharClass

/-!
# Regular expressions

What regular expressions are and how they are looked for in a text. The ways to match from a place
are found in an order of preference: alternatives as they are written, repetitions with as many
rounds as possible. Which of the ways counts depends on the notation: the first or the longest.
-/

set_option autoImplicit false

namespace PlaybookScan.Shell

/-- A condition on the place between two characters. -/
inductive Anchor where
  | textStart
  | textEnd
  /-- The end of the text or of its last line. -/
  | textEndLine
  | lineStart
  | lineEnd
  | wordStart
  | wordEnd
  | wordEdge
  | noWordEdge
  deriving DecidableEq

/-- The characters that one place may hold. -/
structure Letters where
  negated : Bool
  /-- The case of letters does not count. -/
  folded : Bool
  members : List CharSet

def Letters.holds (l : Letters) (c : Char) : Bool :=
  let isMember (c : Char) : Bool := l.members.any (·.contains c)
  (isMember c || (l.folded && (isMember c.toLower || isMember c.toUpper))) != l.negated

inductive Regex where
  | empty
  | one (letters : Letters)
  | anchor (a : Anchor)
  | seq (first second : Regex)
  | either (first second : Regex)
  /-- Repetitions, of which as few as possible are taken if it is `lazy`. -/
  | many (lazy : Bool) (body : Regex) (least : Nat) (most : Option Nat)
  | group (number : Nat) (body : Regex)
  /-- What a group has matched. -/
  | back (folded : Bool) (number : Nat)
  /-- What stands in front or behind matches or not. -/
  | look (ahead : Bool) (negated : Bool) (body : Regex)
  /-- Only the first way is taken. -/
  | atomic (body : Regex)
  /-- The match begins here. -/
  | keep
  deriving Inhabited

namespace Regex

/-! ## Matching -/

/-- A place in a text, and where the groups found so far begin and end. The group 0 is where a match
was made to begin. -/
structure Place where
  offset : Nat
  before : Option Char
  rest : List Char
  groups : List (Nat × Nat × Nat)

def Place.step? (p : Place) : Option (Char × Place) :=
  match p.rest with
  | [] => none
  | c :: rest => some (c, { p with offset := p.offset + 1, before := some c, rest })

def Place.drop (p : Place) : Nat → Place
  | 0 => p
  | n + 1 => match p.step? with
    | some (_, q) => q.drop n
    | none => p

def isWordChar (c : Option Char) : Bool := (c.map Text.isWordChar).getD false

def Place.holds (p : Place) : Anchor → Bool
  | .textStart => p.before.isNone
  | .textEnd => p.rest.isEmpty
  | .textEndLine => p.rest.isEmpty || p.rest == ['\n']
  | .lineStart => p.before.isNone || p.before == some '\n'
  | .lineEnd => p.rest.isEmpty || p.rest.head? == some '\n'
  | .wordStart => !isWordChar p.before && isWordChar p.rest.head?
  | .wordEnd => isWordChar p.before && !isWordChar p.rest.head?
  | .wordEdge => isWordChar p.before != isWordChar p.rest.head?
  | .noWordEdge => isWordChar p.before == isWordChar p.rest.head?

/-- The place at an offset of a text. -/
def Place.at_ (text : List Char) (offset : Nat) : Place :=
  ⟨offset, if offset = 0 then none else (text.drop (offset - 1)).head?, text.drop offset, []⟩

/-- Of several ways to the same offset, the first. -/
def firstWays (ps : List Place) : List Place :=
  match ps with
  | [] | [_] => ps
  | ps => (ps.foldl (fun done p =>
      if done.any (·.offset == p.offset) then done else p :: done) []).reverse

/-- Each place that is reached by rounds, in the order of preference; an offset counts once.
`fuel` bounds the number of rounds. -/
def rounds (lazy : Bool) (step : Place → List Place) :
    Nat → Option Nat → Place → List (Nat × Option Nat) × List Place →
      List (Nat × Option Nat) × List Place
  | 0, _, p, (seen, out) => (seen, p :: out)
  | fuel + 1, most, p, (seen, out) =>
    if seen.contains (p.offset, most) then (seen, out)
    else
      let seen := (p.offset, most) :: seen
      let out := if lazy then p :: out else out
      let next := if most = some 0 then [] else (step p).filter fun q => p.offset < q.offset
      let (seen, out) := next.foldl (fun acc q =>
        rounds lazy step fuel (most.map (· - 1)) q acc) (seen, out)
      (seen, if lazy then out else p :: out)

/-- The places behind repetitions. -/
def repeated (lazy : Bool) (step : Place → List Place) (least : Nat) (most : Option Nat)
    (p : Place) : List Place :=
  let start := (List.range least).foldl (fun ps _ => firstWays (ps.flatMap step)) [p]
  let more := most.map (· - least)
  firstWays (start.flatMap fun q =>
    (rounds lazy step (q.rest.length + 1) more q ([], [])).2.reverse)

/-- The places behind a run of single characters, the farthest first unless it is `lazy`. -/
def run (lazy : Bool) (holds : Char → Bool) (least : Nat) (most : Option Nat) (p : Place) :
    List Place :=
  let size := (p.rest.takeWhile holds).length
  let size := match most with
    | some n => min n size
    | none => size
  let step := fun ((q, done) : Place × List Place) (n : Nat) =>
    let done := if least ≤ n then q :: done else done
    (((q.step?).map Prod.snd).getD q, done)
  let found := ((List.range (size + 1)).foldl step (p, [])).2
  if lazy then found.reverse else found

/-- The places at which a match that begins at `p` may end, in the order of preference. -/
def ends (text : List Char) : Regex → Place → List Place
  | empty, p => [p]
  | one letters, p => match p.step? with
    | some (c, q) => if letters.holds c then [q] else []
    | none => []
  | anchor a, p => if p.holds a then [p] else []
  | seq first second, p => firstWays ((ends text first p).flatMap (ends text second))
  | either first second, p => ends text first p ++ ends text second p
  | many lazy (one letters) least most, p => run lazy letters.holds least most p
  | many lazy body least most, p => repeated lazy (ends text body) least most p
  | group n body, p => (ends text body p).map fun q =>
      { q with groups := (n, p.offset, q.offset) :: q.groups.filter (·.1 != n) }
  | back folded n, p => match p.groups.lookup n with
    | none => []
    | some (start, stop) =>
      let same (cs ds : List Char) : Bool :=
        if folded then cs.map Char.toLower == ds.map Char.toLower else cs == ds
      let part := (text.take stop).drop start
      if same part (p.rest.take part.length) then [p.drop part.length] else []
  | look true negated body, p => match (ends text body p).head? with
    | some q => if negated then [] else [{ p with groups := q.groups }]
    | none => if negated then [p] else []
  | look false negated body, p =>
    let found := (List.range (p.offset + 1)).findSome? fun n =>
      let start := Place.at_ text (p.offset - n)
      (ends text body { start with groups := p.groups }).find? (·.offset == p.offset)
    match found with
    | some q => if negated then [] else [{ p with groups := q.groups }]
    | none => if negated then [p] else []
  | atomic body, p => (ends text body p).take 1
  | keep, p => [{ p with groups := (0, p.offset, p.offset) :: p.groups.filter (·.1 != 0) }]

/-- A match: where it begins and ends, and its groups. -/
structure Found where
  start : Nat
  stop : Nat
  groups : List (Nat × Nat × Nat)

/-- What an expression is with the rule that says which way counts. -/
structure Finder where
  regex : Regex
  /-- The longest match counts, or else the first. -/
  longest : Bool

/-- The match that begins at a place. -/
def Finder.at? (f : Finder) (text : List Char) (p : Place) : Option Found :=
  let ways := f.regex.ends text p
  let best := if f.longest then
      ways.foldl (fun best q => match best with
        | some b => if b.offset < q.offset then some q else some b
        | none => some q) (none : Option Place)
    else ways.head?
  best.map fun q =>
    ⟨((q.groups.lookup 0).map Prod.fst).getD p.offset, q.offset, q.groups.filter (·.1 != 0)⟩

/-- The first match at or behind a place; `fuel` is the number of characters from there on. -/
def Finder.search (f : Finder) (text : List Char) : Nat → Place → Option Found
  | 0, p => f.at? text p
  | fuel + 1, p => match f.at? text p, p.step? with
    | some found, _ => some found
    | none, some (_, q) => f.search text fuel q
    | none, none => none

/-- The first match from the offset `start` on. -/
def Finder.find? (f : Finder) (text : List Char) (start : Nat) : Option Found :=
  if text.length < start then none
  else f.search text (text.length - start) (.at_ text start)

/-- The expression matches the whole text. -/
def Finder.matchesAll (f : Finder) (text : List Char) : Bool :=
  (f.regex.ends text (.at_ text 0)).any (·.offset == text.length)

/-- The part of a text that a group has matched. -/
def Found.group? (f : Found) (text : List Char) (n : Nat) : Option (List Char) :=
  let bounds := if n = 0 then some (f.start, f.stop) else f.groups.lookup n
  bounds.map fun (start, stop) => (text.take stop).drop start

/-! ## Simple expressions -/

/-- One of some characters. -/
def ofSets (folded : Bool) (members : List CharSet) : Regex := .one ⟨false, folded, members⟩

def exactly (folded : Bool) (c : Char) : Regex := ofSets folded [.range c c]

/-- The expression that stands for a text. -/
def ofText (folded : Bool) (text : List Char) : Regex :=
  text.foldr (fun c r => .seq (exactly folded c) r) .empty

/-- The characters of words. -/
def wordSet : List CharSet := [.named "alnum", .range '_' '_']

end Regex

end PlaybookScan.Shell

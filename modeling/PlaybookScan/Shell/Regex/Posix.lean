import PlaybookScan.Shell.Regex
import PlaybookScan.Shell.Utility.Printf

/-!
# The usual notations of regular expressions

In the basic notation most operators are letters behind backslashes, in the extended one they stand
alone. Programs differ in what they make of operators that have nothing to work on.
-/

set_option autoImplicit false

namespace PlaybookScan.Shell.Regex

/-- Which characters are operators. -/
inductive Style where
  | basic
  | extended
  /-- The basic one, where the plus sign and the question mark stand alone. -/
  | emacs
  /-- The extended one without braces and references. -/
  | awk
  deriving DecidableEq

/-- How an expression is read. -/
structure Rules where
  style : Style
  /-- Operators with nothing to work on are taken for what they may be meant for. -/
  lenient : Bool
  /-- The case of letters does not count. -/
  folded : Bool
  /-- Anchors hold at each line of the text. -/
  multiline : Bool

/-- An expression under way: what is being read. -/
structure Reading where
  /-- Number of groups that have been opened. -/
  groups : Nat
  /-- Groups that have been closed. -/
  closed : List Nat
  rest : List Char
  /-- What is to be said about it, the last first. -/
  warnings : List String

abbrev Reader (α : Type) := Reading → Except String (α × Reading)

/-- Most repetitions that can be asked for. -/
def maxRepeat : Nat := 32767

def unmatchedBracket : String := "Unmatched [, [^, [:, [., or [="

def badRepeat : String := "Invalid preceding regular expression"

namespace Rules

/-- Groups and alternatives stand without backslashes. -/
def bare (r : Rules) : Bool := r.style == .extended || r.style == .awk

def exactly (r : Rules) (c : Char) : Regex := Regex.exactly r.folded c

def start (r : Rules) : Regex := .anchor (if r.multiline then .lineStart else .textStart)

def stop (r : Rules) : Regex := .anchor (if r.multiline then .lineEnd else .textEnd)

/-- The meaning of a letter behind a backslash. -/
def escape? (r : Rules) (c : Char) : Option Regex :=
  let sets (negated : Bool) (members : List CharSet) : Regex := .one ⟨negated, r.folded, members⟩
  if r.style = .awk then none
  else match c with
    | 'w' => some (sets false wordSet)
    | 'W' => some (sets true wordSet)
    | 's' => some (sets false [.named "space"])
    | 'S' => some (sets true [.named "space"])
    | 'b' => some (.anchor .wordEdge)
    | 'B' => some (.anchor .noWordEdge)
    | '<' => some (.anchor .wordStart)
    | '>' => some (.anchor .wordEnd)
    | '\x60' => some (.anchor .textStart)
    | '\x27' => some (.anchor .textEnd)
    | _ => none

/-! ## Sets -/

/-- The text between a bracket with a mark and the same mark with a bracket. -/
def between (mark : Char) (cs : List Char) : Option (List Char × List Char) :=
  match cs with
  | [] => none
  | c :: rest =>
    if c = mark ∧ rest.head? = some ']' then some ([], rest.tail)
    else (between mark rest).map fun (name, rest) => (c :: name, rest)

def classNames : List String :=
  ["alpha", "digit", "alnum", "upper", "lower", "space", "blank", "punct", "print", "graph",
    "cntrl", "xdigit"]

/-- One end of a range, or a class of characters. -/
inductive Member where
  | char (c : Char)
  | named (name : String)

/-- Reads one member of a set. -/
def member (r : Rules) : List Char → Except String (Member × List Char)
  | [] => .error unmatchedBracket
  | '[' :: mark :: cs =>
    if ":.=".toList.contains mark then
      match between mark cs with
      | none => .error unmatchedBracket
      | some (name, rest) =>
        match mark, name with
        | ':', name =>
          if classNames.contains (String.ofList name) then
            .ok (.named (String.ofList name), rest)
          else .error "Invalid character class name"
        | _, [c] => .ok (.char c, rest)
        | _, _ => .error "Invalid collation character"
    else .ok (.char '[', mark :: cs)
  | '\\' :: c :: cs =>
    if r.style = .awk then .ok (.char c, cs) else .ok (.char '\\', c :: cs)
  | c :: cs => .ok (.char c, cs)

/-- Reads the members of a set up to its closing bracket, which cannot be the first member; `fuel`
bounds their number. -/
def members (r : Rules) : Nat → Bool → List Char → Except String (List CharSet × List Char)
  | 0, _, _ => .error unmatchedBracket
  | fuel + 1, first, cs => do
    match first, cs with
    | false, ']' :: rest => return ([], rest)
    | _, cs =>
      let (low, rest) ← r.member cs
      let (set, rest) ← match low, rest with
        | low, '-' :: ']' :: rest => pure (single low, '-' :: ']' :: rest)
        | .named _, '-' :: _ => throw "Invalid range end"
        | .char a, '-' :: rest =>
          match ← r.member rest with
          | (.char b, rest) =>
            if b < a then throw "Invalid range end"
            pure (CharSet.range a b, rest)
          | (.named _, _) => throw "Invalid range end"
        | low, rest => pure (single low, rest)
      let (sets, rest) ← r.members fuel false rest
      return (set :: sets, rest)
where
  single : Member → CharSet
    | .char c => .range c c
    | .named name => .named name

/-! ## Repetitions -/

/-- The numbers in the braces of a repetition, and what follows. -/
inductive Bounds where
  | found (least : Nat) (most : Option Nat) (rest : List Char)
  /-- There are no numbers between the braces. -/
  | empty
  /-- Something else stands between the braces. -/
  | other
  /-- There is no closing brace. -/
  | unclosed

def bounds (r : Rules) (cs : List Char) : Bounds :=
  let low := cs.takeWhile Char.isDigit
  let rest := cs.drop low.length
  let close (least : Option Nat) (most : Option Nat) (cs : List Char) : Bounds :=
    let closed := match r.bare, cs with
      | true, '\x7d' :: rest => some rest
      | false, '\\' :: '\x7d' :: rest => some rest
      | _, _ => none
    match closed, least with
    | some rest, some n => .found n most rest
    | some _, none => .empty
    | none, _ => if cs = [] ∨ cs = ['\\'] then .unclosed else .other
  let n := Printf.number 10 low
  match rest with
  | ',' :: rest =>
    let high := rest.takeWhile Char.isDigit
    close (some n) (if high = [] then none else some (Printf.number 10 high))
      (rest.drop high.length)
  | rest => close (if low = [] then none else some n) (some n) rest

/-- The repetitions behind a piece; `again` says that there has been one. -/
def repetitions (r : Rules) (fuel : Nat) (again : Bool) (body : Regex) (cs : List Char) :
    Except String (Regex × List Char) :=
  match fuel with
  | 0 => .ok (body, cs)
  | fuel + 1 =>
    -- the strict basic notation has no repetitions of repetitions
    let refuses := again && r.style == .basic && !r.lenient
    let many (least : Nat) (most : Option Nat) (rest : List Char) :=
      r.repetitions fuel true (.many false body least most) rest
    let braces (rest : List Char) : Except String (Regex × List Char) :=
      if refuses then .error badRepeat
      else match r.bounds rest with
        | .found least most rest =>
          if most.any (· < least) then .error "Invalid content of \\\x7b\\\x7d"
          else if maxRepeat < max least (most.getD 0) then .error "Regular expression too big"
          else many least most rest
        | .empty => .error "Invalid content of \\\x7b\\\x7d"
        | .other =>
          if r.lenient ∧ r.bare then .ok (body, cs)
          else if rest.all fun c => c.isDigit || c == ',' then .error "Unmatched \\\x7b"
          else .error (if r.bare ∨ rest.any (· == '\x7d') then "Invalid content of \\\x7b\\\x7d"
            else "Unmatched \\\x7b")
        | .unclosed =>
          if r.lenient ∧ r.bare then .ok (body, cs) else .error "Unmatched \\\x7b"
    let single := r.bare || r.style == .emacs
    match r.style, cs with
    | _, '*' :: rest => if refuses then .error badRepeat else many 0 none rest
    | .extended, '\x7b' :: rest => braces rest
    | .basic, '\\' :: '\x7b' :: rest => braces rest
    | .basic, '\\' :: '+' :: rest => many 1 none rest
    | .basic, '\\' :: '?' :: rest => many 0 (some 1) rest
    | _, '+' :: rest => if single then many 1 none rest else .ok (body, cs)
    | _, '?' :: rest => if single then many 0 (some 1) rest else .ok (body, cs)
    | _, cs => .ok (body, cs)

/-! ## Expressions -/

/-- The text is at the end of a branch. -/
def atBranchEnd (r : Rules) (depth : Nat) (cs : List Char) : Bool :=
  match r.bare, cs with
  | _, [] => true
  | true, '|' :: _ => true
  | true, ')' :: _ => 0 < depth
  | false, '\\' :: '|' :: _ => true
  | false, '\\' :: ')' :: _ => 0 < depth
  | _, _ => false

/-- Behind an anchor a text is read as at the start of a branch, but a second caret stands for
itself unless carets are anchors everywhere. -/
def freshBehind (r : Rules) (cs : List Char) : Bool := r.bare || cs.head? != some '^'

/-- An operator that has nothing to work on is dropped, with a warning, or refused. -/
def stray (r : Rules) (s : Reading) (rest : List Char) (shown : String) :
    Except String Reading :=
  if r.style = .awk then .error "missing operand"
  else if !r.lenient then .error badRepeat
  else .ok { s with
    rest
    warnings := (shown ++ " at start of expression") :: s.warnings }

def bareClass : String := "character class syntax is [[:space:]], not [:space:]"

/-- The members of a set look like the name of a class. -/
def isBareClass (cs : List Char) : Bool :=
  2 < cs.length && cs.head? == some ':' && cs.getLast? == some ':'

mutual

/-- Branches with bars between them, within so many groups. -/
def branches (r : Rules) (fuel depth : Nat) : Reader Regex := fun s => do
  match fuel with
  | 0 => return (.empty, s)
  | fuel + 1 =>
    if r.style = .awk ∧ r.atBranchEnd depth s.rest then throw "missing operand"
    let (first, s) ← r.pieces fuel depth true s
    match r.bare, s.rest with
    | true, '|' :: rest | false, '\\' :: '|' :: rest =>
      let (second, s) ← r.branches fuel depth { s with rest }
      return (.either first second, s)
    | _, _ => return (first, s)

/-- Pieces behind each other; `start` says that none has come yet. -/
def pieces (r : Rules) (fuel depth : Nat) (start : Bool) : Reader Regex := fun s => do
  match fuel with
  | 0 => return (.empty, s)
  | fuel + 1 =>
    if r.atBranchEnd depth s.rest then return (.empty, s)
    let anchored (a : Regex) (rest : List Char) : Except String (Regex × Reading) := do
      let (others, s) ← r.pieces fuel depth (r.freshBehind rest) { s with rest }
      return (.seq a others, s)
    let stray (rest : List Char) (shown : String) : Except String (Regex × Reading) := do
      let s ← r.stray s rest shown
      r.pieces fuel depth true s
    let normal : Except String (Regex × Reading) := do
      let (first, s) ← r.atom fuel depth s
      let (repeated, rest) ← r.repetitions s.rest.length false first s.rest
      let (others, s) ← r.pieces fuel depth false { s with rest }
      return (.seq repeated others, s)
    match s.rest with
    | '^' :: rest =>
      if r.style = .awk ∧ (rest.head? = some '*' ∨ rest.head? = some '+') then
        throw "syntax error ^* or ^+"
      if r.bare || start then anchored r.start rest else normal
    | '$' :: rest =>
      if r.bare || r.atBranchEnd 1 rest then anchored r.stop rest else normal
    | '\x7b' :: rest =>
      if r.style = .extended ∧ start then
        match r.bounds rest with
        | .found .. => stray rest "\x7b...\x7d"
        | _ => if r.lenient then r.pieces fuel depth true { s with rest } else throw badRepeat
      else normal
    | '\\' :: '\x7b' :: _ =>
      if r.style = .basic ∧ start ∧ !r.lenient then throw badRepeat else normal
    | c :: rest =>
      if r.bare ∧ start ∧ "*+?".toList.contains c then stray rest (String.singleton c) else normal
    | [] => normal

/-- One piece without repetitions. -/
def atom (r : Rules) (fuel depth : Nat) : Reader Regex := fun s => do
  match fuel with
  | 0 => return (.empty, s)
  | fuel + 1 =>
    let group (rest : List Char) : Except String (Regex × Reading) := do
      let n := s.groups + 1
      let (body, s) ← r.branches fuel (depth + 1) { s with groups := n, rest }
      match r.bare, s.rest with
      | true, ')' :: rest | false, '\\' :: ')' :: rest =>
        return (.group n body, { s with rest, closed := n :: s.closed })
      | _, _ => throw "Unmatched ( or \\("
    let literal (c : Char) (rest : List Char) : Except String (Regex × Reading) :=
      .ok (r.exactly c, { s with rest })
    match s.rest with
    | [] => return (.empty, s)
    | '\\' :: c :: rest =>
      if c = '(' ∧ !r.bare then group rest
      else if c = ')' ∧ !r.bare then throw "Unmatched ) or \\)"
      else if '1' ≤ c ∧ c ≤ '9' ∧ r.style ≠ .awk then
        let n := c.toNat - 48
        if s.closed.contains n then return (.back r.folded n, { s with rest })
        else throw "Invalid back reference"
      else match r.escape? c with
        | some (.anchor a) =>
          let (others, s) ← r.pieces fuel depth (r.freshBehind rest) { s with rest }
          return (.seq (.anchor a) others, s)
        | some found => return (found, { s with rest })
        | none => literal c rest
    | ['\\'] => if r.style = .awk then literal '\\' [] else throw "Trailing backslash"
    | '.' :: rest => return (.one ⟨true, false, []⟩, { s with rest })
    | '[' :: rest =>
      let negated : Bool := rest.head? == some '^'
      let inner := if negated then rest.tail else rest
      if inner = [] ∧ !r.lenient then throw "Invalid regular expression"
      let (members, rest) ← r.members (rest.length + 1) true inner
      let unusual : Bool := isBareClass (inner.take (inner.length - rest.length - 1))
      if unusual ∧ r.lenient ∧ r.style ≠ .awk then throw bareClass
      return (.one ⟨negated, r.folded, members⟩, { s with
        rest, warnings := if unusual then bareClass :: s.warnings else s.warnings })
    | '(' :: rest => if r.bare then group rest else literal '(' rest
    | ')' :: rest =>
      if r.bare ∧ !r.lenient then throw "Unmatched ) or \\)" else literal ')' rest
    | c :: rest => literal c rest

end

/-- Reads a regular expression; answers also what is to be said about it, and its groups. -/
def read (r : Rules) (text : List Char) : Except String (Regex × Reading) := do
  let (found, s) ← r.branches (4 * text.length + 4) 0 ⟨0, [], text, []⟩
  match s.rest with
  | [] => return (found, { s with warnings := s.warnings.reverse })
  | _ => throw "Unmatched ) or \\)"

/-- Reads a regular expression, of whose matches the longest counts. -/
def finder (r : Rules) (text : List Char) : Except String Finder :=
  (r.read text).map fun (regex, _) => ⟨regex, true⟩

end Rules

/-- The basic notation. -/
def basic : Rules := ⟨.basic, false, false, false⟩

end PlaybookScan.Shell.Regex

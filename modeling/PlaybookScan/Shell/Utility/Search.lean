import PlaybookScan.Shell.Regex.Posix
import PlaybookScan.Shell.Regex.Rich
import PlaybookScan.Shell.Utility.Files

/-!
# Looking for patterns in lines

A line is selected if a pattern matches some part of it. Lines around it are shown with it, as
groups with a separator between them.
-/

set_option autoImplicit false

namespace PlaybookScan.Shell.Utility

namespace Search

/-! ## Patterns -/

/-- The expression that never matches. -/
def never : Regex := .one ⟨false, false, []⟩

/-- Asks the match to be a whole line, or to consist of whole words. -/
def bounded (whole words : Bool) (r : Regex) : Regex :=
  let word : Regex := Regex.ofSets false Regex.wordSet
  if whole then .seq (.anchor .textStart) (.seq r (.anchor .textEnd))
  else if words then .seq (.look false true word) (.seq r (.look true true word))
  else r

/-- Reads patterns, each of which may match; `kind` is the letter of their notation. Answers what is
to be said about them, too. -/
def read (kind : Char) (folded whole words : Bool) (patterns : List (List Char)) :
    Except String (Regex.Finder × List String) := do
  if kind = 'P' then
    match patterns with
    | [only] =>
      let found ← Regex.Rich.finder folded only
      return (⟨bounded whole words found.regex, false⟩, [])
    | _ => throw "the -P option only supports a single pattern"
  else
    let rules : Regex.Rules := ⟨if kind = 'E' then .extended else .basic, true, folded, false⟩
    let all ← patterns.mapM fun p =>
      if kind = 'F' then .ok (Regex.ofText folded p, [])
      else (rules.read p).map fun (r, reading) => (r, reading.warnings)
    let regex := match (all.map Prod.fst).reverse with
      | [] => never
      | last :: others => others.foldl (fun r first => .either first r) last
    return (⟨bounded whole words regex, true⟩, all.flatMap Prod.snd)

/-! ## Lines -/

/-- What is looked for, and how it is shown. -/
structure Manner where
  finder : Regex.Finder
  has : Char → Bool
  /-- What ends a line. -/
  stop : Char
  limit : Option Nat
  /-- Lines shown before a selected one, and behind it. -/
  before : Nat
  behind : Nat
  /-- What stands between groups of lines, if anything does. -/
  separator : Option String
  coloured : Bool
  named : Bool
  /-- What is done with files that are no text. -/
  binary : Char

/-- A line of the input, and where it stands. -/
structure Row where
  number : Nat
  offset : Nat
  text : List Char
  selected : Bool

/-- The parts of a line that match, by where they begin and end; `fuel` bounds their number. -/
def Manner.parts (m : Manner) (line : List Char) : Nat → Nat → List (Nat × Nat)
  | 0, _ => []
  | fuel + 1, start => match m.finder.find? line start with
    | none => []
    | some f =>
      if f.start < f.stop then (f.start, f.stop) :: m.parts line fuel f.stop
      else if f.stop < line.length then m.parts line fuel (f.stop + 1) else []

/-- The lines of a text; beyond the limit none is selected, nor read any further than it takes to
show those behind. -/
def Manner.rows (m : Manner) (text : List Char) : List Row :=
  let step := fun ((number, offset, left, behind, done) : Nat × Nat × Option Nat × Nat × List Row)
      (line : List Char) =>
    if left = some 0 ∧ behind = 0 then (number, offset, left, behind, done)
    else
      let selected : Bool := left != some 0 && (m.finder.find? line 0).isSome != m.has 'v'
      let behind := if left = some 0 then behind - 1 else behind
      let left := if selected then left.map (· - 1) else left
      (number + 1, offset + line.length + 1, left, behind, ⟨number, offset, line, selected⟩ :: done)
  ((linesUpTo m.stop text).foldl step (1, 0, m.limit, m.behind, [])).2.2.2.2.reverse

/-- Marks the elements that stand at most `reach` behind one that `holds`. -/
def reached {α : Type} (holds : α → Bool) (reach : Nat) (xs : List α) : List Bool :=
  let step := fun ((left, done) : Nat × List Bool) (x : α) =>
    let left := if holds x then reach + 1 else left
    (left - 1, decide (0 < left) :: done)
  (xs.foldl step (0, [])).2.reverse

/-- A text in a colour. -/
def Manner.paint (m : Manner) (colour text : String) : String :=
  if m.coloured then "\x1b[" ++ colour ++ "m\x1b[K" ++ text ++ "\x1b[m\x1b[K" else text

/-- A mark between what is shown. -/
def Manner.mark (m : Manner) (mark : String) : String := m.paint "36" mark

/-- A name and the mark behind it. -/
def Manner.title (m : Manner) (name mark : String) : String :=
  m.paint "35" name ++ if m.has 'Z' then "\x00" else m.mark mark

/-- What stands before a line. -/
def Manner.lead (m : Manner) (name mark : String) (number offset : Nat) (isEmpty : Bool) :
    String :=
  let figure (n : Nat) : String :=
    let digits := Printf.pad false ' ' (if m.has 'T' then 2 else 0) (toString n).toList
    m.paint "32" (String.ofList digits) ++ m.mark mark
  let shown := (if m.named then m.title name mark else "") ++
    (if m.has 'n' then figure number else "") ++ if m.has 'b' then figure offset else ""
  shown ++ if m.has 'T' && shown != "" && !isEmpty then "\t" else ""

/-- A line with the parts that match in their colour. -/
def Manner.painted (m : Manner) (line : List Char) : List Char :=
  let part := fun ((at_, done) : Nat × List (List Char)) ((start, stop) : Nat × Nat) =>
    let between := (line.take start).drop at_
    let found := m.paint "01;31" (String.ofList ((line.take stop).drop start))
    (stop, found.toList :: between :: done)
  let (last, done) := (m.parts line (line.length + 1) 0).foldl part (0, [])
  (line.drop last :: done).reverse.flatten

/-- Shows one row, or the parts of it that match. -/
def Manner.row (m : Manner) (name : String) (r : Row) : List Char :=
  let mark := if r.selected then ":" else "-"
  let isMatch : Bool := r.selected != m.has 'v'
  if m.has 'o' then
    if isMatch then
      (m.parts r.text (r.text.length + 1) 0).flatMap fun (start, stop) =>
        let part := String.ofList ((r.text.take stop).drop start)
        (m.lead name mark r.number (r.offset + start) false).toList ++
          (m.paint "01;31" part).toList ++ [m.stop]
    else []
  else
    let line := if m.coloured ∧ isMatch then m.painted r.text else r.text
    (m.lead name mark r.number r.offset r.text.isEmpty).toList ++ line ++ [m.stop]

/-- Shows the selected rows with those around them. `used` says that a group was shown before. -/
def Manner.show_ (m : Manner) (name : String) (used : Bool) (rows : List Row) : List Char :=
  let behind := reached Row.selected m.behind rows
  let before := (reached Row.selected m.before rows.reverse).reverse
  let shown := (rows.zip (behind.zip before)).filter fun (_, b, f) => b || f
  let step := fun ((last, used, done) : Option Nat × Bool × List (List Char)) ((r, _) : Row × _) =>
    let gap := match m.separator with
      | some text => if used ∧ last ≠ some r.number then (m.mark text ++ "\n").toList else []
      | none => []
    (some (r.number + 1), true, m.row name r :: gap :: done)
  (shown.foldl step (none, used, [])).2.2.reverse.flatten

/-- The text is none that can be shown. -/
def Manner.isBinary (m : Manner) (text : List Char) : Bool :=
  m.stop == '\n' && m.binary != 'a' && text.contains '\x00'

/-- Looks through one text, and tells whether a line was selected. `used` says that a group of lines
was shown before. -/
def Manner.search (m : Manner) (name : String) (used : Bool) (text : List Char) :
    StateM State Bool := do
  let binary := m.isBinary text
  let rows := if binary ∧ m.binary = 'I' then [] else m.rows text
  let count := (rows.filter Row.selected).length
  let found : Bool := 0 < count
  if m.has 'q' then return found
  else if m.has 'l' || m.has 'L' then
    if found = m.has 'l' then
      write (m.paint "35" name ++ if m.has 'Z' then "\x00" else "\n").toList
  else if m.has 'c' then
    writeLine ((if m.named then m.title name ":" else "") ++ toString count)
  else if binary then
    if found then complain (name ++ ": binary file matches")
  else write (m.show_ name used rows)
  return found

/-! ## Files -/

/-- Which files are looked at: patterns for their names, and whether these let them in. -/
structure Choice where
  files : List (Bool × Pattern)
  directories : List (Bool × Pattern)

/-- The name matches, or for an operand a part of it behind a slash. -/
def fits (operand : Bool) (p : Pattern) (name : String) : Bool :=
  let cs := name.toList
  let tails := (List.range cs.length).filter fun n =>
    n == 0 || ((cs.drop (n - 1)).head? == some '/' && (cs.drop n).head? != some '/')
  if operand then tails.any fun n => p.isMatch (cs.drop n) else p.isMatch cs

/-- The last pattern that fits decides, and if none fits, the opposite of the first. -/
def skips (operand : Bool) (patterns : List (Bool × Pattern)) (name : String) : Bool :=
  match patterns.reverse.find? fun (_, p) => fits operand p name, patterns with
  | some (included, _), _ => !included
  | none, (included, _) :: _ => included
  | none, [] => false

/-- A file to be looked at, by its name and whether it is an operand. -/
structure Target where
  name : String
  operand : Bool

mutual

/-- The files in a directory, `place` of which is the name. Links are followed if `follows`; the
directories within which it lies are not entered again. -/
def below (s : State) (c : Choice) (follows : Bool) (fuel : Nat) (around : List (List String))
    (place : String) (entries : List (String × Node)) : List (Target ⊕ String) :=
  match fuel with
  | 0 => []
  | fuel + 1 => entries.flatMap fun (name, node) =>
    let name := Octets.ofText name
    let path := if place = "" then name
      else if place.endsWith "/" then place ++ name else place ++ "/" ++ name
    inside s c follows fuel around path name node

/-- The files that a name within a directory leads to. -/
def inside (s : State) (c : Choice) (follows : Bool) (fuel : Nat) (around : List (List String))
    (path name : String) (node : Node) : List (Target ⊕ String) :=
  match fuel, node with
  | 0, _ => []
  | fuel + 1, .directory entries =>
    if skips false c.directories name then []
    else
      match s.disk.locate true s.cwd (State.path path) with
      | .ok (here, _) => below s c follows fuel (here :: around) path entries
      | .error _ => []
  | fuel + 1, .link _ =>
    if !follows then []
    else match s.disk.locate true s.cwd (State.path path) with
      | .ok (here, some (.directory entries)) =>
        if skips false c.directories name then []
        else if around.contains here then [.inr path]
        else below s c follows fuel (here :: around) path entries
      | _ => if skips false c.files name then [] else [.inl ⟨path, false⟩]
  | _, _ => if skips false c.files name then [] else [.inl ⟨path, false⟩]

end

/-- Depth of directories that are entered. -/
def maxDepth : Nat := 1000

/-- The files to look at for an operand, and directories that lead back to themselves. The answer
says as well whether the operand is a directory that was entered. -/
def targets (s : State) (c : Choice) (directories : Char) (operand : String) :
    Bool × List (Target ⊕ String) :=
  let self : List (Target ⊕ String) := [.inl ⟨operand, true⟩]
  if operand = "-" then (false, self)
  else match s.disk.locate true s.cwd (State.path (if operand = "" then "." else operand)) with
    | .ok (here, some (.directory entries)) =>
      if operand ≠ "" ∧ skips true c.directories (bareName operand) then (false, [])
      else if directories = 's' then (false, [])
      else if directories = 'r' ∨ directories = 'R' then
        (true, below s c (directories == 'R') maxDepth [here] operand entries)
      else (false, self)
    | _ => (false, if skips true c.files operand then [] else self)

end Search

def grepUsage : StateM State Nat := do
  modify fun s => s.complain ("Usage: " ++ s.name ++ " [OPTION]... PATTERNS [FILE]...")
  hint
  return 2

/-- The options of `grep`. -/
def grepOptions : Options :=
  .of "EFGPe:f:iyvwxzscqoabHhlLnrRTZUuIm:A:B:C:D:d:X:0123456789β:κ::δ:φ:ε:γ:ι:μλ:νρV"
    [("basic-regexp", 'G'), ("extended-regexp", 'E'), ("fixed-regexp", 'F'),
      ("fixed-strings", 'F'), ("perl-regexp", 'P'), ("after-context", 'A'),
      ("before-context", 'B'), ("binary-files", 'β'), ("line-buffered", 'ρ'), ("byte-offset", 'b'),
      ("context", 'C'), ("color", 'κ'), ("colour", 'κ'), ("count", 'c'), ("devices", 'D'),
      ("directories", 'd'), ("exclude", 'ε'), ("exclude-from", 'φ'), ("exclude-dir", 'δ'),
      ("file", 'f'), ("files-with-matches", 'l'), ("files-without-match", 'L'),
      ("group-separator", 'γ'), ("include", 'ι'), ("ignore-case", 'i'), ("no-ignore-case", 'μ'),
      ("initial-tab", 'T'), ("label", 'λ'), ("line-number", 'n'), ("line-regexp", 'x'),
      ("max-count", 'm'), ("no-filename", 'h'), ("no-group-separator", 'ν'), ("no-messages", 's'),
      ("null", 'Z'), ("null-data", 'z'), ("only-matching", 'o'), ("quiet", 'q'),
      ("recursive", 'r'), ("dereference-recursive", 'R'), ("regexp", 'e'), ("invert-match", 'v'),
      ("silent", 'q'), ("text", 'a'), ("binary", 'U'), ("unix-byte-offsets", 'u'),
      ("version", 'V'), ("with-filename", 'H'), ("word-regexp", 'w')]

namespace Search

/-- The last of the letters that was given. -/
def last? (a : Arguments) (letters : String) : Option Char :=
  ((a.options.map Prod.fst).filter letters.toList.contains).getLast?

/-- The notation of the patterns. -/
def kind (usual : Option Char) (a : Arguments) : Except String Char :=
  let given := usual.toList ++ (a.options.filterMap fun (c, value) =>
    match c, value with
    | 'X', "grep" => some 'G'
    | 'X', "egrep" => some 'E'
    | 'X', "fgrep" => some 'F'
    | 'X', "perl" => some 'P'
    | 'X', _ => some 'X'
    | c, _ => if "EFGP".toList.contains c then some c else none)
  match given with
  | [] => .ok 'G'
  | c :: more =>
    if given.contains 'X' then .error ("invalid matcher " ++ (a.value? 'X').getD "")
    else if more.any (· != c) then .error "conflicting matchers specified"
    else .ok c

/-- A number of lines around others. -/
def contextLength (text : String) : Except String Nat :=
  let cs := text.toList.dropWhile fun c => c == ' ' || ('\t' ≤ c && c ≤ '\r')
  let digits := if cs.head? = some '+' then cs.tail else cs
  if digits ≠ [] ∧ digits.all Char.isDigit then .ok (min (Printf.number 10 digits) (2 ^ 63 - 1))
  else .error (text ++ ": invalid context length argument")

/-- Numbers of lines before and behind, if any is asked for. -/
def context (a : Arguments) : Except String (Option (Nat × Nat)) := do
  let lengths ← (a.options.filter fun (c, _) => "ABC".toList.contains c).mapM fun (c, text) => do
    return (c, ← contextLength text)
  let step := fun ((found, digits) : Option Nat × List Char) ((c, _) : Char × String) =>
    if c.isDigit then (some (Printf.number 10 (digits ++ [c])), digits ++ [c])
    else if c = 'C' then ((lengths.reverse.lookup 'C'), [])
    else (found, digits)
  let (usual, _) := a.options.foldl step (none, [])
  let before := (lengths.reverse.lookup 'B').or usual
  let behind := (lengths.reverse.lookup 'A').or usual
  return if before.isNone && behind.isNone then none else some (before.getD 0, behind.getD 0)

/-- The largest number of lines to be selected. -/
def maxCount (a : Arguments) : Except String (Option Nat) :=
  match a.value? 'm' with
  | none => .ok none
  | some text =>
    let cs := text.toList
    let negative : Bool := cs.head? == some '-'
    let digits := if negative ∨ cs.head? = some '+' then cs.tail else cs
    if digits ≠ [] ∧ digits.all Char.isDigit then
      .ok (if negative then none else some (Printf.number 10 digits))
    else .error "invalid max count"

/-- The letter for what is done with files that are no text. -/
def binaryKind (a : Arguments) : Except String Char :=
  a.options.foldlM (fun found (c, value) =>
    match c, value with
    | 'a', _ | 'β', "text" => .ok 'a'
    | 'I', _ | 'β', "without-match" => .ok 'I'
    | 'β', "binary" => .ok 'U'
    | 'β', _ => .error "unknown binary-files type"
    | _, _ => .ok found) 'U'

/-- The files that the options choose, where `listed` are patterns out of files. -/
def choice (a : Arguments) (listed : List String) : Choice :=
  let pattern (text : String) : Pattern := .ofText text.toList
  { files := a.options.flatMap fun (c, text) =>
      if c = 'ε' then [(false, pattern text)] else if c = 'ι' then [(true, pattern text)]
      else if c = 'φ' then listed.map fun text => (false, pattern text) else []
    directories := (a.values 'δ').map fun text => (false, pattern (bareName text)) }

/-- What is read out of files: patterns, or why they cannot be read. -/
def fromFiles (files : List String) : StateM State (Except String (List String)) :=
  files.foldlM (fun found file => do
    match found, ← readOperand file with
    | .ok done, .ok text => return .ok (done ++ (linesUpTo '\n' text).map String.ofList)
    | .ok _, .error e => return .error (file ++ ": " ++ cause e)
    | .error e, _ => return .error e) (.ok [])

/-- All patterns, in the order of the options. -/
def patterns (a : Arguments) : StateM State (Except String (List String)) :=
  a.options.foldlM (fun found (c, value) => do
    match found with
    | .error e => return .error e
    | .ok done =>
      if c = 'e' then return .ok (done ++ value.splitOn "\n")
      else if c = 'f' then
        return (← fromFiles [value]).map (done ++ ·)
      else return .ok done) (.ok [])

/-- A colour is wanted. -/
def isColoured (a : Arguments) : Bool :=
  match a.value? 'κ' with
  | some word => ["always", "yes", "force"].contains word
  | none => false

/-- The output goes into the file that the operand names. -/
def isOutput (s : State) (operand : String) : Bool :=
  match s.channel? 1 with
  | some (.file p) => samePlace s operand (Octets.ofText p.text)
  | _ => false

/-- Looks through the files. -/
def Manner.searchAll (m : Manner) (label : Option String) (targets : List (Target ⊕ String)) :
    StateM State Nat := do
  let (found, failed, _) ← targets.foldlM
    (fun ((found, failed, used) : Bool × Bool × Bool) target => do
    if m.has 'q' && found then return (found, failed, used)
    match target with
    | .inr name =>
      complain (name ++ ": warning: recursive directory loop")
      return (found, failed, used)
    | .inl target =>
      let lists : Bool := m.has 'q' || m.has 'l' || m.has 'L' || m.has 'c'
      if !lists ∧ m.limit ≠ some 1 ∧ target.name ≠ "-" ∧ isOutput (← get) target.name then
        complain (target.name ++ ": input file is also the output")
        return (found, true, used)
      match ← readOperand (if target.operand ∨ target.name ≠ "-" then target.name else "./-") with
      | .error e =>
        if !m.has 's' then complain (target.name ++ ": " ++ cause e)
        return (found, true, used)
      | .ok text =>
        let isInput : Bool := target.operand && target.name == "-"
        let name := if isInput then label.getD "(standard input)" else target.name
        let hit ← m.search name used text
        if isInput ∧ m.limit.isSome then
          let rows := (m.rows text).filter Row.selected
          match rows.getLast? with
          | some r =>
            if m.limit = some rows.length then
              modify fun s => s.putBack 0 (text.drop (r.offset + r.text.length + 1))
          | none => pure ()
        return (found || hit, failed, used || (hit && !lists))) (false, false, false)
  return if failed && !(found && m.has 'q') then 2 else if found then 0 else 1

end Search

/-- Looks for patterns in lines; `kind` is the notation of the program's name. -/
def grep (kind : Option Char) : Utility := fun args => do
  modify fun s => { s with name := "grep" }
  let fail (message : String) : StateM State Nat := do
    complain message
    return 2
  match grepOptions.read args with
  | .error message => do
    complain message
    grepUsage
  | .ok a =>
    if a.has 'V' then
      writeLine "grep (GNU grep) 3.8"
      return 0
    let checked : Except String _ := do
      let kind ← Search.kind kind a
      let around ← Search.context a
      let limit ← Search.maxCount a
      return (kind, around, limit, ← Search.binaryKind a)
    match checked with
    | .error message => fail message
    | .ok (kind, around, limit, binary) =>
    let word := (a.value? 'd').getD "read"
    if not (["read", "recurse", "skip"].contains word) then
      complain ("invalid argument " ++ quoted word ++ " for " ++ quoted "--directories")
      ["Valid arguments are:", "  - 'read'", "  - 'recurse'", "  - 'skip'"].forM fun line =>
        modify (·.complain line)
      let _ ← grepUsage
      return 1
    if a.has 'u' then complain "warning: --unix-byte-offsets (-u) is obsolete"
    let given ← Search.patterns a
    let listed ← Search.fromFiles (a.values 'φ')
    match given, listed with
    | .error message, _ | _, .error message => fail message
    | .ok given, .ok listed =>
    let wanted : Bool := !(a.has 'e' || a.has 'f')
    match wanted, a.operands with
    | true, [] => grepUsage
    | wanted, operands =>
      let (texts, operands) := if wanted then
          ((operands.headD "").splitOn "\n", operands.drop 1)
        else (given, operands)
      let folded : Bool := match Search.last? a "iyμ" with
        | some c => c != 'μ'
        | none => false
      match Search.read kind folded (a.has 'x') (a.has 'w') (texts.map String.toList) with
      | .error message => fail message
      | .ok (finder, warnings) =>
        warnings.forM fun w => complain ("warning: " ++ w)
        if (limit = some 0 ∨ texts = [""] ∧ a.has 'v' ∧ !a.has 'x' ∧ !a.has 'w') ∧ !a.has 'L' then
          return 1
        let directories := match Search.last? a "drR" with
          | some 'd' => if word = "recurse" then 'r' else if word = "skip" then 's' else 'd'
          | some c => c
          | none => 'd'
        let recursive : Bool := directories == 'r' || directories == 'R'
        let chosen := Search.choice a listed
        let s ← get
        let operands := if operands = [] then [if recursive then "" else "-"] else operands
        let found := operands.map (Search.targets s chosen directories)
        let named : Bool := match Search.last? a "Hh" with
          | some c => c == 'H'
          | none => operands.length > 1 || found.any Prod.fst
        let lists := Search.last? a "lL"
        let separator := match (a.options.filter fun (c, _) => c = 'γ' ∨ c = 'ν').getLast? with
          | some ('γ', text) => some text
          | some _ => none
          | none => some "--"
        let m : Search.Manner :=
          { finder, limit, binary, named, coloured := Search.isColoured a
            has := fun c => if c = 'l' ∨ c = 'L' then lists = some c else a.has c
            stop := if a.has 'z' then '\x00' else '\n'
            before := (around.getD (0, 0)).1
            behind := (around.getD (0, 0)).2
            separator := if around.isSome then separator else none }
        m.searchAll (a.value? 'λ') (found.flatMap Prod.snd)

end PlaybookScan.Shell.Utility

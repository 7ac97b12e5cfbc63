import PlaybookScan.Shell.Editor.Script
import PlaybookScan.Shell.Utility.Basic

/-!
# Running scripts of the stream editor

Each line of the input is held in a pattern space on which the steps work; what is left of it is
written out.
-/

set_option autoImplicit false

namespace PlaybookScan.Shell.Editor

open Utility (readOperand openOutput)

/-- A line of the input. -/
structure Line where
  text : List Char
  /-- The file that it comes from. -/
  file : String
  /-- What ends it is there. -/
  whole : Bool

/-- Something to be written. -/
structure Sink where
  /-- The last text comes first. -/
  texts : List (List Char)
  /-- The end of a line is due before the next text. -/
  owed : Bool

def Sink.empty : Sink := ⟨[], false⟩

/-- Writes a text where `stop` ends lines. -/
def Sink.write (stop : Char) (text : List Char) (s : Sink) : Sink :=
  ⟨text :: (if s.owed then [stop] :: s.texts else s.texts), false⟩

/-- Writes a line, the end of which may be missing. -/
def Sink.writeLine (stop : Char) (whole : Bool) (line : List Char) (s : Sink) : Sink :=
  if whole then s.write stop (line ++ [stop]) else { s.write stop line with owed := true }

/-- What comes behind the line. -/
inductive Later where
  | text (text : List Char)
  /-- A line, the end of which may be missing. -/
  | line (text : List Char) (whole : Bool)
  | file (name : String)

/-- The state between two steps. -/
structure Run where
  pattern : List Char
  held : List Char
  /-- The end of the line in the pattern space is there. -/
  whole : Bool
  file : String
  number : Nat
  rest : List Line
  out : Sink
  /-- What goes to the output even where files are edited in place. -/
  spoken : Sink
  /-- What goes into other files. -/
  files : List (String × Sink)
  /-- The lines that are left of files that are read line by line. -/
  sources : List (String × List Line)
  /-- The last comes first. -/
  later : List Later
  replaced : Bool
  /-- Steps that are within their range, with the last line of it, if that is known. -/
  active : List (Nat × Option Nat)
  /-- Steps whose range is over. -/
  closed : List Nat
  /-- The last expression that was used. -/
  last : Option Expression

/-- How scripts are run. -/
structure Manner where
  program : Program
  host : Host
  quiet : Bool
  /-- What ends a line. -/
  stop : Char
  /-- Where lines are broken that are shown in full. -/
  width : Nat
  /-- A line that has none behind it is dropped where more are asked for. -/
  strict : Bool
  /-- The output goes into the files themselves. -/
  inPlace : Bool

/-- How a cycle goes on behind a step. -/
inductive Next where
  | step
  | jump (index : Nat)
  /-- The cycle ends; the pattern space is written or not. -/
  | cycle (printed : Bool)
  /-- A new cycle starts with what is in the pattern space. -/
  | again
  | quit (status : Nat) (printed : Bool)
  /-- The script is at fault. -/
  | fault (message : String)

/-! ## Output -/

def Run.write (m : Manner) (text : List Char) (r : Run) : Run :=
  { r with out := r.out.write m.stop text }

/-- Writes a line. -/
def Run.writeLine (m : Manner) (line : List Char) (r : Run) : Run :=
  { r with out := r.out.writeLine m.stop true line }

/-- Writes the pattern space; the last line may have no end. -/
def Run.writePattern (m : Manner) (r : Run) : Run :=
  { r with out := r.out.writeLine m.stop r.whole r.pattern }

/-- Writes a line into a file. -/
def Run.writeTo (m : Manner) (file : String) (whole : Bool) (line : List Char) (r : Run) : Run :=
  if file = "/dev/stdout" then
    if m.inPlace then { r with spoken := r.spoken.writeLine m.stop whole line }
    else { r with out := r.out.writeLine m.stop whole line }
  else
    { r with files := r.files.map fun (name, sink) =>
        if name = file then (name, sink.writeLine m.stop whole line) else (name, sink) }

/-- Hands over what was written into other files. -/
def Run.handOver (r : Run) : StateM State Run := do
  r.files.forM fun (name, sink) => do
    if sink.texts ≠ [] then
      match ← openOutput true name with
      | .ok n => modify fun s => (s.write n sink.texts.reverse.flatten).2
      | .error _ => pure ()
  return { r with files := r.files.map fun (name, sink) => (name, { sink with texts := [] }) }

/-- Hands over all that was written to the output. -/
def Run.flush (m : Manner) (r : Run) : StateM State Run := do
  let r ← r.handOver
  let sink := if m.inPlace then r.spoken else r.out
  modify fun s => (s.write 1 sink.texts.reverse.flatten).2
  let sink := { sink with texts := [] }
  return if m.inPlace then { r with spoken := sink } else { r with out := sink }

/-- The lines of a text. -/
def linesOf (stop : Char) (file : String) (text : List Char) : List Line :=
  let pieces := text.splitOn stop
  let whole := pieces.dropLast.map (⟨·, file, true⟩)
  match pieces.getLast? with
  | some [] | none => whole
  | some last => whole ++ [⟨last, file, false⟩]

/-- Writes what comes behind the line. -/
def Run.finish (m : Manner) (r : Run) : StateM State Run := do
  if r.later.isEmpty then return r
  else
    let r ← r.handOver
    let r ← r.later.reverse.foldlM (fun r later => do
      match later with
      | .text text => return r.write m text
      | .line text whole => return { r with out := r.out.writeLine m.stop whole text }
      | .file name =>
        match ← readOperand (if name = "-" then "./-" else name) with
        | .ok text => return r.write m text
        | .error _ => return r) r
    return { r with later := [] }

/-- A line with all that cannot be seen in it, broken into pieces. -/
def listed (width : Nat) (line : List Char) : List Char :=
  let shown (c : Char) : List Char :=
    match c with
    | '\\' => ['\\', '\\']
    | '\x07' => ['\\', 'a']
    | '\x08' => ['\\', 'b']
    | '\x0c' => ['\\', 'f']
    | '\n' => ['\\', 'n']
    | '\x0d' => ['\\', 'r']
    | '\t' => ['\\', 't']
    | '\x0b' => ['\\', 'v']
    | c =>
      if ' ' ≤ c ∧ c ≤ '~' then [c]
      else '\\' :: Printf.pad false '0' 3 (Nat.toDigits 8 c.toNat)
  let step := fun ((column, done) : Nat × List (List Char)) (c : Char) =>
    let piece := shown c
    if 0 < width ∧ width - 1 < column + piece.length then
      (piece.length, piece :: ['\\', '\n'] :: done)
    else (column + piece.length, piece :: done)
  (line.foldl step (0, [])).2.reverse.flatten ++ ['$', '\n']

/-! ## Addresses -/

/-- Looks for an expression, or for the last one. -/
def Run.used (r : Run) (e : Option Expression) : Option Expression := e.or r.last

/-- Whether an address holds; `none` if it needs an expression that there is not. -/
def Run.holds (r : Run) : Address → Option (Bool × Run)
  | .line n => some (r.number == n, r)
  | .last => some (r.rest.isEmpty, r)
  | .pattern e => do
    let used ← r.used e
    return ((used.finder.find? r.pattern 0).isSome, { r with last := some used })
  | .every first step => some (first ≤ r.number && (r.number - first) % step == 0, r)
  | .further _ | .multiple _ => some (false, r)

/-- The last line of a range that begins here, if that is known. -/
def Run.rangeEnd (r : Run) : Address → Option Nat
  | .line n => some n
  | .further n => some (r.number + n)
  | .multiple n => some (if n = 0 then r.number else (r.number / n + 1) * n)
  | _ => none

/-- Whether a step works on the line, and the ranges afterwards. -/
def Step.selects (s : Step) (index : Nat) (r : Run) : Option (Bool × Run) :=
  let others := r.active.filter (·.1 != index)
  let isClosed : Bool := r.closed.contains index
  let close (r : Run) : Run := { r with active := others, closed := index :: r.closed }
  let start (r : Run) (second : Address) : Bool × Run :=
    match r.rangeEnd second with
    | some n => if n ≤ r.number then (true, close r) else
        (true, { r with active := (index, some n) :: others })
    | none => (true, { r with active := (index, none) :: others })
  match s.addresses with
  | [] => some (true, r)
  | [.line 0] => some (false, r)
  | [a] => r.holds a
  | first :: second :: _ =>
    match r.active.lookup index, first with
    | some (some stop), _ =>
      if stop < r.number then do
        let (found, r) ← r.holds first
        return if found then start r second else (false, close r)
      else some (true, if r.number = stop then close r else r)
    | some none, _ => do
      let (found, r) ← r.holds second
      return (true, if found then close r else r)
    | none, .line n =>
      if n = 0 ∧ !isClosed then do
        let (found, r) ← r.holds second
        return (true, if found then close r else { r with active := (index, none) :: others })
      else if isClosed ∨ r.number < n then some (false, r)
      else match second with
        | .line stop => if stop < r.number ∧ r.number ≠ n then some (false, close r)
            else some (start r second)
        | _ => some (start r second)
    | none, first => do
      let (found, r) ← r.holds first
      return if found then start r second else (false, r)

/-! ## Substitution -/

/-- A text with its first letter and the others changed. -/
def recase (first case : Case) (cs : List Char) : List Char :=
  let change (k : Case) (c : Char) : Char := match k with
    | .keep => c
    | .upper => c.toUpper
    | .lower => c.toLower
  match cs with
  | [] => []
  | c :: rest => change (if first = .keep then case else first) c :: rest.map (change case)

/-- The text of a replacement for a match. A change of a first letter waits for the first text that
there is. -/
def replacementText (line : List Char) (f : Regex.Found) :
    Case → List Segment → List (List Char)
  | _, [] => []
  | waiting, g :: more =>
    let first := if g.first = .keep then waiting else g.first
    let text := recase first g.case g.text
    let first := if g.text = [] then first else .keep
    match g.group with
    | none => text :: replacementText line f .keep more
    | some n =>
      let part := (f.group? line n).getD []
      text :: recase first g.case part ::
        replacementText line f (if part = [] ∧ g.first ≠ .keep then first else .keep) more

/-- Replaces matches from the `nth` on: the text behind `start`, and whether there was a match.
`fuel` bounds the number of matches. -/
def replaceFrom (finder : Regex.Finder) (s : Substitution) (line : List Char) :
    Nat → Nat → Nat → Option Nat → List (List Char) × Bool
  | 0, _, start, _ => ([line.drop start], false)
  | fuel + 1, nth, start, last =>
    match finder.find? line start with
    | none => ([line.drop start], false)
    | some f =>
      let before := (line.take f.start).drop start
      if f.start = f.stop ∧ last = some f.start then
        match line.drop f.start with
        | [] => ([before], false)
        | c :: _ =>
          let (rest, found) := replaceFrom finder s line fuel nth (f.start + 1) none
          (before :: [c] :: rest, found)
      else
        let new := if nth ≤ 1 then (replacementText line f .keep s.replacement).flatten
          else (line.take f.stop).drop f.start
        if nth ≤ 1 && !s.all then ([before, new, line.drop f.stop], true)
        else
          let (rest, found) := replaceFrom finder s line fuel (nth - 1) f.stop (some f.stop)
          (before :: new :: rest, found || nth ≤ 1)

/-! ## Steps -/

/-- Reads the next line into the pattern space. -/
def Run.advance (r : Run) : Option Run :=
  match r.rest with
  | [] => none
  | line :: rest => some { r with
      pattern := line.text, whole := line.whole, file := line.file
      number := r.number + 1, rest }

/-- The output of a command, with what the run has written before it. -/
def Run.runs (m : Manner) (command : List Char) (r : Run) : StateM State (List Char × Run) := do
  let r ← r.flush m
  let (text, _) ← m.host.output (String.ofList command)
  return (text, r)

/-- Carries out a substitution. -/
def Run.substitute (m : Manner) (s : Substitution) (r : Run) : StateM State (Next × Run) := do
  match r.used s.expression with
  | none => return (.fault "no previous regular expression", r)
  | some e =>
    let r := { r with last := some e }
    if e.groups < largestGroup s.replacement then
      return (.fault (missingGroup (largestGroup s.replacement)), r)
    let (parts, found) := replaceFrom e.finder s r.pattern (2 * r.pattern.length + 3) s.nth 0 none
    if !found then return (.step, r)
    let r := { r with pattern := parts.flatten, replaced := true }
    let r ← if s.runs then do
        let (text, r) ← r.runs m r.pattern
        let text := if text.getLast? = some m.stop then text.dropLast else text
        pure { r with pattern := text }
      else pure r
    let r := if s.printed then r.writePattern m else r
    return (.step, match s.file with
      | some file => r.writeTo m file r.whole r.pattern
      | none => r)

/-- The next line of a file that is read line by line. -/
def Run.lineFrom (m : Manner) (file : String) (r : Run) : StateM State (Option Line × Run) := do
  let (known, r) ← match r.sources.lookup file with
    | some known => pure (known, r)
    | none => do
      let r ← r.handOver
      match ← readOperand (if file = "-" then "./-" else file) with
      | .ok text => pure (linesOf m.stop file text, r)
      | .error _ => pure ([], r)
  let others := r.sources.filter (·.1 != file)
  return (known.head?, { r with sources := (file, known.drop 1) :: others })

/-- The index of the step behind a label, or behind the last step. -/
def findLabel (program : Program) (name : String) : Option Nat :=
  if name = "" then none
  else program.steps.findIdx? fun s => match s.action with
    | .label other => other == name
    | _ => false

/-- Carries out an action; `inRange` says that more lines of its range follow. -/
def perform (m : Manner) (inRange : Bool) (action : Action) (r : Run) :
    StateM State (Next × Run) := do
  let first := r.pattern.takeWhile (· != m.stop)
  let jump (name : String) : Next := match findLabel m.program name with
    | some i => .jump i
    | none => .cycle true
  let ended (text : List Char) : List Char :=
    if text.getLast? = some '\n' then text.dropLast ++ [m.stop] else text
  match action with
  | .substitute s => r.substitute m s
  | .transliterate source target =>
    let change (c : Char) : Char := (target[source.idxOf c]?).getD c
    return (.step, { r with pattern := r.pattern.map change })
  | .print => return (.step, r.writePattern m)
  | .printFirst => return (.step, r.writeLine m first)
  | .list width => return (.step, r.write m (listed (width.getD m.width) r.pattern))
  | .delete => return (.cycle false, r)
  | .deleteFirst =>
    if first.length = r.pattern.length then return (.cycle false, r)
    else return (.again, { r with pattern := r.pattern.drop (first.length + 1) })
  | .number => return (.step, r.writeLine m (toString r.number).toList)
  | .fileName => return (.step, r.writeLine m r.file.toList)
  | .next =>
    if r.rest.isEmpty then return (.cycle (!m.strict), r)
    else
      let r ← (if m.quiet then r else r.writePattern m).finish m
      return (.step, r.advance.getD r)
  | .append =>
    if r.rest.isEmpty then return (.cycle (!m.strict), r)
    else
      let r ← r.finish m
      let t := r.advance.getD r
      return (.step, { t with pattern := r.pattern ++ m.stop :: t.pattern })
  | .insert text => return (.step, r.write m (ended text))
  | .behind text => return (.step, { r with later := .text text :: r.later })
  | .change text => return (.cycle false, if inRange then r else r.write m (ended text))
  | .hold => return (.step, { r with held := r.pattern })
  | .holdMore => return (.step, { r with held := r.held ++ m.stop :: r.pattern })
  | .get => return (.step, { r with pattern := r.held })
  | .getMore => return (.step, { r with pattern := r.pattern ++ m.stop :: r.held })
  | .exchange => return (.step, { r with pattern := r.held, held := r.pattern })
  | .clear => return (.step, { r with pattern := [] })
  | .read file => return (.step, { r with later := .file file :: r.later })
  | .readLine file =>
    let (line, r) ← r.lineFrom m file
    return (.step, match line with
      | some l => { r with later := .line l.text l.whole :: r.later }
      | none => r)
  | .write file => return (.step, r.writeTo m file r.whole r.pattern)
  | .writeFirst file => return (.step, r.writeTo m file true first)
  | .run [] =>
    let (text, r) ← r.runs m r.pattern
    let text := if text.getLast? = some m.stop then text.dropLast else text
    return (.step, { r with pattern := text })
  | .run command =>
    let (text, r) ← r.runs m command
    return (.step, if text = [] then r else r.write m text)
  | .quit status printed => return (.quit status printed, r)
  | .label _ | .nothing | .block _ => return (.step, r)
  | .branch name => return (jump name, r)
  | .branchIf wanted name =>
    let next : Next := if r.replaced = wanted then jump name else .step
    return (next, { r with replaced := false })

/-- Runs the steps from `index` on. -/
def cycle (m : Manner) : Nat → Nat → Run → StateM State (Next × Run)
  | 0, _, r => do
    modify fun s => { s with clock := s.clock + Utility.forever }
    return (.quit 0 false, r)
  | fuel + 1, index, r => do
    match m.program.steps[index]? with
    | none => return (.cycle true, r)
    | some s =>
      match s.selects index r with
      | none => return (.fault "no previous regular expression", r)
      | some (selected, r) =>
        if selected = s.negated then
          match s.action with
          | .block size => cycle m fuel (index + size + 1) r
          | _ => cycle m fuel (index + 1) r
        else
          let inRange := (r.active.lookup index).isSome && s.addresses.length == 2
          match ← perform m inRange s.action r with
          | (.step, r) => cycle m fuel (index + 1) r
          | (.jump i, r) => cycle m fuel i r
          | ended => return ended

/-- How a run over lines ends. -/
inductive Outcome where
  | finished
  | quit (status : Nat)
  | fault (message : String)

/-- Runs a script on all lines, the first of which is in the pattern space. `steps` bounds the
number of steps of a cycle, and `fuel` that of cycles. -/
def cycles (m : Manner) (steps : Nat) : Nat → Run → StateM State (Outcome × Run)
  | 0, r => return (.finished, r)
  | fuel + 1, r => do
    let finish (printed : Bool) (r : Run) : StateM State Run :=
      (if printed && !m.quiet then r.writePattern m else r).finish m
    match ← cycle m steps 0 { r with replaced := false } with
    | (.quit status true, r) => return (.quit status, ← finish true r)
    | (.quit status false, r) => return (.quit status, r)
    | (.fault message, r) => return (.fault message, r)
    | (.again, r) => cycles m steps fuel (← r.finish m)
    | (.cycle printed, r) =>
      let r ← finish printed r
      match r.advance with
      | some r => cycles m steps fuel r
      | none => return (.finished, r)
    | (_, r) => return (.finished, r)

/-- Runs a script on lines. -/
def Run.through (m : Manner) (all : List Line) (r : Run) : StateM State (Outcome × Run) := do
  let size := all.foldl (fun n l => n + l.text.length + 2) 0
  let first := m.program.steps.toList.filterMap fun s => match s.addresses, s.action with
    | [.line 0], .read file => some (Later.file file)
    | _, _ => none
  match ({ r with rest := all, number := 0, active := [], closed := [] }).advance with
  | none => return (.finished, r)
  | some r =>
    let r ← ({ r with later := first.reverse }).finish m
    cycles m (1000 * (m.program.steps.size + 1) + 100 * all.length) (2 * size + 2) r

end PlaybookScan.Shell.Editor

import PlaybookScan.Shell.Utility.Order

/-!
# Programs on sorted lines

Equal lines behind each other are brought together, and the lines of two sorted files are paired.
-/

set_option autoImplicit false

namespace PlaybookScan.Shell.Utility

/-! ## Repeated lines -/

/-- What of a line is compared with the line before it. -/
def comparedPart (a : Arguments) (line : List Char) : List Char :=
  let count (c : Char) : Option Nat := (a.value? c).bind String.toNat?
  let fields := (List.range ((count 'f').getD 0)).foldl (fun cs _ =>
    (cs.dropWhile Order.isBlank).dropWhile (!Order.isBlank ·)) line
  let rest := fields.drop ((count 's').getD 0)
  let rest := match count 'w' with
    | some n => rest.take n
    | none => rest
  if a.has 'i' then rest.map Char.toLower else rest

/-- Groups of lines with empty lines between, around, before or behind them. -/
def spaced (manner : String) (groups : List (List (List Char))) : List (List Char) :=
  match manner with
  | "separate" => [[]].intercalate groups
  | "prepend" => groups.flatMap ([] :: ·)
  | "append" => groups.flatMap (· ++ [[]])
  | "both" => if groups = [] then [] else [] :: groups.flatMap (· ++ [[]])
  | _ => groups.flatten

/-- The one of some words that a text stands for, as its beginning. -/
def oneOf (option : String) (words : List String) (text : String) : Except String String :=
  match if words.contains text then [text] else words.filter (·.startsWith text) with
  | [word] => .ok word
  | found =>
    .error ((if found = [] then "invalid" else "ambiguous") ++ " argument " ++ quoted text ++
      " for '" ++ option ++ "'\nValid arguments are:" ++
        String.join (words.map fun w => "\n  - '" ++ w ++ "'"))

/-- The first number among the options that is none, with what it counts. -/
def badCount? (a : Arguments) (kinds : List (Char × String)) : Option String :=
  (a.options.find? fun (c, v) => (kinds.lookup c).isSome && v.toNat?.isNone).map fun (c, v) =>
    v ++ ": invalid number of " ++ (kinds.lookup c).getD ""

def uniq : Utility := fun args =>
  withOptions (.of "cdDf:is:uw:zΔ::Γ::" [("count", 'c'), ("repeated", 'd'), ("all-repeated", 'Δ'),
    ("group", 'Γ'), ("skip-fields", 'f'), ("ignore-case", 'i'), ("skip-chars", 's'),
    ("unique", 'u'), ("check-chars", 'w'), ("zero-terminated", 'z')]) 1 (fun a => do
    let all := a.has 'D' || a.has 'Δ'
    let manners := ["separate", "prepend"]
    match badCount? a [('f', "fields to skip"), ('s', "bytes to skip"),
        ('w', "bytes to compare")] with
    | some message => complain message; return 1
    | none =>
    let chosen : Except String (String × String) := do
      let repeated := (a.value? 'Δ').getD ""
      let grouped := (a.value? 'Γ').getD ""
      return (← if repeated = "" then .ok "none"
          else oneOf "--all-repeated" ("none" :: manners.reverse) repeated,
        ← if grouped = "" then .ok "separate"
          else oneOf "--group" ["prepend", "append", "separate", "both"] grouped)
    match chosen with
    | .error message => misuse 1 message
    | .ok (repeated, grouped) =>
    if a.has 'Γ' ∧ (a.has 'c' ∨ a.has 'd' ∨ all ∨ a.has 'u') then
      return ← misuse 1 "--group is mutually exclusive with -c/-d/-D/-u"
    if all ∧ a.has 'c' then
      return ← misuse 1 "printing all duplicated lines and repeat counts is meaningless"
    match a.operands with
    | _ :: _ :: extra :: _ => misuse 1 ("extra operand " ++ quoted extra)
    | operands =>
      let operand := operands.headD "-"
      match ← readOperand operand with
      | .error e => complain (ofOperand operand (cause e)); return 1
      | .ok text =>
        let stop := if a.has 'z' then '\x00' else '\n'
        let groups := (linesUpTo stop text).splitBy fun x y => comparedPart a x == comparedPart a y
        let many (group : List (List Char)) : Bool := 1 < group.length
        let shown :=
          if a.has 'Γ' then spaced grouped groups
          else if all then
            spaced repeated (groups.filter fun g => many g && !a.has 'u')
          else (groups.filter fun g => !((a.has 'd' && !many g) || (a.has 'u' && many g))).map
            fun g =>
              let lead := if a.has 'c' then
                  Printf.pad false ' ' 7 (toString g.length).toList ++ [' ']
                else []
              lead ++ g.headD []
        let text := shown.flatMap (· ++ [stop])
        match operands[1]? with
        | none => write text; return 0
        | some file =>
          match ← openOutput false file with
          | .ok n => modify fun s => (s.write n text).2; return 0
          | .error e => complain (ofOperand file (cause e)); return 1) (args.map fun arg =>
    match arg.toList with
    | '-' :: d :: ds => if (d :: ds).all Char.isDigit then "-f" ++ String.ofList (d :: ds) else arg
    | _ => arg)

/-! ## Two sorted files -/

/-- Whether the order of lines is checked. -/
inductive OrderCheck where
  | never
  /-- Once a line has no partner. -/
  | unpaired
  | always
  deriving DecidableEq

/-- One of the two files on the way through it. -/
structure Side where
  line : Option (List Char)
  /-- The lines before it, the last one first. -/
  before : List (List Char)
  rest : List (List Char)
  /-- Its disorder has been reported. -/
  reported : Bool
  /-- Number of lines that have been read. -/
  count : Nat

def Side.start (all : List (List Char)) : Side :=
  ⟨all.head?, [], all.tail, false, if all.isEmpty then 0 else 1⟩

/-- Goes on to the next line. -/
def Side.advance (s : Side) : Side :=
  { s with
    line := s.rest.head?
    before := s.line.toList ++ s.before
    rest := s.rest.tail
    count := if s.rest.isEmpty then s.count else s.count + 1 }

/-- Lines that have to be in order, as they are known behind a step: the last two that were read. -/
def Side.lastPair? (s : Side) : Option (List Char × List Char) :=
  match s.line, s.before with
  | some y, x :: _ => some (x, y)
  | none, y :: x :: _ => some (x, y)
  | _, _ => none

/-- Reports that a side is not in order, the first time that it shows. -/
def Side.checked (s : Side) (check : OrderCheck) (unpaired : Bool)
    (wrong : List Char → List Char → Bool) (message : Side → List Char → String) :
    Option String × Side :=
  let active := match check with
    | .never => false
    | .unpaired => unpaired
    | .always => true
  match s.lastPair? with
  | some (x, y) =>
    if active && !s.reported && wrong x y then (some (message s y), { s with reported := true })
    else (none, s)
  | none => (none, s)

/-- What is written, and what is complained of. -/
abbrev Report := List Char ⊕ String

/-- The columns of two sorted lists, with the counts of each; `fuel` bounds the number of lines. -/
def columnsOf (check : OrderCheck) (show_ : Nat → List Char → List Char) :
    Nat → Side → Side → Bool → (Nat × Nat × Nat) → List Report → List Report × (Nat × Nat × Nat)
  | 0, _, _, _, totals, out => (out.reverse, totals)
  | fuel + 1, x, y, unpaired, (l, m, n), out =>
    let order : Option Ordering := match x.line, y.line with
      | none, none => none
      | none, some _ => some .gt
      | some _, none => some .lt
      | some a, some b => some (Order.ofTexts a b)
    match order with
    | none =>
      let failed : List Report :=
        if x.reported || y.reported then [.inr "input is not in sorted order"] else []
      (out.reverse ++ failed, (l, m, n))
    | some order =>
      let unpaired := unpaired || order != .eq
      let message (n : Nat) (_ : Side) (_ : List Char) : String :=
        "file " ++ toString n ++ " is not in sorted order"
      let wrong (a b : List Char) : Bool := Order.ofTexts a b == .gt
      let step (n : Nat) (moves : Bool) (s : Side) : List Report × Side :=
        if !moves then ([], s)
        else
          let (found, s) := s.advance.checked check unpaired wrong (message n)
          (found.toList.map Sum.inr, s)
      let (column, text) := match order with
        | .lt => (1, x.line)
        | .gt => (2, y.line)
        | .eq => (3, y.line)
      let totals := match order with
        | .lt => (l + 1, m, n)
        | .gt => (l, m + 1, n)
        | .eq => (l, m, n + 1)
      let (found, x) := step 1 (order != .gt) x
      let (found', y) := step 2 (order != .lt) y
      let out := found' ++ found ++ .inl (show_ column (text.getD [])) :: out
      if check = .always ∧ (x.reported ∨ y.reported) then (out.reverse, totals)
      else columnsOf check show_ fuel x y unpaired totals out

/-- Writes reports and complaints in their order; the status tells whether there were any. -/
def deliverReports (reports : List Report) : StateM State Nat :=
  reports.foldlM (fun status report => do
    match report with
    | .inl text => write text; return status
    | .inr message => complain message; return 1) 0

/-- The two operands of a program, or a complaint. -/
def twoOperands (a : Arguments) (act : String → String → StateM State Nat) : StateM State Nat :=
  match a.operands with
  | [] => misuse 1 "missing operand"
  | [x] => misuse 1 ("missing operand after " ++ quoted x)
  | [x, y] => act x y
  | _ :: _ :: extra :: _ => misuse 1 ("extra operand " ++ quoted extra)

/-- The lines of two files, if both can be read. -/
def twoFiles (stop : Char) (x y : String)
    (act : List (List Char) → List (List Char) → StateM State Nat) : StateM State Nat := do
  match ← readOperand x with
  | .error e => complain (ofOperand x (cause e)); return 1
  | .ok s =>
    match ← readOperand y with
    | .error e => complain (ofOperand y (cause e)); return 1
    | .ok t => act (linesUpTo stop s) (linesUpTo stop t)

def orderCheck (a : Arguments) : OrderCheck :=
  if a.has 'κ' then .always else if a.has 'ν' then .never else .unpaired

def comm : Utility :=
  withOptions (.of "123zκνο:τ" [("check-order", 'κ'), ("nocheck-order", 'ν'),
    ("output-delimiter", 'ο'), ("total", 'τ'), ("zero-terminated", 'z')]) 1 fun a =>
    twoOperands a fun x y => do
      let stop := if a.has 'z' then '\x00' else '\n'
      let gap := match a.value? 'ο' with
        | some "" => ['\x00']
        | some text => text.toList
        | none => ['\t']
      let hidden (n : Nat) : Bool := a.has (Char.ofNat (48 + n))
      let shown (n : Nat) (line : List Char) : List Char :=
        if hidden n then []
        else ((List.range n).filter fun k => 0 < k && !hidden k).flatMap (fun _ => gap) ++
          line ++ [stop]
      twoFiles stop x y fun xs ys => do
        let (reports, l, m, n) := columnsOf (orderCheck a) shown (xs.length + ys.length + 1)
          (.start xs) (.start ys) false (0, 0, 0) []
        let sums := ([l, m, n].flatMap fun n => Nat.toDigits 10 n ++ gap) ++ "total".toList
        let failures := reports.filter (·.isRight)
        let total : List Report := if a.has 'τ' then [.inl (sums ++ [stop])] else []
        let texts := reports.dropLast ++ match failures, reports.getLast? with
          | _ :: _, some last => if last.isRight then total ++ [last] else last :: total
          | _, last => last.toList ++ total
        deliverReports texts

/-! ## Joining fields -/

namespace Join

/-- A field of the output: that of both lines, or one of a line. -/
inductive Output where
  | joined
  | field (side index : Nat)

structure Layout where
  separator : Option Char
  /-- The fields by which lines are joined, from 0 on. -/
  key : Nat × Nat
  folded : Bool
  filler : List Char
  format : Option (List Output)
  /-- The number of fields that each line is shown with. -/
  counts : Option (Nat × Nat)
  stop : Char

/-- The fields of a line. -/
def Layout.fields (l : Layout) (line : List Char) : List (List Char) :=
  match l.separator with
  | some d => if line = [] then [] else line.splitOn d
  | none =>
    let cs := line.dropWhile Order.isBlank
    let words := (cs.splitOnP Order.isBlank).filter (· ≠ [])
    if cs ≠ [] ∧ (cs.getLast?.map Order.isBlank).getD false then words ++ [[]] else words

def Layout.keyOf (l : Layout) (side : Nat) (line : List Char) : List Char :=
  (l.fields line).getD (if side = 1 then l.key.1 else l.key.2) []

def Layout.compareKeys (l : Layout) (a b : List Char) : Ordering :=
  let part (cs : List Char) : List Char := if l.folded then cs.map Char.toUpper else cs
  Order.ofTexts (part a) (part b)

/-- The line of output for a pair, of which one may be missing. -/
def Layout.show (l : Layout) (x y : Option (List Char)) : List Char :=
  let fieldsOf (line : Option (List Char)) : List (List Char) := (line.map l.fields).getD []
  let (xs, ys) := (fieldsOf x, fieldsOf y)
  let filled (field : Option (List Char)) : List Char := match field with
    | some (c :: cs) => c :: cs
    | _ => l.filler
  let joined := if x.isSome then filled xs[l.key.1]? else filled ys[l.key.2]?
  let others (key : Nat) (count : Option Nat) (fs : List (List Char)) : List (List Char) :=
    ((List.range (count.getD fs.length)).filter (· != key)).map fun i => filled fs[i]?
  let parts := match l.format with
    | some outputs => outputs.map fun
      | .joined => joined
      | .field 1 i => filled xs[i]?
      | .field _ i => filled ys[i]?
    | none => joined :: (others l.key.1 (l.counts.map Prod.fst) xs ++
        others l.key.2 (l.counts.map Prod.snd) ys)
  [l.separator.getD ' '].intercalate parts ++ [l.stop]

/-- Which lines are shown. -/
structure Wanted where
  pairs : Bool
  first : Bool
  second : Bool
  check : OrderCheck
  names : String × String

/-- How far both files have been read. -/
structure Run where
  x : Side
  y : Side
  unpaired : Bool
  out : List Report

/-- Goes on in one of the files. -/
def Run.advance (r : Run) (l : Layout) (w : Wanted) (side : Nat) : Run :=
  let wrong (a b : List Char) : Bool :=
    l.compareKeys (l.keyOf side a) (l.keyOf side b) == .gt
  let name := if side = 1 then w.names.1 else w.names.2
  let message (s : Side) (line : List Char) : String :=
    name ++ ":" ++ toString s.count ++ ": is not sorted: " ++ String.ofList line
  let moved := (if side = 1 then r.x else r.y).advance
  let (found, s) := if moved.line.isNone then (none, moved)
    else moved.checked w.check r.unpaired wrong message
  let r := { r with out := found.toList.map Sum.inr ++ r.out }
  if side = 1 then { r with x := s } else { r with y := s }

/-- Goes on in a file as long as its lines have the key; answers those lines. -/
def Run.takeEqual (l : Layout) (w : Wanted) (side : Nat) (key : List Char) :
    Nat → Run → List (List Char) → List (List Char) × Run
  | 0, r, done => (done.reverse, r)
  | fuel + 1, r, done =>
    match (if side = 1 then r.x else r.y).line with
    | some line =>
      if l.compareKeys (l.keyOf side line) key == .eq then
        takeEqual l w side key fuel (r.advance l w side) (line :: done)
      else (done.reverse, r)
    | none => (done.reverse, r)

/-- Goes on to the end of a file, whose lines have no partners. -/
def Run.drain (l : Layout) (w : Wanted) (side : Nat) (shown : Bool) : Nat → Run → Run
  | 0, r => r
  | fuel + 1, r =>
    match (if side = 1 then r.x else r.y).line with
    | none => r
    | some line =>
      let text := if side = 1 then l.show (some line) none else l.show none (some line)
      let r := if shown then { r with out := .inl text :: r.out } else r
      drain l w side shown fuel (r.advance l w side)

/-- Joins the lines of two files; `fuel` bounds their number. -/
def Run.go (l : Layout) (w : Wanted) : Nat → Run → Run
  | 0, r => r
  | fuel + 1, r =>
    match r.x.line, r.y.line with
    | some a, some b =>
      let put (text : List Char) (shown : Bool) (r : Run) : Run :=
        if shown then { r with out := .inl text :: r.out } else r
      match l.compareKeys (l.keyOf 1 a) (l.keyOf 2 b) with
      | .lt =>
        let r := (put (l.show (some a) none) w.first r).advance l w 1
        go l w fuel { r with unpaired := true }
      | .gt =>
        let r := (put (l.show none (some b)) w.second r).advance l w 2
        go l w fuel { r with unpaired := true }
      | .eq =>
        let (xs, r) := takeEqual l w 1 (l.keyOf 2 b) fuel r []
        let (ys, r) := takeEqual l w 2 (l.keyOf 2 b) fuel r []
        let texts := xs.flatMap fun x => ys.map fun y => l.show (some x) (some y)
        go l w fuel (if w.pairs then { r with out := (texts.map Sum.inl).reverse ++ r.out } else r)
    | some _, none =>
      drain l w 1 w.first fuel { r with unpaired := r.unpaired }
    | none, some _ => drain l w 2 w.second fuel r
    | none, none => r

/-- Reads a format like `1.2,0`. -/
def readFormat (texts : List String) : Except String (List Output) :=
  let words := texts.flatMap fun text =>
    text.toList.splitOnP fun c => c == ',' || c == ' ' || c == '\t'
  (words.filter (· ≠ [])).mapM fun word =>
    match word with
    | ['0'] => .ok .joined
    | side :: '.' :: ds =>
      if side ≠ '1' ∧ side ≠ '2' then
        .error ("invalid file number in field spec: " ++ quoted (String.ofList word))
      else match (String.ofList ds).toNat? with
        | some (n + 1) => .ok (.field (side.toNat - 48) n)
        | _ => .error ("invalid field number: " ++ quoted (String.ofList ds))
    | '0' :: _ | '1' :: _ | '2' :: _ =>
      .error ("invalid field specifier: " ++ quoted (String.ofList word))
    | word => .error ("invalid file number in field spec: " ++ quoted (String.ofList word))

end Join

/-- Joins the lines of two files that have a field in common. -/
def join : Utility :=
  withOptions (.of "a:e:io:j:t:v:1:2:zκνη" [("ignore-case", 'i'), ("check-order", 'κ'),
    ("nocheck-order", 'ν'), ("header", 'η'), ("zero-terminated", 'z')]) 1 fun a =>
    twoOperands a fun x y => do
      let isSide (v : String) : Bool := v == "1" || v == "2"
      match (a.values 'a' ++ a.values 'v').find? (!isSide ·) with
      | some bad => complain ("invalid file number: " ++ quoted bad); return 1
      | none =>
      match a.options.find? fun (c, v) => "12j".contains c && (v.toNat?.filter (0 < ·)).isNone with
      | some (_, bad) => complain ("invalid field number: " ++ quoted bad); return 1
      | none =>
      let tab := a.value? 't'
      if tab.any fun t => 1 < t.length ∧ t ≠ "\\0" then
        complain ("multi-character tab " ++ quoted (tab.getD ""))
        return 1
      let auto := a.value? 'o' = some "auto"
      match if auto then .ok [] else Join.readFormat (a.values 'o') with
      | .error message => complain message; return 1
      | .ok outputs =>
        let field (c : Char) : Nat :=
          (((a.value? c).orElse fun _ => a.value? 'j').bind String.toNat?).getD 1 - 1
        let stop := if a.has 'z' then '\x00' else '\n'
        let separator := match tab with
          | some "\\0" => some '\x00'
          | some "" => some stop
          | some t => t.toList.head?
          | none => none
        twoFiles stop x y fun xs ys => do
          let l : Join.Layout := ⟨separator, (field '1', field '2'), a.has 'i',
            ((a.value? 'e').getD "").toList, if outputs = [] then none else some outputs, none,
            stop⟩
          let size (all : List (List Char)) : Nat := (l.fields (all.headD [])).length
          let l := if auto then { l with counts := some (size xs, size ys) } else l
          let asks (n : String) : Bool := (a.values 'a').contains n || (a.values 'v').contains n
          let w : Join.Wanted := ⟨(a.values 'v').isEmpty, asks "1", asks "2", orderCheck a, (x, y)⟩
          let header : List Report :=
            if a.has 'η' ∧ (xs ≠ [] ∨ ys ≠ []) then [.inl (l.show xs.head? ys.head?)] else []
          let dropped := if a.has 'η' then 1 else 0
          let (xs, ys) := (xs.drop dropped, ys.drop dropped)
          let fuel := 2 * (xs.length + ys.length) + 4
          let r := Join.Run.go l w fuel ⟨.start xs, .start ys, false, header⟩
          let failed : List Report := if r.x.reported || r.y.reported then
              [.inr "input is not in sorted order"] else []
          deliverReports (r.out.reverse ++ failed)

end PlaybookScan.Shell.Utility

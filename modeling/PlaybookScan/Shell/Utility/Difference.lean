import PlaybookScan.Shell.Utility.Stream

/-!
# Differences of files

Two files are compared byte by byte or line by line. A difference of lines is found as a shortest
list of lines to take out and to put in, which leaves the others as partners in their order.
-/

set_option autoImplicit false

namespace PlaybookScan.Shell.Utility

/-- Complains of the arguments, as the programs of this module do. -/
def misapplied (message : String) : StateM State Nat := do
  complain message
  complain ("Try '" ++ (← get).name ++ " --help' for more information.")
  return 2

/-! ## Bytes -/

/-- Where the first difference of two texts is: its offset and line. -/
def firstDifference (line offset : Nat) : List Char → List Char → Nat × Nat × List Char × List Char
  | x :: xs, y :: ys =>
    if x = y then firstDifference (if x = '\n' then line + 1 else line) (offset + 1) xs ys
    else (offset, line, x :: xs, y :: ys)
  | xs, ys => (offset, line, xs, ys)

/-- All places where two texts differ, from 1 on. -/
def differences (xs ys : List Char) : List (Nat × Char × Char) :=
  (((List.range (min xs.length ys.length)).map (· + 1)).zip (xs.zip ys)).filter fun (_, x, y) =>
    x != y

/-- One or two sizes with a colon between them. -/
def skips? (text : String) : Option (Nat × Nat) := do
  match text.splitOn ":" with
  | [one] => let n ← Sizes.read? one; return (n, n)
  | [one, two] => return (← Sizes.read? one, ← Sizes.read? two)
  | _ => none

/-- What `cmp` is to do. -/
structure ByteComparison where
  skips : Nat × Nat
  limit : Option Nat

/-- Reads the numbers among the arguments. -/
def ByteComparison.read (a : Arguments) (skips : List String) :
    Except String ByteComparison := do
  let invalid (option value : String) : String :=
    "invalid --" ++ option ++ " value " ++ quoted value
  let given ← (a.values 'i').mapM fun v => match skips? v with
    | some pair => .ok pair
    | none => .error (invalid "ignore-initial" v)
  let limits ← (a.values 'n').mapM fun v => match Sizes.read? v with
    | some n => .ok n
    | none => .error (invalid "bytes" v)
  let operands ← skips.mapM fun v => match Sizes.read? v with
    | some n => .ok n
    | none => .error (invalid "ignore-initial" v)
  let (x, y) := given.getLastD (0, 0)
  return ⟨(max x (operands.headD 0), max y ((operands[1]?).getD 0)), limits.min?⟩

/-- Three columns for a byte in base 8. -/
def octalColumns (c : Char) : String :=
  String.ofList (Printf.pad false ' ' 3 (Nat.toDigits 8 c.toNat))

def shownByte (c : Char) : String :=
  if c = '\n' then "^J" else if c = '\t' then "^I" else String.ofList (visible c)

def cmp : Utility := fun args =>
  match (Options.of "bi:ln:s" [("print-bytes", 'b'), ("ignore-initial", 'i'), ("verbose", 'l'),
      ("bytes", 'n'), ("quiet", 's'), ("silent", 's')]).read args with
  | .error message => misapplied message
  | .ok a => do
    let name := (← get).name
    match ByteComparison.read a (a.operands.drop 2), a.operands with
    | .error message, _ => misapplied message
    | .ok _, [] => misapplied ("missing operand after " ++ quoted name)
    | .ok _, _ :: _ :: _ :: _ :: extra :: _ => misapplied ("extra operand " ++ quoted extra)
    | .ok c, x :: rest =>
    let y := rest.headD "-"
    if a.has 'l' ∧ a.has 's' then
      return ← misapplied "options -l and -s are incompatible"
    if x = y ∧ c.skips.1 = c.skips.2 then return 0
    let sources ← [x, y].mapM source
    match sources with
    | [⟨_, xRegular, .ok xs, _⟩, ⟨_, yRegular, .ok ys, _⟩] =>
      let cut (cs : List Char) : List Char := match c.limit with
        | some n => cs.take n
        | none => cs
      let (xs, ys) := (cut (xs.drop c.skips.1), cut (ys.drop c.skips.2))
      let (offset, line, xs', ys') := firstDifference 1 0 xs ys
      if a.has 's' then return if xs' = [] ∧ ys' = [] then 0 else 1
      let found := differences xs ys
      let short := if xs.length < ys.length then x else y
      let atStart : Bool := offset == 0 || (xs.drop (offset - 1)).head? == some '\n'
      let bytes (u v : Char) : String :=
        if a.has 'b' then
          octalColumns u ++ " " ++ shownByte u ++ " " ++ octalColumns v ++ " " ++ shownByte v
        else octalColumns u ++ " " ++ octalColumns v
      if a.has 'l' then
        let sizes := (if xRegular then [xs.length] else []) ++
          if yRegular then [ys.length] else []
        let width := match (sizes ++ c.limit.toList).min? with
          | some n => (toString n).length
          | none => 19
        found.forM fun (n, u, v) => do
          let lead := String.ofList (Printf.pad false ' ' width (toString n).toList) ++ " "
          let first := if a.has 'b' then
              octalColumns u ++ " " ++ String.ofList (Printf.pad true ' ' 4 (shownByte u).toList)
            else octalColumns u
          writeLine (lead ++ first ++ " " ++ octalColumns v ++
            if a.has 'b' then " " ++ shownByte v else "")
      else match xs', ys' with
        | u :: _, v :: _ =>
          let unit := if a.has 'b' then "byte " else "char "
          writeLine (x ++ " " ++ y ++ " differ: " ++ unit ++ toString (offset + 1) ++ ", line " ++
            toString line ++ if a.has 'b' then " is " ++ bytes u v else "")
          return 1
        | _, _ => pure ()
      let common := min xs.length ys.length
      if xs.length ≠ ys.length then
        complain ("EOF on " ++ short ++
          if common = 0 then " which is empty"
          else " after byte " ++ toString common ++
            if a.has 'l' then ""
            else if atStart then ", line " ++ toString (line - 1)
            else ", in line " ++ toString line)
        return 1
      return if found = [] then 0 else 1
    | sources =>
      match sources.findSome? fun s => match s.text with
          | .error e => some (s.operand, e)
          | .ok _ => none with
      | some (operand, e) => complain (operand ++ ": " ++ cause e)
      | none => pure ()
      return 2

/-! ## Lines without a partner -/

namespace Difference

/-- The farthest places to which a search has come from its corner, one for each diagonal. A place
`(x, y)` is on the diagonal `x - y`. -/
structure Frontier where
  /-- How far `x` has come; the index is a diagonal shifted by `shift`. -/
  reach : Array Int
  shift : Int
  low : Int
  high : Int

def Frontier.start (n m : Nat) : Frontier :=
  ⟨(Array.replicate (n + m + 3) (-1)).set! (m + 1) 0, m + 1, 0, 0⟩

def Frontier.at_ (f : Frontier) (d : Int) : Int := f.reach.getD (d + f.shift).toNat (-1)

def Frontier.set (f : Frontier) (d x : Int) : Frontier :=
  { f with reach := f.reach.set! (d + f.shift).toNat x }

/-- Takes one more diagonal on either side, as far as there are such. -/
def Frontier.widen (n m : Nat) (f : Frontier) : Frontier :=
  let f := if -(m : Int) < f.low then { f.set (f.low - 2) (-1) with low := f.low - 1 }
    else { f with low := f.low + 1 }
  if f.high < (n : Int) then { f.set (f.high + 2) (-1) with high := f.high + 1 }
  else { f with high := f.high - 1 }

/-- Goes on as long as the lines are the same; `fuel` is the number of lines. -/
def slide (n m : Nat) (same : Nat → Nat → Bool) : Nat → Int → Int → Int
  | 0, x, _ => x
  | fuel + 1, x, y =>
    if x < n ∧ y < m ∧ same x.toNat y.toNat then slide n m same fuel (x + 1) (y + 1) else x

/-- The diagonals of a round. -/
def Frontier.diagonals (f : Frontier) : List Int :=
  if f.high < f.low then []
  else (List.range (((f.high - f.low) / 2).toNat + 1)).map fun (i : Nat) => f.low + 2 * (i : Int)

/-- One more edit on each diagonal, until `meets` tells that the place belongs to a whole way. -/
def Frontier.round (n m : Nat) (same : Nat → Nat → Bool) (meets : Int → Int → Bool)
    (f : Frontier) (diagonals : List Int) : Frontier × Option (Int × Int) :=
  diagonals.foldl (fun (f, found) d =>
    if found.isSome then (f, found)
    else
      let (low, high) := (f.at_ (d - 1), f.at_ (d + 1))
      let start := if low < high then high else low + 1
      let x := slide n m same (n + 1) start (start - d)
      (f.set d x, if meets d x then some (x, x - d) else none)) (f, none)

/-- A place on a shortest way through `n` and `m` lines: two searches from the two ends meet there.
`fuel` bounds the number of edits. -/
def middle (n m : Nat) (same : Nat → Nat → Bool) :
    Nat → Frontier → Frontier → Nat × Nat
  | 0, _, _ => (n, m)
  | fuel + 1, f, b =>
    let slant : Int := (n : Int) - m
    let odd : Bool := slant % 2 != 0
    let meets (own other : Bool) (g : Frontier) (d x : Int) : Bool :=
      own == other && g.low ≤ slant - d && slant - d ≤ g.high && n - g.at_ (slant - d) ≤ x
    let f := f.widen n m
    match f.round n m same (meets odd true b) f.diagonals.reverse with
    | (_, some (x, y)) => (x.toNat, y.toNat)
    | (f, none) =>
      let b := b.widen n m
      match b.round n m (fun i j => same (n - 1 - i) (m - 1 - j)) (meets odd false f)
          b.diagonals with
      | (_, some (x, y)) => ((n - x).toNat, (m - y).toNat)
      | (b, none) => middle n m same fuel f b

/-- The indexes of lines between `x, y` and `x', y'` that have no partner, in either file; `fuel`
bounds the depth. -/
def unpartnered (same : Nat → Nat → Bool) :
    Nat → Nat → Nat → Nat → Nat → List Nat × List Nat
  | 0, x, x', y, y' => (List.range' x (x' - x), List.range' y (y' - y))
  | fuel + 1, x, x', y, y' =>
    let size := min (x' - x) (y' - y)
    let front := ((List.range size).takeWhile fun i => same (x + i) (y + i)).length
    let (x, y) := (x + front, y + front)
    let back := ((List.range (size - front)).takeWhile fun i =>
      same (x' - 1 - i) (y' - 1 - i)).length
    let (x', y') := (x' - back, y' - back)
    let (n, m) := (x' - x, y' - y)
    if n = 0 ∨ m = 0 then (List.range' x n, List.range' y m)
    else
      let (i, j) := middle n m (fun i j => same (x + i) (y + j)) (n + m)
        (.start n m) (.start n m)
      let (xs, ys) := unpartnered same fuel x (x + i) y (y + j)
      let (xs', ys') := unpartnered same fuel (x + i) x' (y + j) y'
      (xs ++ xs', ys ++ ys')

/-! ## Runs -/

/-- The sizes of the runs of lines without a partner, in front of, between and behind those that
have one; the lines of the middle run begin at `start`. -/
structure Runs where
  /-- The nearest first. -/
  before : List Nat
  size : Nat
  after : List Nat
  start : Nat

/-- The sizes of the runs, where `marks` tells the lines without a partner. -/
def runSizes (marks : List Bool) : List Nat := (marks.splitOn false).map List.length

def Runs.ofSizes : List Nat → Runs
  | [] => ⟨[], 0, [], 0⟩
  | n :: ns => ⟨[], n, ns, 0⟩

def Runs.sizes (r : Runs) : List Nat := r.before.reverse ++ r.size :: r.after

/-- Goes on to the next run. -/
def Runs.next? (r : Runs) : Option Runs :=
  match r.after with
  | [] => none
  | n :: ns => some ⟨r.size :: r.before, n, ns, r.start + r.size + 1⟩

/-- Moves a run up by a line, which joins it to the run there, if the same lines remain. -/
def Runs.up? (key : Nat → List Char) (r : Runs) : Option Runs :=
  match r.before with
  | [] => none
  | n :: ns =>
    if 0 < r.size ∧ key (r.start - 1) = key (r.start + r.size - 1) then
      some ⟨ns, n + r.size, 0 :: r.after, r.start - 1 - n⟩
    else none

def Runs.down? (key : Nat → List Char) (r : Runs) : Option Runs :=
  match r.after with
  | [] => none
  | n :: ns =>
    if 0 < r.size ∧ key r.start = key (r.start + r.size) then
      some ⟨0 :: r.before, r.size + n, ns, r.start + 1⟩
    else none

/-- Moves as long as that is possible; answers all stages, the last one first. -/
def stages (move : Runs → Option Runs) : Nat → List Runs → List Runs
  | 0, rs => rs
  | fuel + 1, rs => match (rs.head?).bind move with
    | some r => stages move fuel (r :: rs)
    | none => rs

/-- Moves a run to the end of the lines where it may stand, or to the last place there that faces a
run of the other file. `fuel` bounds the number of lines that it grows. -/
def settle (key : Nat → List Char) (faces : Nat → Bool) : Nat → Runs → Runs
  | 0, r => r
  | fuel + 1, r =>
    let highest := (stages (·.up? key) r.before.length [r]).headD r
    let places := stages (·.down? key) highest.after.length [highest]
    let lowest := places.headD highest
    if lowest.size ≠ r.size then settle key faces fuel lowest
    else match places.find? fun p => faces p.before.length with
      | none => lowest
      | some p =>
        let back := stages (·.up? key) (lowest.before.length - p.before.length) [lowest]
        back.headD lowest

/-- Settles all runs; `fuel` bounds their number. -/
def settleAll (key : Nat → List Char) (faces : Nat → Bool) : Nat → Runs → List Nat
  | 0, r => r.sizes
  | fuel + 1, r =>
    let r := if r.size = 0 then r else settle key faces (r.sizes.foldl (· + ·) (r.start + r.size + 1)) r
    match r.next? with
    | some r => settleAll key faces fuel r
    | none => r.sizes

/-- Lines that are taken out at a place and put in at another, both counted from 0. -/
structure Change where
  old : Nat
  removed : Nat
  new : Nat
  added : Nat
  deriving DecidableEq

/-- The changes that two lists of runs make. -/
def changes (old new : Nat) : List (Nat × Nat) → List Change
  | [] => []
  | (r, a) :: rest =>
    let more := changes (old + r + 1) (new + a + 1) rest
    if r + a = 0 then more else ⟨old, r, new, a⟩ :: more

/-- The changes between two lists of lines, which are compared by what `key` makes of them. The
first and the last lines are skipped where they are the same, up to `kept` of them. -/
def between (kept : Nat) (key : List Char → List Char) (old new : List (List Char)) :
    List Change :=
  let (ks, ls) := (old.map key, new.map key)
  let common {α : Type} [BEq α] (xs ys : List α) : Nat :=
    ((xs.zip ys).takeWhile fun (x, y) => x == y).length
  let front := common old new - kept
  let back := common (old.drop front).reverse (new.drop front).reverse - kept
  let inner (xs : List (List Char)) : List (List Char) :=
    (xs.drop front).take (xs.length - front - back)
  let (ks, ls) := (inner ks, inner ls)
  let kept (xs ys : List (List Char)) : Array (Nat × List Char) :=
    ((List.range xs.length).zip xs).filter (fun (_, x) => ys.contains x) |>.toArray
  let (us, vs) := (kept ks ls, kept ls ks)
  let same (i j : Nat) : Bool := match us[i]?, vs[j]? with
    | some (_, x), some (_, y) => x == y
    | _, _ => false
  let (xs, ys) := unpartnered same (us.size + vs.size + 1) 0 us.size 0 vs.size
  let marks (all : List (List Char)) (kept : Array (Nat × List Char)) (lone : List Nat) :
      List Bool :=
    let partners := ((List.range kept.size).filter (!lone.contains ·)).filterMap fun i =>
      (kept[i]?).map Prod.fst
    (List.range all.length).map (!partners.contains ·)
  let (rs, ss) := (runSizes (marks ks us xs), runSizes (marks ls vs ys))
  let keyOf (xs : List (List Char)) : Nat → List Char :=
    let xs := xs.toArray
    fun i => xs.getD i []
  let faces (sizes : List Nat) (i : Nat) : Bool := 0 < sizes.getD i 0
  let rs := settleAll (keyOf ks) (faces ss) (rs.length + 1) (.ofSizes rs)
  let ss := settleAll (keyOf ls) (faces rs) (ss.length + 1) (.ofSizes ss)
  changes front front (rs.zip ss)

/-! ## Forms -/

inductive Form where
  | normal
  | unified (context : Nat)
  | context (context : Nat)
  | script
  | numbers
  deriving DecidableEq

/-- Lines that are shown after others that are not part of the difference. -/
def Form.margin : Form → Nat
  | unified n | context n => n
  | _ => 0

/-- Changes that are shown together, as they are near to each other. -/
def hunks (context : Nat) (cs : List Change) : List (List Change) :=
  cs.splitBy fun a b => b.old - (a.old + a.removed) ≤ 2 * context

/-- A line behind its mark. -/
def marked (mark : String) (line : List Char) : String :=
  if line.getLast? = some '\n' then mark ++ String.ofList line
  else mark ++ String.ofList line ++ "\n\\ No newline at end of file\n"

/-- Lines `start` up to `stop`, counted from 0, as numbers from 1 on with a comma between them. -/
def range (start count : Nat) : String :=
  if count ≤ 1 then toString (start + count)
  else toString (start + 1) ++ "," ++ toString (start + count)

/-- The changes as commands, each with the lines. -/
def showNormal (tab : String) (old new : List (List Char)) (cs : List Change) : String :=
  String.join (cs.map fun c =>
    let command := if c.removed = 0 then "a" else if c.added = 0 then "d" else "c"
    let lines (mark : String) (all : List (List Char)) (start count : Nat) : String :=
      String.join (((all.drop start).take count).map (marked (mark ++ tab)))
    range c.old c.removed ++ command ++ range c.new c.added ++ "\n" ++
      lines "<" old c.old c.removed ++ (if command = "c" then "---\n" else "") ++
      lines ">" new c.new c.added)

/-- The stretch of lines that hunks show, from a place on, and their number. -/
def stretch (context total first last count : Nat) : Nat × Nat :=
  let start := first - context
  (start, min total (last + count + context) - start)

/-- The changes with lines around them, in one piece. -/
def showUnified (context : Nat) (tab : String) (old new : List (List Char)) (cs : List Change) :
    String :=
  String.join ((hunks context cs).map fun hunk =>
    match hunk.head?, hunk.getLast? with
    | some first, some last =>
      let (x, n) := stretch context old.length first.old last.old last.removed
      let (y, m) := stretch context new.length first.new last.new last.added
      let place (start count : Nat) : String :=
        if count = 1 then toString (start + 1)
        else toString (if count = 0 then start else start + 1) ++ "," ++ toString count
      let line (mark : String) (l : List Char) : String :=
        marked (if tab ≠ "" ∧ l ≠ ['\n'] then mark ++ tab
          else if mark = " " ∧ tab ≠ "" then "" else mark) l
      let part (from_ to_ : Nat) : String :=
        String.join (((old.take to_).drop from_).map (line " "))
      let (at_, text) := hunk.foldl (fun (at_, text) c =>
        (c.old + c.removed, text ++ part at_ c.old ++
          String.join (((old.drop c.old).take c.removed).map (line "-")) ++
          String.join (((new.drop c.new).take c.added).map (line "+")))) (x, "")
      "@@ -" ++ place x n ++ " +" ++ place y m ++ " @@\n" ++ text ++ part at_ (x + n)
    | _, _ => "")

/-- The changes with lines around them, the two files one after the other. -/
def showContext (context : Nat) (tab : String) (old new : List (List Char)) (cs : List Change) :
    String :=
  String.join ((hunks context cs).map fun hunk =>
    match hunk.head?, hunk.getLast? with
    | some first, some last =>
      let place (start count : Nat) : String :=
        if count ≤ 1 then toString (start + count)
        else toString (start + 1) ++ "," ++ toString (start + count)
      let side (mark : String) (all : List (List Char)) (start count : Nat)
          (spans : List (Nat × Nat × Bool)) : String :=
        if spans.all fun (_, n, _) => n == 0 then ""
        else String.join (((List.range count).map (start + ·)).map fun i =>
          let mark := match spans.find? fun (s, n, _) => s ≤ i && i < s + n with
            | some (_, _, both) => if both then "!" else mark
            | none => " "
          marked (mark ++ if tab = "" then " " else tab) (all.getD i []))
      let both (c : Change) : Bool := c.removed != 0 && c.added != 0
      let (x, n) := stretch context old.length first.old last.old last.removed
      let (y, m) := stretch context new.length first.new last.new last.added
      "***************\n*** " ++ place x n ++ " ****\n" ++
        side "-" old x n (hunk.map fun c => (c.old, c.removed, both c)) ++
        "--- " ++ place y m ++ " ----\n" ++
        side "+" new y m (hunk.map fun c => (c.new, c.added, both c))
    | _, _ => "")

/-- Lines that end where a lone point stands; such a point among them is put in with two points,
one of which is taken out again. -/
def insertion (lines : List (List Char)) : String :=
  let whole (line : List Char) : String := String.ofList (chomp line) ++ "\n"
  let (open_, text) := lines.foldl (fun ((open_, text) : Bool × String) line =>
    if chomp line = ['.'] then (false, text ++ (if open_ then "" else "a\n") ++ "..\n.\ns/.//\n")
    else (true, text ++ (if open_ then "" else "a\n") ++ whole line)) (true, "")
  if open_ then text ++ ".\n" else text

/-- The changes as an editor would make them, from the end on. -/
def showScript (new : List (List Char)) (cs : List Change) : String :=
  String.join (cs.reverse.map fun c =>
    let command := if c.removed = 0 then "a" else if c.added = 0 then "d" else "c"
    range c.old c.removed ++ command ++ "\n" ++
      if c.added = 0 then "" else insertion ((new.drop c.new).take c.added))

/-- The changes with the numbers of lines. -/
def showNumbers (new : List (List Char)) (cs : List Change) : String :=
  String.join (cs.map fun c =>
    (if c.removed = 0 then "" else
      "d" ++ toString (c.old + 1) ++ " " ++ toString c.removed ++ "\n") ++
    if c.added = 0 then "" else
      "a" ++ toString (c.old + c.removed) ++ " " ++ toString c.added ++ "\n" ++
        String.ofList ((new.drop c.new).take c.added).flatten)

/-! ## Files -/

/-- What `key` makes of a line, by the letters of the options. -/
def keyOf (has : Char → Bool) (line : List Char) : List Char :=
  let isSpace := Arithmetic.isSpace
  let trim (cs : List Char) : List Char := (cs.reverse.dropWhile isSpace).reverse
  let line := if has 'i' then line.map Char.toLower else line
  let line := if has 'ρ' then
      if chomp line ≠ line ∧ (chomp line).getLast? = some '\r' then (chomp line).dropLast ++ ['\n']
      else line
    else line
  if has 'w' then line.filter (!isSpace ·)
  else if has 'b' then
    let words := (trim line).splitOnP isSpace
    let lead := if (line.head?.map isSpace).getD false then [' '] else []
    lead ++ [' '].intercalate (words.filter (· ≠ []))
  else if has 'Z' then trim line
  else line

/-- The lines of a change are all empty. -/
def isTrivial (has : Char → Bool) (old new : List (List Char)) (c : Change) : Bool :=
  let blank (line : List Char) : Bool :=
    if has 'w' || has 'b' || has 'Z' then line.all Arithmetic.isSpace else line == ['\n']
  (((old.drop c.old).take c.removed) ++ ((new.drop c.new).take c.added)).all blank

/-- A file or a directory that is compared. -/
structure Item where
  /-- How messages call it. -/
  name : String
  content : List Char ⊕ List String
  /-- It does not exist, and counts as empty. -/
  absent : Bool

def Item.isDirectory (i : Item) : Bool := i.content.isRight

/-- What is compared, and how it is shown. -/
structure Manner where
  has : Char → Bool
  form : Form
  labels : List String
  /-- The options as they were given. -/
  switches : String
  excluded : List Pattern

/-- The line about a file in front of its changes. -/
def Manner.heading (m : Manner) (mark name : String) (index : Nat) : String :=
  match m.labels[index]? with
  | some label => mark ++ " " ++ label ++ "\n"
  | none =>
    let time := match m.form with
      | .context _ => "Thu Jan  1 00:00:00 1970"
      | _ => "1970-01-01 00:00:00.000000000 +0000"
    mark ++ " " ++ name ++ "\t" ++ time ++ "\n"

/-- Shows how two files differ; answers the status. -/
def Manner.files (m : Manner) (lead old new : String) (xs ys : List Char) : StateM State Nat := do
  let told (name : String) (index : Nat) : String := (m.labels[index]?).getD name
  let isBinary (cs : List Char) : Bool := !m.has 'a' && (cs.take 4096).contains '\x00'
  if isBinary xs || isBinary ys then
    if xs = ys then
      if m.has 's' then
        writeLine ("Files " ++ told old 0 ++ " and " ++ told new 1 ++ " are identical")
      return 0
    if m.has 'q' then writeLine ("Files " ++ told old 0 ++ " and " ++ told new 1 ++ " differ")
    else writeLine ("Binary files " ++ told old 0 ++ " and " ++ told new 1 ++ " differ")
    return if m.has 'q' then 1 else 2
  let completes := m.form = .script
  let complete (ls : List (List Char)) : List (List Char) :=
    if completes then ls.map fun l => chomp l ++ ['\n'] else ls
  let (old', new') := (complete (lines xs), complete (lines ys))
  let all := between m.form.margin (keyOf m.has) old' new'
  let shown := match m.form with
    | .unified _ | .context _ =>
      if m.has 'B' then
        ((hunks m.form.margin all).filter fun h => !h.all (isTrivial m.has old' new')).flatten
      else all
    | _ => if m.has 'B' then all.filter (!isTrivial m.has old' new' ·) else all
  if shown = [] then
    if m.has 's' then
      writeLine ("Files " ++ told old 0 ++ " and " ++ told new 1 ++ " are identical")
    return 0
  if m.has 'q' then
    writeLine ("Files " ++ told old 0 ++ " and " ++ told new 1 ++ " differ")
    return 1
  let tab := if m.has 'T' then "\t" else ""
  let expanded (l : List Char) : List Char := if m.has 't' then
      ((chomp l).foldl (fun (out : List Char) c =>
        if c = '\t' then List.replicate (8 - out.length % 8) ' ' ++ out
        else c :: out) []).reverse ++
        l.drop (chomp l).length
    else l
  let (old', new') := (old'.map expanded, new'.map expanded)
  let text := match m.form with
    | .normal => showNormal (if tab = "" then " " else tab) old' new' shown
    | .unified n => m.heading "---" old 0 ++ m.heading "+++" new 1 ++
        showUnified n tab old' new' shown
    | .context n => m.heading "***" old 0 ++ m.heading "---" new 1 ++
        showContext n tab old' new' shown
    | .script => showScript new' shown
    | .numbers => showNumbers new' shown
  write (lead ++ text).toList
  if completes then
    let unended := [(old, xs), (new, ys)].filter fun (_, cs) => cs ≠ [] ∧ cs.getLast? ≠ some '\n'
    unended.forM fun (name, _) => complain (name ++ ": No newline at end of file\n")
    return if unended = [] then 1 else 2
  return 1

/-- What a name stands for; nothing, if it is absent and `lenient`. -/
def item (lenient : Bool) (name : String) : StateM State (Except IoError Item) := do
  let s ← get
  let path := State.path name
  match if name = "-" then none else some (s.disk.node s.cwd path) with
  | some (.ok (.directory entries)) =>
    return .ok ⟨name, .inr (entries.map fun (n, _) => Octets.ofText n), false⟩
  | some (.error e) =>
    if lenient ∧ e = .noSuchFile then return .ok ⟨name, .inl [], true⟩ else return .error e
  | _ => match ← readOperand name with
    | .ok text => return .ok ⟨name, .inl text, false⟩
    | .error e => return .error e

/-- Shows how files or directories differ; `fuel` bounds the depth of directories, and `inner` says
that these are parts of directories. -/
def Manner.items (m : Manner) : Nat → Bool → String → String → StateM State Nat
  | 0, _, _, _ => return 2
  | fuel + 1, inner, x, y => do
    let found ← [x, y].mapM (item (m.has 'N'))
    match found with
    | [.ok old, .ok new] =>
      if old.absent ∧ new.absent then
        complain (x ++ ": No such file or directory")
        complain (y ++ ": No such file or directory")
        return 2
      let entries (i : Item) : List String := match i.content with
        | .inr names => names.filter fun n => !m.excluded.any (·.isMatch n.toList)
        | .inl _ => []
      let text (i : Item) : List Char := match i.content with
        | .inl cs => cs
        | .inr _ => []
      match old.isDirectory, new.isDirectory with
      | false, false =>
        let lead := if inner then "diff" ++ m.switches ++ " " ++ x ++ " " ++ y ++ "\n" else ""
        m.files lead x y (text old) (text new)
      | true, true =>
        if inner && !m.has 'r' then
          writeLine ("Common subdirectories: " ++ x ++ " and " ++ y)
          return 0
        below fuel old new (entries old) (entries new)
      | xIs, yIs =>
        if (old.absent || new.absent) && m.has 'r' then
          below fuel old new (entries old) (entries new)
        else if inner then
          let kind (isDirectory : Bool) : String :=
            if isDirectory then "directory" else "regular file"
          writeLine ("File " ++ x ++ " is a " ++ kind xIs ++ " while file " ++ y ++ " is a " ++
            kind yIs)
          return 1
        else if xIs then m.items fuel false (x ++ "/" ++ lastOf y) y
        else m.items fuel false x (y ++ "/" ++ lastOf x)
    | found =>
      let faults := ([x, y].zip found).filterMap fun (name, f) => match f with
        | .error e => some (name, e)
        | .ok _ => none
      faults.forM fun (name, e) => complain (name ++ ": " ++ cause e)
      return 2
where
  lastOf (name : String) : String := (name.splitOn "/").getLastD ""
  below (fuel : Nat) (old new : Item) (xs ys : List String) : StateM State Nat := do
    let names := (xs ++ ys.filter (!xs.contains ·)).mergeSort fun a b => a.toList ≤ b.toList
    let join (i : Item) (n : String) : String :=
      if i.name.endsWith "/" then i.name ++ n else i.name ++ "/" ++ n
    let only (i : Item) : String :=
      if i.name.endsWith "/" then String.ofList i.name.toList.dropLast else i.name
    names.foldlM (fun status n => do
      if !m.has 'N' && !ys.contains n then
        writeLine ("Only in " ++ only old ++ ": " ++ n)
        return max status 1
      else if !m.has 'N' && !xs.contains n then
        if m.has 'ω' then return status
        writeLine ("Only in " ++ only new ++ ": " ++ n)
        return max status 1
      else return max status (← m.items fuel true (join old n) (join new n))) 0

/-- The form that options ask for. -/
def form (a : Arguments) : Except String Form := do
  let invalid (v : String) : String := "invalid context length " ++ quoted v
  let length (v : String) : Except String Nat :=
    if v = "" then .ok 3
    else match v.toNat? with
      | some n => .ok n
      | none => .error (invalid v)
  let wanted ← (a.options.filter fun (c, _) => "ucUCenνκυ".contains c).mapM fun (c, v) =>
    match c with
    | 'u' | 'U' | 'υ' => (length v).map Form.unified
    | 'c' | 'C' | 'κ' => (length v).map Form.context
    | 'e' => .ok .script
    | 'n' => .ok .numbers
    | _ => .ok .normal
  let kind : Form → Nat
    | .normal => 0
    | .unified _ => 1
    | .context _ => 2
    | .script => 3
    | .numbers => 4
  if (wanted.map kind).eraseDups.length > 1 then throw "conflicting output style options"
  let size := (wanted.map Form.margin).foldl max 0
  return match wanted.head? with
    | some (.unified _) => .unified size
    | some (.context _) => .context size
    | some form => form
    | none => .normal

end Difference

def diff : Utility := fun args =>
  match (Options.of "abBcC:dEeiL:nNqrsTtuU:wx:Zνωρκ::υ::" [("text", 'a'),
      ("ignore-space-change", 'b'),
      ("ignore-blank-lines", 'B'), ("context", 'κ'), ("minimal", 'd'), ("ed", 'e'),
      ("ignore-case", 'i'), ("label", 'L'), ("rcs", 'n'), ("new-file", 'N'), ("brief", 'q'),
      ("recursive", 'r'), ("report-identical-files", 's'), ("initial-tab", 'T'),
      ("expand-tabs", 't'), ("unified", 'υ'), ("ignore-all-space", 'w'), ("exclude", 'x'),
      ("ignore-trailing-space", 'Z'), ("normal", 'ν'), ("unidirectional-new-file", 'ω'),
      ("strip-trailing-cr", 'ρ')]).read args with
  | .error message => misapplied message
  | .ok a => do
    match Difference.form a, a.operands with
    | .error message, _ => misapplied message
    | _, _ :: _ :: extra :: _ => misapplied ("extra operand " ++ quoted extra)
    | .ok form, [x, y] =>
      let switches := String.join (((args.takeWhile (· != "--")).filter fun arg =>
        !a.operands.contains arg).map (" " ++ Quoting.ifNeeded ·))
      let m : Difference.Manner := ⟨a.has, form, a.values 'L', switches,
        (a.values 'x').map fun p => Pattern.ofText p.toList⟩
      m.items 64 false x y
    | _, operands =>
      misapplied ("missing operand after " ++ quoted (operands.headD (← get).name))

end PlaybookScan.Shell.Utility

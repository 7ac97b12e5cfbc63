import PlaybookScan.Shell.Regex.Posix
import PlaybookScan.Shell.Utility.Stream

/-!
# Programs on the columns of lines

Lines are broken, tabs become blanks or blanks tabs, and numbers are put in front of lines.
-/

set_option autoImplicit false

namespace PlaybookScan.Shell.Utility

/-- A number as an old option of its own, in the usual way. -/
def modernNumber (letter : String) (arg : String) : String :=
  match arg.toList with
  | '-' :: d :: ds => if d.isDigit then letter ++ String.ofList (d :: ds) else arg
  | _ => arg

/-! ## Breaking lines -/

/-- How lines are broken. -/
structure Breaking where
  width : Nat
  /-- Behind blanks, if that is possible. -/
  spaces : Bool
  /-- Every byte takes one column. -/
  bytes : Bool

/-- The column behind a character. -/
def Breaking.column (b : Breaking) (column : Nat) (c : Char) : Nat :=
  if b.bytes then column + 1
  else match c with
    | '\x08' => column - 1
    | '\r' => 0
    | '\t' => column + 8 - column % 8
    | _ => column + 1

/-- The pieces of a line; `held` is the piece under way, in reverse, and `column` the one behind it.
`fuel` bounds the number of steps. -/
def Breaking.pieces (b : Breaking) : Nat → List Char → Nat → List Char → List (List Char)
  | 0, held, _, rest => [held.reverse ++ rest]
  | _, held, _, [] => [held.reverse]
  | fuel + 1, held, column, c :: rest =>
    let next := b.column column c
    if next ≤ b.width then b.pieces fuel (c :: held) next rest
    else
      let behind := held.takeWhile fun c => c != ' ' && c != '\t'
      if b.spaces && behind.length < held.length then
        let kept := behind.reverse
        (held.drop behind.length).reverse ::
          b.pieces fuel behind (kept.foldl b.column 0) (c :: rest)
      else if held = [] then b.pieces fuel [c] next rest
      else held.reverse :: b.pieces fuel [] 0 (c :: rest)

def fold : Utility := fun args =>
  withOptions (.of "bsw:" [("bytes", 'b'), ("width", 'w'), ("spaces", 's')]) 1 (fun a => do
    let text := (a.value? 'w').getD "80"
    match text.toNat? with
    | some (n + 1) =>
      let b : Breaking := ⟨n + 1, a.has 's', a.has 'b'⟩
      forOperands ofOperand 1 a.operands fun _ text => write ((lines text).flatMap fun line =>
        let body := chomp line
        ['\n'].intercalate (b.pieces (3 * body.length + 3) [] 0 body) ++ line.drop body.length)
    | found =>
      complain ("invalid number of columns: " ++ quoted text ++
        if found = some 0 then ": Numerical result out of range" else "")
      return 1) (args.map (modernNumber "-w"))

/-! ## Tabs -/

/-- The columns at which tabs end. -/
structure TabStops where
  listed : List Nat
  /-- Behind those, a multiple of this. -/
  every : Option Nat
  /-- Behind those, so many columns from the last of them or from another such column. -/
  further : Option Nat

/-- The first stop behind a column, if there is one. -/
def TabStops.next? (t : TabStops) (column : Nat) : Option Nat :=
  match t.listed.find? (column < ·), t.every, t.further with
  | some stop, _, _ => some stop
  | none, some n, _ => some (column + (n - column % n))
  | none, none, some n =>
    let last := t.listed.getLastD 0
    some (column + (n - (column - last) % n))
  | none, none, none => none

/-- Reads stops with commas or blanks between them. -/
def TabStops.read (texts : List String) : Except String TabStops := do
  let words := texts.flatMap fun text =>
    text.toList.splitOnP fun c => c == ',' || c == ' ' || c == '\t'
  let t ← (words.filter (· ≠ [])).foldlM (fun (t : TabStops) word => do
    let number (ds : List Char) : Except String Nat :=
      if ds.all Char.isDigit then .ok (Printf.number 10 ds)
      else .error ("tab size contains invalid character(s): " ++
        quoted (String.ofList (ds.dropWhile Char.isDigit)))
    match word with
    | '/' :: ds => return { t with every := some (← number ds) }
    | '+' :: ds => return { t with further := some (← number ds) }
    | ds =>
      let n ← number ds
      if n = 0 then throw "tab size cannot be 0"
      if t.listed.getLast?.any (n ≤ ·) then throw "tab sizes must be ascending"
      return { t with listed := t.listed ++ [n] }) ⟨[], none, none⟩
  match t.listed, t.every, t.further with
  | [], none, none => return ⟨[], some 8, none⟩
  | [], none, some n => return ⟨[], some n, none⟩
  | [n], none, none => return ⟨[], some n, none⟩
  | _, _, _ => return t

/-- Puts blanks into the places of tabs. Unless `whole`, only those in front of a line. -/
def expandLine (t : TabStops) (whole : Bool) (cs : List Char) : List Char :=
  let step := fun ((column, converts, done) : Nat × Bool × List Char) (c : Char) =>
    if !converts then (column, false, c :: done)
    else match c with
      | '\t' =>
        let stop := (t.next? column).getD (column + 1)
        (stop, true, List.replicate (stop - column) ' ' ++ done)
      | '\x08' => (column - 1, whole, c :: done)
      | c => (column + 1, whole || c == ' ', c :: done)
  (cs.foldl step (0, true, [])).2.2.reverse

/-- A line in which blanks become tabs. -/
structure Tabbing where
  column : Nat
  converts : Bool
  /-- One blank stands just in front of a stop. -/
  single : Bool
  afterBlank : Bool
  /-- Blanks that may become a tab, last first. -/
  pending : List Char
  /-- The text so far, last first. -/
  done : List Char

/-- The first of the pending blanks as a tab. -/
def Tabbing.withTab (pending : List Char) : List Char := pending.dropLast ++ ['\t']

def Tabbing.step (t : TabStops) (whole : Bool) (u : Tabbing) (c : Char) : Tabbing :=
  if !u.converts then { u with done := c :: u.done }
  else
    let isBlank : Bool := c == ' ' || c == '\t'
    let flush (u : Tabbing) (c : Char) : Tabbing :=
      let pending := if u.pending.length > 1 && u.single then withTab u.pending else u.pending
      { u with
        converts := u.converts && (whole || isBlank)
        single := if u.pending.isEmpty then u.single else false
        afterBlank := isBlank
        pending := []
        done := c :: (pending ++ u.done) }
    if isBlank then
      match t.next? u.column with
      | none => flush { u with converts := false } c
      | some stop =>
        if c = '\t' then
          let pending := if u.pending.isEmpty then [] else withTab u.pending
          flush { u with
            column := stop
            pending := if u.single then pending.drop (pending.length - 1) else [] } c
        else
          let column := u.column + 1
          if u.afterBlank && column == stop then
            let pending := if u.pending.isEmpty then ['\t'] else withTab u.pending
            flush { u with
              column
              pending := if u.single then pending.drop (pending.length - 1) else [] } '\t'
          else { u with
            column
            single := u.single || column == stop
            pending := ' ' :: u.pending
            afterBlank := true }
    else if c = '\x08' then flush { u with column := u.column - 1 } c
    else flush { u with column := u.column + 1 } c

/-- Puts tabs into the places of blanks. Unless `whole`, only those in front of a line. -/
def unexpandLine (t : TabStops) (whole : Bool) (cs : List Char) : List Char :=
  let u := cs.foldl (Tabbing.step t whole) ⟨0, true, false, true, [], []⟩
  let pending := if u.pending.length > 1 && u.single then Tabbing.withTab u.pending else u.pending
  (pending ++ u.done).reverse

/-- A program that changes each line by its tab stops. -/
def tabProgram (o : Options) (change : Arguments → TabStops → List Char → List Char) : Utility :=
  fun args => withOptions o 1 (fun a => do
    match TabStops.read (a.values 't') with
    | .error message => complain message; return 1
    | .ok t =>
      forOperands ofOperand 1 a.operands fun _ text => write ((lines text).flatMap fun line =>
        let body := chomp line
        change a t body ++ line.drop body.length)) (args.map (modernNumber "-t"))

def expand : Utility :=
  tabProgram (.of "it:" [("initial", 'i'), ("tabs", 't')]) fun a t => expandLine t (!a.has 'i')

def unexpand : Utility :=
  tabProgram (.of "at:φ" [("all", 'a'), ("tabs", 't'), ("first-only", 'φ')]) fun a t =>
    unexpandLine t ((a.has 'a' || a.has 't') && !a.has 'φ')

/-! ## Numbers of lines -/

/-- Which lines get numbers. -/
inductive Numbering where
  | all
  | filled
  | nothing
  | matching (r : Regex.Finder)

def Numbering.read (part text : String) : Except String Numbering :=
  match text.toList with
  | ['a'] => .ok .all
  | ['t'] => .ok .filled
  | ['n'] => .ok .nothing
  | 'p' :: cs => ({ Regex.basic with lenient := true }.finder cs).map .matching
  | _ => .error ("invalid " ++ part ++ " numbering style: " ++ quoted text)

/-- How numbers are written in front of lines. -/
structure Numberer where
  header : Numbering
  body : Numbering
  footer : Numbering
  delimiter : List Char
  start : Int
  increment : Int
  /-- Empty lines of which only the last is counted. -/
  joined : Nat
  renumbers : Bool
  format : String
  separator : List Char
  width : Nat

/-- The next number, the numbering that holds, and how many empty lines are waiting. -/
structure NumbererState where
  number : Int
  current : Numbering
  empty : Nat

def Numberer.lead (n : Numberer) (number : Int) : List Char :=
  let ds := (toString number).toList
  (match n.format with
    | "ln" => Printf.pad true ' ' n.width ds
    | "rz" =>
      let sign : List Char := if number < 0 then ['-'] else []
      sign ++ Printf.pad false '0' (n.width - sign.length) (Nat.toDigits 10 number.natAbs)
    | _ => Printf.pad false ' ' n.width ds) ++ n.separator

/-- One line: what is written, and the state behind it. -/
def Numberer.step (n : Numberer) (s : NumbererState) (line : List Char) :
    List Char × NumbererState :=
  let d := n.delimiter
  let section_ (current : Numbering) : List Char × NumbererState :=
    (['\n'], ⟨if n.renumbers then n.start else s.number, current, s.empty⟩)
  if d ≠ [] ∧ line = d ++ d ++ d then section_ n.header
  else if d ≠ [] ∧ line = d ++ d then section_ n.body
  else if d ≠ [] ∧ line = d then section_ n.footer
  else
    let (numbered, empty) : Bool × Nat := match s.current with
      | .all =>
        if n.joined ≤ 1 then (true, s.empty)
        else if line ≠ [] ∨ s.empty + 1 = n.joined then (true, 0) else (false, s.empty + 1)
      | .filled => (!line.isEmpty, s.empty)
      | .nothing => (false, s.empty)
      | .matching r => ((r.find? line 0).isSome, s.empty)
    let lead := if numbered then n.lead s.number
      else List.replicate (n.width + n.separator.length) ' '
    (lead ++ line ++ ['\n'],
      ⟨if numbered then s.number + n.increment else s.number, s.current, empty⟩)

/-- A number for an option. -/
def optionNumber (what : String) (least : Option Int) (text : String) : Except String Int :=
  match Arithmetic.ofText? text with
  | some n =>
    if least.any (n < ·) then
      .error ("invalid " ++ what ++ ": " ++ quoted text ++ ": Numerical result out of range")
    else .ok n
  | none => .error ("invalid " ++ what ++ ": " ++ quoted text)

def nl : Utility :=
  withOptions (.of "b:d:f:h:i:l:n:ps:v:w:" [("body-numbering", 'b'), ("section-delimiter", 'd'),
    ("footer-numbering", 'f'), ("header-numbering", 'h'), ("line-increment", 'i'),
    ("join-blank-lines", 'l'), ("number-format", 'n'), ("no-renumber", 'p'),
    ("number-separator", 's'), ("starting-line-number", 'v'), ("number-width", 'w')]) 1 fun a => do
    let style (c : Char) (part usual : String) := Numbering.read part ((a.value? c).getD usual)
    let number (c : Char) (what : String) (least : Option Int) (usual : String) :=
      optionNumber what least ((a.value? c).getD usual)
    let numbers : Except String (Int × Int × Int × Int) := do
      return (← number 'v' "starting line number" none "1",
        ← number 'i' "line number increment" none "1",
        ← number 'l' "line number of blank lines" (some 1) "1",
        ← number 'w' "line number field width" (some 1) "6")
    match numbers with
    | .error message => complain message; return 1
    | .ok (start, increment, joined, width) =>
      let format := (a.value? 'n').getD "rn"
      match style 'h' "header" "n", style 'b' "body" "t", style 'f' "footer" "n" with
      | .ok header, .ok body, .ok footer =>
        if not (["ln", "rn", "rz"].contains format) then
          misuse 1 ("invalid line numbering format: " ++ quoted format)
        else
          let delimiter := match ((a.value? 'd').getD "\\:").toList with
            | [c] => [c, ':']
            | cs => cs
          let n : Numberer := ⟨header, body, footer, delimiter, start, increment, joined.toNat,
            !a.has 'p', format, ((a.value? 's').getD "\t").toList, width.toNat⟩
          let texts ← (if a.operands = [] then ["-"] else a.operands).mapM fun operand => do
            match ← readOperand operand with
            | .ok text => return (text, 0)
            | .error e => complain (ofOperand operand (cause e)); return ([], 1)
          let all := texts.flatMap fun (text, _) => (lines text).map chomp
          let (out, _) := all.foldl (fun ((out, s) : List (List Char) × NumbererState) line =>
            let (text, s) := n.step s line
            (text :: out, s)) ([], ⟨start, body, 0⟩)
          write out.reverse.flatten
          return (texts.map Prod.snd).foldl max 0
      | h, b, f =>
        [h, b, f].forM fun
          | .error message => complain message
          | .ok _ => pure ()
        hint
        return 1

end PlaybookScan.Shell.Utility

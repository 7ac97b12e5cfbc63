import PlaybookScan.Shell.Pattern
import PlaybookScan.Shell.Utility.Basic
import PlaybookScan.Shell.Utility.Printf

/-!
# Programs on characters and fields of lines
-/

set_option autoImplicit false

namespace PlaybookScan.Shell.Utility

/-! ## Columns and fields -/

/-- Numbers from the first on, up to the last one. -/
structure Span where
  first : Nat
  last : Nat

def Span.contains (r : Span) (n : Nat) : Bool := r.first ≤ n && n ≤ r.last

namespace Span

/-- The largest number. -/
def limit : Nat := 2 ^ 64 - 1

/-- A list of spans under way. -/
structure Reading where
  /-- The first number of a span whose hyphen has been read. -/
  start : Option Nat
  /-- There are digits in front of the hyphen. -/
  left : Bool
  /-- There are digits behind it. -/
  right : Bool
  value : Nat

def zero (positions : Bool) : String :=
  if positions then "byte/character positions are numbered from 1"
  else "fields are numbered from 1"

/-- The span that has been read. -/
def Reading.done (positions : Bool) (r : Reading) : Except String (List Span) :=
  match r.start with
  | some n =>
    if !r.left ∧ !r.right then .error "invalid range with no endpoint: -"
    else if !r.right then .ok [⟨n, limit⟩]
    else if r.value < n then .error "invalid decreasing range"
    else .ok [⟨n, r.value⟩]
  | none => if r.value = 0 then .error (zero positions) else .ok [⟨r.value, r.value⟩]

/-- Reads a list of spans with commas or blanks between them; `positions` are counted, or fields. -/
def read (positions : Bool) (r : Reading) : List Char → Except String (List Span)
  | [] => r.done positions
  | '-' :: cs =>
    if r.start.isSome then
      .error (if positions then "invalid byte or character range" else "invalid field range")
    else if r.left ∧ r.value = 0 then .error (zero positions)
    else read positions ⟨some (if r.left then r.value else 1), r.left, false, 0⟩ cs
  | c :: cs =>
    if c = ',' ∨ c = ' ' ∨ c = '\t' then
      return (← r.done positions) ++ (← read positions ⟨none, false, false, 0⟩ cs)
    else if c.isDigit then
      let value := 10 * r.value + (c.toNat - 48)
      if limit ≤ value then
        .error ((if positions then "byte/character offset " else "field number ") ++
          quoted (toString r.value ++ String.ofList ((c :: cs).takeWhile Char.isDigit)) ++
          " is too large")
      else
        let inside := r.start.isSome
        read positions ⟨r.start, r.left || !inside, r.right || inside, value⟩ cs
    else
      let what := if positions then "byte/character position " else "field value "
      .error ("invalid " ++ what ++ quoted (String.ofList (c :: cs)))

/-- Spans in their order, where those that overlap are one. -/
def merged (spans : List Span) : List Span :=
  let sorted := spans.mergeSort fun a b => a.first ≤ b.first
  (sorted.foldl (fun (done : List Span) r => match done with
    | last :: before =>
      if r.first ≤ last.last then ⟨last.first, max last.last r.last⟩ :: before
      else r :: last :: before
    | [] => [r]) []).reverse

/-- The numbers between spans that are in their order; `next` is the first that may be one. -/
def gaps (next : Nat) : List Span → List Span
  | [] => if next < limit then [⟨next, limit⟩] else []
  | r :: rs => (if next < r.first then [⟨next, r.first - 1⟩] else []) ++ gaps (r.last + 1) rs

end Span

/-- What `cut` takes out of lines. -/
structure Cutter where
  spans : List Span
  /-- The separator of fields, or none where characters are counted. -/
  delimiter : Option Char
  output : List Char
  /-- Lines without separator are left out. -/
  onlyDelimited : Bool

/-- The characters within spans; `between` goes between those of different spans. -/
def chooseChars (spans : List Span) (between body : List Char) : List Char :=
  let parts := spans.map fun r => (body.take r.last).drop (r.first - 1)
  between.intercalate (parts.filter (· ≠ []))

/-- What is left of a line, if it is not left out. -/
def Cutter.line? (k : Cutter) (line : List Char) : Option (List Char) :=
  match k.delimiter with
  | none => some (chooseChars k.spans k.output line)
  | some d =>
    if !line.contains d then if k.onlyDelimited then none else some line
    else
      let fields := line.splitOn d
      let numbered := ((List.range fields.length).map (· + 1)).zip fields
      let chosen := numbered.filter fun (n, _) => k.spans.any (·.contains n)
      some (k.output.intercalate (chosen.map Prod.snd))

def cut : Utility :=
  withOptions (.of "b:c:d:f:nszω:κ" [("bytes", 'b'), ("characters", 'c'), ("delimiter", 'd'),
    ("fields", 'f'), ("only-delimited", 's'), ("zero-terminated", 'z'), ("complement", 'κ'),
    ("output-delimiter", 'ω')]) 1 fun a => do
    let lists := a.options.filter fun (c, _) => "bcf".contains c
    match lists with
    | [] => misuse 1 "you must specify a list of bytes, characters, or fields"
    | _ :: _ :: _ => misuse 1 "only one list may be specified"
    | [(kind, text)] =>
      let byField := kind == 'f'
      if ((a.value? 'd').map String.length).any (1 < ·) then
        misuse 1 "the delimiter must be a single character"
      else match Span.read (!byField) ⟨none, false, false, 0⟩ text.toList with
        | .error message => misuse 1 message
        | .ok list =>
          if !byField && a.has 'd' then
            misuse 1 "an input delimiter may be specified only when operating on fields"
          else if !byField && a.has 's' then
            misuse 1 "suppressing non-delimited lines makes sense\n\tonly when operating on fields"
          else
            let d := ((a.value? 'd').bind (·.toList.head?)).getD
              (if a.has 'd' then '\x00' else '\t')
            let list := Span.merged list
            let list := if a.has 'κ' then Span.gaps 1 list else list
            let between := match a.value? 'ω' with
              | some text => text.toList
              | none => if byField then [d] else []
            let k : Cutter := ⟨list, if byField then some d else none, between, a.has 's'⟩
            let stop := if a.has 'z' then '\x00' else '\n'
            forOperands ofOperand 1 a.operands fun _ text =>
              write (((linesUpTo stop text).filterMap k.line?).flatMap (· ++ [stop]))

def rev : Utility := withOptions (.of "" []) 1 fun a =>
  forOperands (fun operand cause => "cannot open " ++ operand ++ ": " ++ cause) 1 a.operands
    fun _ text => write ((lines text).flatMap fun line =>
      let body := chomp line
      body.reverse ++ line.drop body.length)

/-! ## Lines side by side -/

/-- The separators that a text lists, where escapes stand for characters or for none. -/
def separators : List Char → Option (List (Option Char))
  | ['\\'] => none
  | '\\' :: c :: cs =>
    let meant := match c with
      | '0' => none
      | 'a' | 'e' => some c
      | c => some ((Printf.letter? c).getD c)
    (separators cs).map (meant :: ·)
  | c :: cs => (separators cs).map (some c :: ·)
  | [] => some []

/-- Joins with separators that are used in turn. -/
def joinWith (separators : List (Option Char)) (parts : List (List Char)) : List Char :=
  let gap (n : Nat) : List Char :=
    ((separators[n % max 1 separators.length]?).bind id).toList
  let numbered := (List.range parts.length).zip parts
  numbered.flatMap fun (n, part) => if n = 0 then part else gap (n - 1) ++ part

/-- Rows of lines; each source gives its next line to each row. `fuel` bounds their number. -/
def rows : Nat → List (List (List Char)) → List (List (List Char))
  | 0, _ => []
  | fuel + 1, sources =>
    if sources.all List.isEmpty then []
    else (sources.map (·.headD [])) :: rows fuel (sources.map List.tail)

def paste : Utility :=
  withOptions (.of "d:sz" [("delimiters", 'd'), ("serial", 's'),
    ("zero-terminated", 'z')]) 1 fun a => do
    match separators ((a.value? 'd').getD "\t").toList with
    | none =>
      complain ("delimiter list ends with an unescaped backslash: " ++ (a.value? 'd').getD "")
      return 1
    | some separators =>
    let stop := if a.has 'z' then '\x00' else '\n'
    let operands := if a.operands = [] then ["-"] else a.operands
    let sources ← operands.mapM fun operand => do
      if operand = "-" ∧ !a.has 's' then return (operand, .ok [])
      return (operand, ← readOperand operand)
    match sources.find? fun (_, text) => !text.toBool with
    | some (operand, .error e) =>
      complain (ofOperand operand (cause e))
      return 1
    | _ =>
      let linesOf (text : Except IoError (List Char)) : List (List Char) := match text with
        | .ok text => linesUpTo stop text
        | .error _ => []
      let texts := sources.map fun (_, text) => linesOf text
      if a.has 's' then
        write (texts.flatMap fun ls => joinWith separators ls ++ [stop])
        return 0
      let shared := operands.count "-"
      let input ← if shared = 0 then pure [] else (linesOf ·) <$> readOperand "-"
      let place (i : Nat) : List (List Char) :=
        (List.range (input.length + 1)).filterMap fun k => input[k * shared + i]?
      let step := fun ((i, done) : Nat × List (List (List Char)))
          ((operand, ls) : String × List (List Char)) =>
        if operand = "-" then (i + 1, place i :: done) else (i, ls :: done)
      let sources := ((operands.zip texts).foldl step (0, [])).2.reverse
      let height := (sources.map List.length).foldl max 0
      write ((rows height sources).flatMap fun row => joinWith separators row ++ [stop])
      return 0

end PlaybookScan.Shell.Utility

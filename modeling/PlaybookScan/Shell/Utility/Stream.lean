import PlaybookScan.Shell.Regex.Posix
import PlaybookScan.Shell.Utility.Basic
import PlaybookScan.Shell.Utility.Printf
import PlaybookScan.Shell.Utility.Sizes

/-!
# Programs on streams

Programs that copy, cut, count or make bytes.
-/

set_option autoImplicit false

namespace PlaybookScan.Shell.Utility

def trueUtility : Utility := fun _ => return 0

def falseUtility : Utility := fun _ => return 1

/-! ## Copies -/

/-- What is shown of a byte that cannot be printed. -/
def visible (c : Char) : List Char :=
  let low (n : Nat) : List Char :=
    if n < 32 then ['^', Char.ofNat (n + 64)] else if n = 127 then ['^', '?'] else [Char.ofNat n]
  if c = '\n' ∨ c = '\t' then [c]
  else if c.toNat < 128 then low c.toNat
  else 'M' :: '-' :: low (c.toNat - 128)

/-- How lines are changed on the way. -/
structure Display where
  numbered : Bool
  /-- Only lines that are not empty get numbers. -/
  sparse : Bool
  squeezed : Bool
  ends : Bool
  tabs : Bool
  codes : Bool

def Display.isPlain (d : Display) : Bool :=
  !(d.numbered || d.sparse || d.squeezed || d.ends || d.tabs || d.codes)

/-- Shows lines; the counter is the number of the next one, and the last line was empty or not. -/
def Display.apply (d : Display) (number : Nat) (afterEmpty : Bool) :
    List (List Char) → List Char × Nat × Bool
  | [] => ([], number, afterEmpty)
  | line :: rest =>
    let isEmpty := line == ['\n']
    if d.squeezed && isEmpty && afterEmpty then d.apply number true rest
    else
      let counts := if d.sparse then !isEmpty else d.numbered
      let digits := Nat.toDigits 10 number
      let lead := if counts then List.replicate (6 - digits.length) ' ' ++ digits ++ ['\t'] else []
      let body := chomp line
      let body := if d.codes then body.flatMap visible else body
      let shown (c : Char) : List Char := if c = '\t' then ['^', 'I'] else [c]
      let body := if d.tabs then body.flatMap shown else body
      let stop := if line.getLast? = some '\n' then (if d.ends then ['$', '\n'] else ['\n']) else []
      let (more, number, afterEmpty) := d.apply (if counts then number + 1 else number) isEmpty rest
      (lead ++ body ++ stop ++ more, number, afterEmpty)

/-- Copies what comes again and again in the input, behind the text before it. -/
def copyForever (descriptor : Nat) : StateM State Unit := do
  let s ← get
  match s.channel? descriptor with
  | some (.input n) => match s.inputs[n]? with
    | some input => if input.cycle ≠ [] then
        write input.text
        writeForever input.cycle
    | none => return
  | some .zero => writeForever ['\x00']
  | _ => return

def isEndless (s : State) (descriptor : Nat) : Bool :=
  match s.channel? descriptor with
  | some (.input n) => ((s.inputs[n]?).map fun i => !i.cycle.isEmpty).getD false
  | some .zero => true
  | _ => false

def cat : Utility :=
  withOptions (.of "AbeEnstTuv" [("show-all", 'A'), ("number-nonblank", 'b'), ("show-ends", 'E'),
    ("number", 'n'), ("squeeze-blank", 's'), ("show-tabs", 'T'), ("show-nonprinting", 'v')]) 1
    fun a => do
      let any (letters : List Char) : Bool := letters.any a.has
      let d : Display := ⟨a.has 'n', a.has 'b', a.has 's', any ['A', 'e', 'E'],
        any ['A', 't', 'T'], any ['A', 'e', 't', 'v']⟩
      let operands := if a.operands = [] then ["-"] else a.operands
      let (status, _, _) ← operands.foldlM (fun (status, number, afterEmpty) operand => do
        match ← openOperand operand with
        | .error e =>
          complain (ofOperand operand (cause e))
          return (1, number, afterEmpty)
        | .ok n =>
          if isEndless (← get) n then
            copyForever n
            return (status, number, afterEmpty)
          match ← readWith n (·.readAll n) with
          | .error e =>
            complain (ofOperand operand (cause e))
            return (1, number, afterEmpty)
          | .ok text =>
            if d.isPlain then
              write text
              return (status, number, afterEmpty)
            let (text, number, afterEmpty) := d.apply number afterEmpty (lines text)
            write text
            return (status, number, afterEmpty)) ((0, 1, false) : Nat × Nat × Bool)
      return status

/-- The last place where a text is found in `cs`. -/
def lastText? (text cs : List Char) : Option (Nat × Nat) :=
  ((List.range (cs.length + 1 - text.length)).reverse.find? fun n =>
    text.isPrefixOf (cs.drop n)).map fun n => (n, n + text.length)

/-- The last place at which a match of an expression begins in `cs`. -/
def lastMatch? (r : Regex.Finder) (cs : List Char) : Option (Nat × Nat) :=
  (List.range cs.length).reverse.findSome? fun n =>
    (r.at? cs (.at_ cs n)).map fun f => (f.start, f.stop)

/-- The records of a text from its end on. A separator, whose last place `find` tells, ends a record
or, if it is `leading`, begins one. What is in front of `limit` has not been searched, what is in
front of `stop` has not been taken; `fuel` bounds the number of records. -/
def recordsBack (find : List Char → Option (Nat × Nat)) (leading : Bool) (cs : List Char) :
    Nat → Nat → Nat → List (List Char)
  | 0, _, stop => [cs.take stop]
  | fuel + 1, limit, stop =>
    match find (cs.take limit) with
    | none => [cs.take stop]
    | some (start, behind) =>
      let cut := if leading then start else behind
      (cs.take stop).drop cut :: recordsBack find leading cs fuel start cut

/-- Copies records in reverse. -/
def tac : Utility :=
  withOptions (.of "brs:" [("before", 'b'), ("regex", 'r'), ("separator", 's')]) 1 fun a => do
    let separator := (a.value? 's').getD "\n"
    let copy (turn : List Char → List Char) : StateM State Nat := forOperands
      (fun operand cause => "failed to open " ++ quotedFile operand ++ " for reading: " ++ cause)
      1 a.operands fun _ cs => write (turn cs)
    let back (find : List Char → Option (Nat × Nat)) (cs : List Char) : List Char :=
      (recordsBack find (a.has 'b') cs (cs.length + 1) cs.length cs.length).flatten
    if a.has 'r' then
      if separator = "" then
        complain "separator cannot be empty"
        return 1
      match Regex.basic.finder separator.toList with
      | .error message => complain message; return 1
      | .ok r => copy (back (lastMatch? r))
    else if separator = "\n" ∧ !a.has 'b' then copy fun cs => (lines cs).reverse.flatten
    else copy (back (lastText? (if separator = "" then ['\x00'] else separator.toList)))

def tee : Utility := withOptions (.of "aip" [("append", 'a')]) 1 fun a => do
  let (text, s) := (← get).readAll 0
  set s
  let text := text.getD []
  let status ← a.operands.foldlM (fun status operand => do
    match ← openOutput (a.has 'a') operand with
    | .ok n => modify fun s => (s.write n text).2; return status
    | .error e => complain (ofOperand operand (cause e)); return 1) 0
  write text
  return status

/-! ## Parts -/

/-- How much of a stream is wanted. -/
structure Extent where
  count : Nat
  bytes : Bool
  /-- The sign before the number. -/
  sign : Option Char

/-- A number with an optional sign and a letter behind it. -/
def extent (bytes : Bool) (text : String) : Except Sizes.Fault Extent :=
  let cs := text.toList
  let sign := cs.head?.filter fun c => c == '+' || c == '-'
  let number := if sign.isSome then cs.tail else cs
  if sign.isSome && (number.head? == some '+' || number.head? == some '-') then .error .noNumber
  else (Sizes.read false number).map fun n => ⟨n, bytes, sign⟩

/-- The old way to give a number, as an option or behind a plus sign, in the usual way. -/
def modernExtent (plus : Bool) (arg : String) : String :=
  match arg.toList with
  | sign :: d :: cs =>
    if (sign = '-' ∨ (plus ∧ sign = '+')) ∧ d.isDigit then
      let digits := (d :: cs).takeWhile Char.isDigit
      let letters := (d :: cs).drop digits.length
      let signed := String.ofList (if sign = '+' then '+' :: digits else digits)
      match letters with
      | ['c'] => "-c" ++ signed
      | ['l'] | [] => "-n" ++ signed
      | _ => arg
    else arg
  | _ => arg

/-- Options of the programs that show a part of each file. -/
def partOptions : Options :=
  .of "c:n:qvfz" [("bytes", 'c'), ("lines", 'n'), ("quiet", 'q'), ("silent", 'q'), ("verbose", 'v'),
    ("follow", 'f')]

/-- Shows a part of each operand, with headings if there are several. -/
def part (plus : Bool) (take : Extent → Nat → StateM State (Except IoError Unit)) : Utility :=
  fun args => withOptions partOptions 1 (fun a => do
    let extents := a.options.filter fun (c, _) => c == 'c' || c == 'n'
    let read := fun ((c, v) : Char × String) => extent (c == 'c') v
    match extents.find? fun option => !(read option).toBool with
    | some (c, v) =>
      complain ("invalid number of " ++ (if c = 'c' then "bytes" else "lines") ++ ": " ++
        quoted v ++ match read (c, v) with
          | .error .tooLarge => ": Value too large for defined data type"
          | _ => "")
      return 1
    | none =>
      let e := ((extents.getLast?).bind fun option => (read option).toOption).getD
        ⟨10, false, none⟩
      let operands := if a.operands = [] then ["-"] else a.operands
      let headed := a.has 'v' || (operands.length > 1 && !a.has 'q')
      let (status, _) ← operands.foldlM (fun (status, first) operand => do
        match ← openOperand operand with
        | .error e =>
          complain ("cannot open " ++ quotedFile operand ++ " for reading: " ++ cause e)
          return (1, first)
        | .ok n =>
          let title := if operand = "-" then "standard input" else operand
          if headed then
            writeLine ((if first then "" else "\n") ++ "==> " ++ title ++ " <==")
          match ← take e n with
          | .ok () => return (status, false)
          | .error e =>
            complain ("error reading " ++ quotedFile title ++ ": " ++ cause e)
            return (1, false)) ((0, true) : Nat × Bool)
      if a.has 'f' then modify fun s => { s with clock := s.clock + forever }
      return status) (match args with
    | first :: rest => modernExtent plus first :: rest
    | [] => [])

/-- Bytes that are read at once. -/
def blockSize : Nat := 8192

/-- Copies so many lines; what was read behind them is put back where that is possible. `fuel`
bounds the number of blocks. -/
def copyLines (descriptor : Nat) : Nat → Nat → StateM State (Except IoError Unit)
  | fuel + 1, count + 1 => do
    match ← readWith descriptor (·.readSome descriptor blockSize) with
    | .error e => return .error e
    | .ok block =>
      if block = [] then return .ok ()
      let wanted := ((lines block).take (count + 1)).flatten
      write wanted
      modify (·.putBack descriptor (block.drop wanted.length))
      copyLines descriptor fuel (count + 1 - wanted.count '\n')
  | _, _ => return .ok ()

def head : Utility := part false fun e n => do
  if e.sign = some '-' then
    match ← readWith n (·.readAll n) with
    | .error e => return .error e
    | .ok text =>
      let kept {α : Type} (xs : List α) : List α := xs.take (xs.length - e.count)
      write (if e.bytes then kept text else (kept (lines text)).flatten)
      return .ok ()
  else if e.bytes then
    match ← readWith n (·.readSome n e.count) with
    | .error e => return .error e
    | .ok text => write text; return .ok ()
  else copyLines n (((← get).readable n + State.flood) / blockSize + e.count) e.count

def tail : Utility := part true fun e n => do
  match ← readWith n (·.readAll n) with
  | .error e => return .error e
  | .ok text =>
    let kept {α : Type} (xs : List α) : List α :=
      if e.sign = some '+' then xs.drop (e.count - 1) else xs.drop (xs.length - e.count)
    write (if e.bytes then kept text else (kept (lines text)).flatten)
    return .ok ()

/-! ## Counts -/

/-- The number of words. -/
def wordCount (cs : List Char) : Nat :=
  ((cs.splitOnP Arithmetic.isSpace).filter (· ≠ [])).length

/-- The number of columns that a line takes. -/
def columns (line : List Char) : Nat :=
  line.foldl (fun n c =>
    if c = '\t' then n + (8 - n % 8) else if ' ' ≤ c ∧ c ≤ '~' then n + 1 else n) 0

/-- Bytes of a regular file come from the descriptor. -/
def isRegular (s : State) (descriptor : Nat) : Bool :=
  match s.channel? descriptor with
  | some (.input n) => ((s.inputs[n]?).map Input.seekable).getD false
  | _ => false

/-- What the reader of a file finds: whether it is a regular file, and its bytes. -/
structure Source where
  operand : String
  regular : Bool
  text : Except IoError (List Char)
  /-- It could be opened. -/
  opened : Bool

def source (operand : String) : StateM State Source := do
  match ← openOperand operand with
  | .error e => return ⟨operand, true, .error e, false⟩
  | .ok n =>
    let regular := isRegular (← get) n
    return ⟨operand, regular, ← readWith n (·.readAll n), true⟩

def wc : Utility :=
  withOptions (.of "clmLw" [("bytes", 'c'), ("chars", 'm'), ("lines", 'l'), ("words", 'w'),
    ("max-line-length", 'L')]) 1 fun a => do
    let wanted := if a.options = [] then ['l', 'w', 'c'] else ['l', 'w', 'm', 'c', 'L'].filter a.has
    let counts (text : List Char) : List Nat := wanted.map fun
      | 'l' => text.count '\n'
      | 'w' => wordCount text
      | 'L' => (text.splitOn '\n').foldl (fun n line => max n (columns line)) 0
      | _ => text.length
    let sources ← (if a.operands = [] then ["-"] else a.operands).mapM source
    let size (x : Source) : Nat := match x.text with
      | .ok text => if x.regular then text.length else 0
      | .error _ => 0
    let digits := (toString ((sources.map size).foldl (· + ·) 0)).length
    let width := if wanted.length = 1 ∧ sources.length = 1 then 1
      else if sources.any (!·.regular) then max 7 digits else digits
    let row (ns : List Nat) (name : String) : String :=
      " ".intercalate (ns.map fun n =>
        String.ofList (Printf.pad false ' ' width (toString n).toList)) ++ name
    let name (x : Source) : String := if a.operands = [] then "" else " " ++ x.operand
    let totals ← sources.foldlM (fun (totals : List Nat × Nat) x => do
      match x.text with
      | .ok text =>
        let ns := counts text
        writeLine (row ns (name x))
        let add := fun (l, m, n) => if l = 'L' then max m n else m + n
        return (((wanted.zip (totals.1.zip ns)).map add), totals.2)
      | .error e =>
        let title := if a.operands = [] then "standard input" else x.operand
        complain (ofOperand title (cause e))
        if x.opened then writeLine (row (wanted.map fun _ => 0) (name x))
        return (totals.1, 1)) (wanted.map fun _ => 0, 0)
    if sources.length > 1 then writeLine (row totals.1 " total")
    return totals.2

/-! ## Time -/

/-- Writes a line again and again. -/
def yes : Utility := withOptions (.leading "" []) 1 fun a => do
  writeForever ((if a.operands = [] then "y" else " ".intercalate a.operands) ++ "\n").toList
  return 141

/-- The milliseconds that a duration like `1.5` or `2m` has. -/
def milliseconds? (text : String) : Option Nat := do
  let r ← Binary.read? .double text.toList
  let unit ← match r.rest with
    | [] | ['s'] => some 1
    | ['m'] => some 60
    | ['h'] => some 3600
    | ['d'] => some 86400
    | _ => none
  match r.value with
  | .finite negative m e =>
    let (num, den) := Binary.ratio m e
    if negative ∧ m ≠ 0 then none else some ((num * 1000 * unit + den - 1) / den)
  | .infinite negative => if negative then none else some forever
  | .undefined _ => none

def sleep : Utility := withOptions (.of "" []) 1 fun a => do
  match a.operands.filter fun x => (milliseconds? x).isNone with
  | bad :: more =>
    (bad :: more).forM fun x => complain ("invalid time interval " ++ quoted x)
    hint
    return 1
  | [] =>
    if a.operands = [] then misuse 1 "missing operand"
    else
      modify fun s => { s with clock := (a.operands.filterMap milliseconds?).foldl (· + ·) s.clock }
      return 0

/-! ## Texts -/

/-- The options that the arguments of `echo` start with, and the other arguments. -/
def echoOptions (newline escapes : Bool) : List String → Bool × Bool × List String
  | [] => (newline, escapes, [])
  | arg :: args =>
    match arg.toList with
    | '-' :: c :: cs =>
      if (c :: cs).all fun c => "neE".contains c then
        let letters := (c :: cs).filter (· != 'n')
        echoOptions (newline && !(c :: cs).contains 'n')
          ((letters.getLast?.map (· == 'e')).getD escapes) args
      else (newline, escapes, arg :: args)
    | _ => (newline, escapes, arg :: args)

def echo : Utility := fun args => do
  let (newline, escapes, args) := echoOptions true false args
  if escapes then write (Printf.echo .system newline args)
  else write (" ".intercalate args ++ if newline then "\n" else "").toList
  return 0

def printf : Utility := fun args => do
  match if args.head? = some "--" then args.tail else args with
  | [] => misuse 1 "missing operand"
  | fmt :: args =>
    let out := Printf.format .system fmt args
    out.forM fun
      | .text cs => write cs
      | .fault fault => complain (fault.message .system)
      | .time .. => return
    return Printf.statusOf .system out

end PlaybookScan.Shell.Utility

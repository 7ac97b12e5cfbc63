import PlaybookScan.Shell.Utility.Stream

/-!
# Copies in blocks

A file is copied block by block, from one place to another, and changed on the way.
-/

set_option autoImplicit false

namespace PlaybookScan.Shell.Utility

namespace Blocks

/-- What is wrong with the operands. -/
inductive Fault where
  | unknown (operand : String)
  | number (text : String)
  /-- A word is none of those for this kind of thing. -/
  | word (kind text : String)
  | clash (first second : String)

def Fault.message : Fault → String
  | unknown operand => "unrecognized operand " ++ quoted operand
  | number text => "invalid number: " ++ quoted text
  | word kind text => "invalid " ++ kind ++ ": " ++ quoted text
  | clash first second => "cannot combine " ++ first ++ " and " ++ second

/-- A hint follows. -/
def Fault.hints : Fault → Bool
  | unknown _ | word .. => true
  | _ => false

/-- A number with a letter that multiplies it, and whether it is a number of bytes. -/
def factor? (cs : List Char) : Option (Nat × Bool) :=
  let digits := cs.takeWhile Char.isDigit
  let n := Printf.number 10 digits
  let scaled (unit : List Char) : Option Nat := match unit with
    | ['c'] => some 1
    | ['w'] => some 2
    | unit => Sizes.factor? unit
  match digits, cs.drop digits.length with
  | [], rest => if rest = [] then none else (scaled rest).map (·, false)
  | _, ['B'] => some (n, true)
  | _, rest => (scaled rest).map fun k => (n * k, false)

/-- Numbers that are multiplied with each other. -/
def number (text : String) : Except Fault (Nat × Bool) :=
  match ((text.splitOn "x").map String.toList).mapM factor? with
  | some [pair] => .ok pair
  | some pairs => .ok ((pairs.map Prod.fst).foldl (· * ·) 1, false)
  | none => .error (.number text)

/-- What is copied, and how. -/
structure Copy where
  input : Option String
  output : Option String
  inputSize : Nat
  outputSize : Nat
  /-- Blocks go out as they came in. -/
  whole : Bool
  conversionSize : Nat
  count : Option (Nat × Bool)
  skip : Nat × Bool
  seek : Nat × Bool
  conversions : List String
  inputFlags : List String
  outputFlags : List String
  status : String

def usual : Copy :=
  ⟨none, none, 512, 512, false, 0, none, (0, false), (0, false), [], [], [], "default"⟩

def conversionNames : List String :=
  ["ascii", "ebcdic", "ibm", "block", "unblock", "lcase", "ucase", "sparse", "swab", "sync",
    "excl", "nocreat", "notrunc", "noerror", "fdatasync", "fsync"]

def flagNames : List String :=
  ["append", "direct", "directory", "dsync", "sync", "fullblock", "nonblock", "noatime", "nocache",
    "noctty", "nofollow", "count_bytes", "skip_bytes", "seek_bytes"]

/-- Words of a list with commas. -/
def words (kind : String) (names : List String) (text : String) : Except Fault (List String) :=
  let ws := text.splitOn ","
  match ws.find? (!names.contains ·) with
  | some w => .error (.word kind w)
  | none => .ok ws

/-- Reads one operand. -/
def Copy.operand (c : Copy) (text : String) : Except Fault Copy := do
  let key := String.ofList (text.toList.takeWhile (· != '='))
  let value := String.ofList (text.toList.drop (key.length + 1))
  let size : Except Fault Nat := do
    let (n, _) ← number value
    if n = 0 then throw (.number value)
    return n
  if !text.toList.contains '=' then throw (.unknown text)
  match key with
  | "if" => return { c with input := some value }
  | "of" => return { c with output := some value }
  | "bs" => return { c with inputSize := ← size, outputSize := ← size, whole := true }
  | "ibs" =>
    let n ← size
    return if c.whole then c else { c with inputSize := n }
  | "obs" =>
    let n ← size
    return if c.whole then c else { c with outputSize := n }
  | "cbs" => return { c with conversionSize := ← size }
  | "count" => return { c with count := some (← number value) }
  | "skip" | "iseek" => return { c with skip := ← number value }
  | "seek" | "oseek" => return { c with seek := ← number value }
  | "conv" =>
    return { c with conversions := c.conversions ++ (← words "conversion" conversionNames value) }
  | "iflag" =>
    return { c with inputFlags := c.inputFlags ++ (← words "input flag" flagNames value) }
  | "oflag" =>
    return { c with outputFlags := c.outputFlags ++ (← words "output flag" flagNames value) }
  | "status" =>
    if ["none", "noxfer", "progress", "default"].contains value then
      return { c with status := value }
    else throw (.word "status level" value)
  | _ => throw (.unknown text)

/-- Conversions that do not go together. -/
def clash? (conversions : List String) : Option Fault :=
  [("ascii", "ebcdic"), ("block", "unblock"), ("lcase", "ucase"), ("excl", "nocreat")].findSome?
    fun (x, y) =>
      if conversions.contains x && conversions.contains y then some (.clash x y) else none

def read (args : List String) : Except Fault Copy := do
  let c ← args.foldlM Copy.operand usual
  match clash? c.conversions with
  | some fault => throw fault
  | none => return c

/-- Swaps the characters of each pair. -/
def swapped : List Char → List Char
  | a :: b :: rest => b :: a :: swapped rest
  | rest => rest

/-- Parts of `size` elements; `fuel` bounds their number. -/
def parts (size : Nat) : Nat → List Char → List (List Char)
  | 0, _ => []
  | fuel + 1, cs => if cs = [] then [] else cs.take size :: parts size fuel (cs.drop size)

/-- Changes a text as the conversions say; answers also the number of lines that were cut. -/
def Copy.convert (c : Copy) (text : List Char) : List Char × Nat :=
  let has := c.conversions.contains
  let filler := if has "block" || has "unblock" then ' ' else '\x00'
  let text := if has "sync" then
      (parts c.inputSize (text.length + 1) text).flatMap fun p =>
        p ++ List.replicate (c.inputSize - p.length) filler
    else text
  let text := if has "swab" then swapped text else text
  let text := if has "lcase" then text.map Char.toLower
    else if has "ucase" then text.map Char.toUpper else text
  let size := c.conversionSize
  if size ≠ 0 ∧ has "block" then
    let rows := linesUpTo '\n' text
    (rows.flatMap fun row => row.take size ++ List.replicate (size - row.length) ' ',
      (rows.filter fun row => size < row.length).length)
  else if size ≠ 0 ∧ has "unblock" then
    ((parts size (text.length + 1) text).flatMap fun p =>
      (p.reverse.dropWhile (· == ' ')).reverse ++ ['\n'], 0)
  else (text, 0)

/-- Numbers of whole blocks and of others. -/
def records (size bytes : Nat) : String :=
  toString (bytes / size) ++ "+" ++ if bytes % size = 0 then "0" else "1"

/-- Opens the file that is written. -/
def Copy.openTarget (c : Copy) (file : String) : StateM State (Except IoError Nat) := do
  let s ← get
  let p := State.path file
  let content : List UInt8 := match s.disk.node s.cwd p with
    | .ok (.file content _) => content
    | _ => []
  let found := s.disk.node s.cwd p
  if c.conversions.contains "excl" ∧ found.toBool then return .error (.system 17)
  if c.conversions.contains "nocreat" ∧ found matches .error .noSuchFile then
    return .error .noSuchFile
  let start := if c.seek.2 || c.outputFlags.contains "seek_bytes" then c.seek.1
    else c.seek.1 * c.outputSize
  if c.outputFlags.contains "append" then openOutput true file
  else
    match ← openOutput false file with
    | .error e => return .error e
    | .ok n =>
      let kept := content.take start ++ List.replicate (start - content.length) 0
      modify fun s => (s.write n (Octets.ofBytes kept)).2
      return .ok n

/-- What of the written file stays behind the place where writing ends. -/
def Copy.tail (c : Copy) (content : List UInt8) (written : Nat) : List Char :=
  let start := if c.seek.2 then c.seek.1 else c.seek.1 * c.outputSize
  if c.conversions.contains "notrunc" && !c.outputFlags.contains "append" then
    Octets.ofBytes (content.drop (start + written))
  else []

end Blocks

/-- Copies blocks. -/
def dd : Utility := fun args => do
  match (Options.leading "" []).read args with
  | .error message => misuse 1 message
  | .ok a =>
  match Blocks.read a.operands with
  | .error fault =>
    complain fault.message
    if fault.hints then hint
    return 1
  | .ok c =>
  let opened ← match c.input with
    | none => pure (.ok 0)
    | some file => openOperand file
  match opened with
  | .error e =>
    complain ("failed to open " ++ quotedFile (c.input.getD "") ++ ": " ++ cause e)
    return 1
  | .ok n =>
  let title := c.input.getD "standard input"
  let bytes (amount : Nat × Bool) (flag : String) (size : Nat) : Nat :=
    if amount.2 || c.inputFlags.contains flag then amount.1 else amount.1 * size
  let skip := bytes c.skip "skip_bytes" c.inputSize
  let skipped ← readWith n (·.readSome n skip)
  let found ← readWith n fun s => match c.count with
    | some amount => s.readSome n (bytes amount "count_bytes" c.inputSize)
    | none => s.readAll n
  let s ← get
  let old : List UInt8 := match c.output.map fun file => s.disk.node s.cwd (State.path file) with
    | some (.ok (.file content _)) => content
    | _ => []
  let target ← match c.output with
    | none => pure (.ok 1)
    | some file => c.openTarget file
  match target with
  | .error e =>
    complain ("failed to open " ++ quotedFile (c.output.getD "") ++ ": " ++ cause e)
    return 1
  | .ok out =>
  let (status, text) ← match skipped, found with
    | .error e, _ | _, .error e =>
      complain ("error reading " ++ quotedFile title ++ ": " ++ cause e)
      pure (1, [])
    | .ok passed, .ok text =>
      if passed.length < skip then
        complain (title ++ ": cannot skip to specified offset")
      pure (0, text)
  let (written, cut) := c.convert text
  modify fun s => (s.write out (written ++
    if c.output.isSome then c.tail old written.length else [])).2
  if c.status ≠ "none" then
    let tell (line : String) : StateM State Unit := modify (·.complain line)
    tell (Blocks.records c.inputSize text.length ++ " records in")
    tell (Blocks.records (if c.whole then c.inputSize else c.outputSize) written.length ++
      " records out")
    if cut ≠ 0 then
      tell (toString cut ++ " truncated record" ++ if cut = 1 then "" else "s")
    if c.status ≠ "noxfer" then
      tell (toString written.length ++ (if written.length = 1 then " byte" else " bytes") ++
        " copied, 0.0001 s, 0.0 kB/s")
  return status

end PlaybookScan.Shell.Utility

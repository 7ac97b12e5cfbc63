import PlaybookScan.Shell.Utility.Basic
import PlaybookScan.Shell.Utility.Printf
import PlaybookScan.Shell.Utility.Sizes

/-!
# Dumps of bytes

Bytes are shown in rows, each in one or more formats. The cells of all formats are widened so that
their rows are equally long.
-/

set_option autoImplicit false

namespace PlaybookScan.Shell.Utility

namespace Dump

/-- How the bytes of a cell are read. -/
inductive CellKind where
  | named
  | char
  | signed
  | unsigned
  | octal
  | hex
  | real
  deriving DecidableEq

/-- A format: bytes per cell and how they are read. -/
structure CellFormat where
  kind : CellKind
  size : Nat
  /-- The bytes follow behind each row as text. -/
  trailed : Bool

/-- The columns of a cell without the blank in front of it. -/
def CellFormat.width (f : CellFormat) : Nat :=
  let by_ (one two four eight : Nat) : Nat :=
    match f.size with
    | 1 => one
    | 2 => two
    | 4 => four
    | _ => eight
  match f.kind with
  | .named | .char => 3
  | .signed => by_ 4 6 11 20
  | .unsigned => by_ 3 5 10 20
  | .octal => by_ 3 6 11 22
  | .hex => 2 * f.size
  | .real => if f.size = 4 then 15 else if f.size = 8 then 24 else 45

/-- The number that bytes form, the least one first. -/
def littleEndian : List Char → Nat
  | [] => 0
  | c :: cs => c.toNat + 256 * littleEndian cs

/-- A number in a base, filled up with zeros. -/
def inBase (base width n : Nat) : List Char :=
  Printf.pad false '0' width (Nat.toDigits base n)

/-- A byte as a character or an escape. -/
def charText (n : Nat) : List Char :=
  match n with
  | 0 => ['\\', '0']
  | 7 => ['\\', 'a']
  | 8 => ['\\', 'b']
  | 9 => ['\\', 't']
  | 10 => ['\\', 'n']
  | 11 => ['\\', 'v']
  | 12 => ['\\', 'f']
  | 13 => ['\\', 'r']
  | n => if 32 ≤ n ∧ n < 127 then [Char.ofNat n] else inBase 8 3 n

/-- The names of the bytes that are no visible characters. -/
def byteNames : List String :=
  ["nul", "soh", "stx", "etx", "eot", "enq", "ack", "bel", "bs", "ht", "nl", "vt", "ff", "cr",
    "so", "si", "dle", "dc1", "dc2", "dc3", "dc4", "nak", "syn", "etb", "can", "em", "sub", "esc",
    "fs", "gs", "rs", "us", "sp"]

/-- A byte by its name, without its highest bit. -/
def nameText (n : Nat) : List Char :=
  let n := n % 128
  if n = 127 then "del".toList else ((byteNames[n]?).map String.toList).getD [Char.ofNat n]

/-- Numbers in 32 bits. -/
def single : BinaryFormat := ⟨24, -149, 128⟩

/-- The number whose fields are a sign, an exponent and a fraction; the leading one of the
significand is left out. -/
def packed (f : BinaryFormat) (exponentBits n : Nat) : Binary :=
  let fractionBits := f.precision - 1
  let fraction := n % 2 ^ fractionBits
  let exponent : Nat := n / 2 ^ fractionBits % 2 ^ exponentBits
  let negative := n / 2 ^ (fractionBits + exponentBits) % 2 = 1
  if exponent = 2 ^ exponentBits - 1 then
    if fraction = 0 then .infinite negative else .undefined negative
  else if exponent = 0 then .finite negative fraction f.least
  else .finite negative (2 ^ fractionBits + fraction) (f.least + exponent - 1)

/-- The number in 80 bits, which has the leading one of its significand. -/
def unpacked (n : Nat) : Binary :=
  let significand := n % 2 ^ 64
  let exponent : Nat := n / 2 ^ 64 % 2 ^ 15
  let negative := n / 2 ^ 79 % 2 = 1
  if exponent = 0 then .finite negative significand (-16445)
  else if significand < 2 ^ 63 then .undefined true
  else if exponent = 32767 then
    if significand = 2 ^ 63 then .infinite negative else .undefined negative
  else .finite negative significand ((exponent : Int) - 16446)

/-- The shortest text of a number that reads as the same number; `fuel` more digits than `places`
are tried. -/
def shortest (f : BinaryFormat) (x : Binary) (fuel places : Nat) : List Char :=
  let text := Printf.Shape.real ⟨[], 0, false, some places⟩ f 'g' x
  match fuel with
  | 0 => text
  | fuel + 1 =>
    let same : Bool := match Binary.read? f text with
      | some r => !Binary.less r.value x && !Binary.less x r.value
      | none => false
    if same then text else shortest f x fuel (places + 1)

def realText (size n : Nat) : List Char :=
  match size with
  | 4 => shortest single (packed single 8 n) 3 6
  | 8 => shortest .double (packed .double 11 n) 2 15
  | _ => shortest .extended (unpacked n) 3 18

/-- The text of a cell. -/
def CellFormat.text (f : CellFormat) (swapped : Bool) (cs : List Char) : List Char :=
  let cs := cs ++ List.replicate (f.size - cs.length) '\x00'
  let n := littleEndian (if swapped then cs.reverse else cs)
  match f.kind with
  | .named => nameText n
  | .char => charText n
  | .signed =>
    (toString (if n < 2 ^ (8 * f.size - 1) then (n : Int) else n - 2 ^ (8 * f.size))).toList
  | .unsigned => Nat.toDigits 10 n
  | .octal => inBase 8 f.width n
  | .hex => inBase 16 f.width n
  | .real => realText f.size n

/-! ## Reading formats -/

/-- The size that a type asks for, and what follows; it is given as a number or by a letter. -/
def size? (letters : List (Char × Nat)) (usual : Nat) (cs : List Char) : Nat × List Char :=
  match cs.takeWhile Char.isDigit, cs with
  | [], c :: rest => match letters.lookup c with
    | some n => (n, rest)
    | none => (usual, cs)
  | [], [] => (usual, [])
  | ds, cs => (Printf.number 10 ds, cs.drop ds.length)

/-- Reads the types in a text; the complaints show all of it. -/
def types (whole : String) : Nat → List Char → Except String (List CellFormat)
  | 0, _ => .ok []
  | _, [] => .ok []
  | fuel + 1, c :: rest => do
    let (kind, isReal) ← match c with
      | 'a' => pure (CellKind.named, false)
      | 'c' => pure (.char, false)
      | 'd' => pure (.signed, false)
      | 'u' => pure (.unsigned, false)
      | 'o' => pure (.octal, false)
      | 'x' => pure (.hex, false)
      | 'f' => pure (.real, true)
      | c => throw ("invalid character '" ++ String.singleton c ++ "' in type string " ++
          quoted whole)
    let (size, rest) := if kind = .named ∨ kind = .char then (1, rest)
      else if isReal then size? [('F', 4), ('D', 8), ('L', 16)] 8 rest
      else size? [('C', 1), ('S', 2), ('I', 4), ('L', 8)] 4 rest
    let sizes := if isReal then [4, 8, 16] else [1, 2, 4, 8]
    if !sizes.contains size then
      throw ("invalid type string " ++ quoted whole ++ ";\nthis system doesn't provide a " ++
        toString size ++ "-byte " ++ (if isReal then "floating point" else "integral") ++ " type")
    let (trailed, rest) := match rest with
      | 'z' :: rest => (true, rest)
      | rest => (false, rest)
    return ⟨kind, size, trailed⟩ :: (← types whole fuel rest)

/-! ## Rows -/

/-- All that decides on the shape of a dump. -/
structure Layout where
  formats : List CellFormat
  /-- Bytes in a row. -/
  bytes : Nat
  address : Nat → List Char
  /-- Equal rows are shown too. -/
  all : Bool
  swapped : Bool

/-- The columns of the widest row. -/
def Layout.width (l : Layout) : Nat :=
  (l.formats.map fun f => (f.width + 1) * (l.bytes / f.size)).foldl max 0

/-- Groups of `size`; `fuel` bounds their number. -/
def groups (size : Nat) : Nat → List Char → List (List Char)
  | 0, _ => []
  | fuel + 1, cs => if cs = [] then [] else cs.take size :: groups size fuel (cs.drop size)

/-- A row in one format. What the cells need less than the widest row is spread over them. -/
def Layout.row (l : Layout) (f : CellFormat) (block : List Char) : List Char :=
  let count := l.bytes / f.size
  let extra := l.width - f.width * count
  let cells := groups f.size count block
  let left (n : Nat) : Nat := extra * (count - n) / count
  let numbered := (List.range cells.length).zip cells
  let row := numbered.flatMap fun (n, cell) =>
    Printf.pad false ' ' (left n - left (n + 1) + f.width) (f.text l.swapped cell)
  if f.trailed then
    let visible := block.map fun c => if ' ' ≤ c ∧ c ≤ '~' then c else '.'
    Printf.pad true ' ' l.width row ++ [' ', ' ', '>'] ++ visible ++ ['<']
  else row

/-- The lines for blocks. Of blocks that are equal to the one before, a star is shown. -/
def Layout.rows (l : Layout) (offset : Nat) (last : Option (List Char)) (starred : Bool) :
    List (List Char) → List Char
  | [] => []
  | block :: rest =>
    let next := offset + block.length
    if !l.all && last == some block then
      (if starred then [] else ['*', '\n']) ++ l.rows next last true rest
    else
      let lead := l.address offset
      let leads := lead :: (l.formats.drop 1).map fun _ => List.replicate lead.length ' '
      (leads.zip l.formats).flatMap (fun (lead, f) => lead ++ l.row f block ++ ['\n']) ++
        l.rows next (some block) false rest

/-- The types that options without an argument stand for. -/
def shortTypes : List (Char × String) :=
  [('a', "a"), ('b', "o1"), ('c', "c"), ('d', "u2"), ('f', "fF"), ('h', "x2"), ('i', "dI"),
    ('l', "dL"), ('o', "o2"), ('s', "d2"), ('x', "x2")]

/-- Runs of at least `size` visible characters in front of a zero byte, with their offsets. -/
def strings (size : Nat) : List (Nat × Char) → List (Nat × Char) → List (Nat × List Char)
  | _, [] => []
  | run, (i, c) :: cs =>
    if ' ' ≤ c ∧ c ≤ '~' then strings size ((i, c) :: run) cs
    else
      let found := run.reverse
      let rest := strings size [] cs
      if c = '\x00' ∧ size ≤ found.length then
        ((found.head?.map Prod.fst).getD i, found.map Prod.snd) :: rest
      else rest

end Dump

def od : Utility :=
  withOptions (.of "A:j:N:S::t:vw::abcdfhilosxE:" [("address-radix", 'A'), ("skip-bytes", 'j'),
    ("read-bytes", 'N'), ("strings", 'S'), ("format", 't'), ("output-duplicates", 'v'),
    ("width", 'w'), ("endian", 'E')]) 1 fun a => do
    let texts := a.options.filterMap fun (c, value) =>
      if c = 't' then some value else Dump.shortTypes.lookup c
    let radix := (a.value? 'A').getD "o"
    if not (["d", "o", "x", "n"].contains radix) then
      complain ("invalid output address radix '" ++ radix ++
        "'; it must be one character from [doxn]")
      return 1
    let counts : List (Char × String) := a.options.filter fun (c, value) =>
      c == 'j' || c == 'N' || (c == 'S' && value != "") || (c == 'w' && value != "")
    let read (value : String) : Except Sizes.Fault Nat := Sizes.read true value.toList
    match counts.find? fun (_, value) => !(read value).toBool with
    | some (c, value) =>
      let lead := match read value with
        | .error .badSuffix => "invalid suffix in -"
        | _ => "invalid -"
      complain (lead ++ String.singleton c ++ " argument " ++ quoted value)
      return 1
    | none =>
    match (if texts = [] then ["oS"] else texts).mapM
        fun t => Dump.types t (t.length + 1) t.toList with
    | .error message => complain message; return 1
    | .ok formats =>
      let formats := formats.flatten
      let address (n : Nat) : List Char := match radix with
        | "n" => []
        | "x" => Dump.inBase 16 6 n
        | "d" => Dump.inBase 10 7 n
        | _ => Dump.inBase 8 7 n
      let size (c : Char) : Option Nat := (a.value? c).bind fun value => (read value).toOption
      let common := (formats.map Dump.CellFormat.size).foldl Nat.lcm 1
      let wanted := if a.has 'w' then (size 'w').getD 32 else (16 / common) * common
      let bytes := if wanted % common = 0 ∧ 0 < wanted then wanted else common
      if bytes ≠ wanted then
        complain ("warning: invalid width " ++ toString wanted ++ "; using " ++ toString bytes ++
          " instead")
      let parts ← (if a.operands = [] then ["-"] else a.operands).mapM fun operand => do
        match ← readOperand operand with
        | .ok text => return (text, 0)
        | .error e => complain (ofOperand operand (cause e)); return ([], 1)
      let status := (parts.map Prod.snd).foldl max 0
      let skip := (size 'j').getD 0
      let all := parts.flatMap Prod.fst
      if all.length < skip then
        complain "cannot skip past end of combined input"
        return 1
      let text := all.drop skip
      let text := match size 'N' with
        | some n => text.take n
        | none => text
      if a.has 'S' then
        let numbered := ((List.range text.length).map (skip + ·)).zip text
        let found := Dump.strings ((size 'S').getD 3) [] numbered
        write (found.flatMap fun (n, cs) =>
          (if radix = "n" then [] else address n ++ [' ']) ++ cs ++ ['\n'])
        return status
      let l : Dump.Layout := ⟨formats, bytes, address, a.has 'v', a.value? 'E' == some "big"⟩
      let stop := address (skip + text.length)
      write (l.rows skip none false (Dump.groups bytes text.length text) ++
        if stop = [] then [] else stop ++ ['\n'])
      return status

end PlaybookScan.Shell.Utility

import PlaybookScan.Shell.Utility.Stream

/-!
# Checksums

Digests are made block by block: a text is filled up to whole blocks of words, and each block
changes a list of words by rounds. All of them are folds over the bytes.
-/

set_option autoImplicit false

namespace PlaybookScan.Shell

namespace Checksum

/-- Digits of base 16 for a number of so many bytes. -/
def hex (bytes n : Nat) : List Char :=
  let ds := Nat.toDigits 16 n
  List.replicate (2 * bytes - ds.length) '0' ++ ds

/-- The bytes of a number, the largest part first. -/
def bigEndian (bytes n : Nat) : List Nat :=
  (List.range bytes).map fun i => n / 256 ^ (bytes - 1 - i) % 256

def littleEndian (bytes n : Nat) : List Nat := (bigEndian bytes n).reverse

/-- The number that bytes make, the largest part first. -/
def ofBigEndian (bs : List Nat) : Nat := bs.foldl (fun n b => 256 * n + b) 0

/-- Lists of `size` elements; `fuel` bounds their number. -/
def blocksOf {α : Type} (size : Nat) : Nat → List α → List (List α)
  | 0, _ => []
  | fuel + 1, xs => if xs.isEmpty then [] else xs.take size :: blocksOf size fuel (xs.drop size)

/-- The blocks of a text, behind which a bit is set and the number of bits stands in the last
`count` bytes. -/
def padded (size count : Nat) (order : Nat → Nat → List Nat) (bs : List Nat) :
    List (List Nat) :=
  let zeros := (2 * size - (bs.length + 1 + count) % size) % size
  let all := bs ++ 128 :: List.replicate zeros 0 ++ order count (8 * bs.length)
  blocksOf size (all.length / size + 1) all

/-- The first primes. -/
def primes : List Nat :=
  (List.range 410).filter fun n => 2 ≤ n && (List.range n).all fun d => d < 2 || n % d != 0

/-- The largest root of a power that is not above `n`, by bits from `bit` on. -/
def root (power n : Nat) : Nat → Nat
  | 0 => 0
  | bits + 1 =>
    let high := root power (n / 2 ^ power) bits * 2
    if (high + 1) ^ power ≤ n then high + 1 else high

/-- The first bits behind the point of the root of a prime. -/
def rootBits (power bits prime : Nat) : Nat :=
  root power (prime * 2 ^ (power * bits)) (bits + 6) % 2 ^ bits

/-! ## Words of 32 bits -/

def rotateLeft (x : UInt32) (n : UInt32) : UInt32 := (x <<< n) ||| (x >>> (32 - n))

def rotateRight (x : UInt32) (n : UInt32) : UInt32 := (x >>> n) ||| (x <<< (32 - n))

/-- Four words that rounds change in turn. -/
abbrev Quadruple := UInt32 × UInt32 × UInt32 × UInt32

/-- The sines by which the rounds of the first digest differ: the whole part of `2 ^ 32` times the
sine of each number from 1 on. -/
def sines : List UInt32 :=
  (List.range 64).map fun i => ((Float.sin (i + 1).toFloat).abs * 4294967296.0).toUInt32

def md5Shift (i : Nat) : UInt32 :=
  let row : List UInt32 := match i / 16 with
    | 0 => [7, 12, 17, 22]
    | 1 => [5, 9, 14, 20]
    | 2 => [4, 11, 16, 23]
    | _ => [6, 10, 15, 21]
  row.getD (i % 4) 0

def md5Block (q : Quadruple) (block : List Nat) : Quadruple :=
  let ws := ((blocksOf 4 16 block).map fun bs => UInt32.ofNat (ofBigEndian bs.reverse)).toArray
  let round := fun ((a, b, c, d) : Quadruple) ((i, k) : Nat × UInt32) =>
    let (f, g) := match i / 16 with
      | 0 => ((b &&& c) ||| (~~~b &&& d), i)
      | 1 => ((d &&& b) ||| (~~~d &&& c), (5 * i + 1) % 16)
      | 2 => (b ^^^ c ^^^ d, (3 * i + 5) % 16)
      | _ => (c ^^^ (b ||| ~~~d), 7 * i % 16)
    (d, b + rotateLeft (a + f + k + ws.getD g 0) (md5Shift i), b, c)
  let (a, b, c, d) := ((List.range 64).zip sines).foldl round q
  (q.1 + a, q.2.1 + b, q.2.2.1 + c, q.2.2.2 + d)

def md5 (bs : List Nat) : List Char :=
  let start : Quadruple := (0x67452301, 0xefcdab89, 0x98badcfe, 0x10325476)
  let (a, b, c, d) := (padded 64 8 littleEndian bs).foldl md5Block start
  [a, b, c, d].flatMap fun w => (littleEndian 4 w.toNat).flatMap (hex 1)

/-- The words of a block, and words made of them. -/
def schedule (size : Nat) (next : Array UInt32 → Nat → UInt32) (block : List Nat) :
    Array UInt32 :=
  let first := (blocksOf 4 16 block).map fun bs => UInt32.ofNat (ofBigEndian bs)
  (List.range' 16 (size - 16)).foldl (fun ws i => ws.push (next ws i)) first.toArray

def sha1Block (hs : List UInt32) (block : List Nat) : List UInt32 :=
  let ws := schedule 80 (fun ws i => rotateLeft (ws.getD (i - 3) 0 ^^^ ws.getD (i - 8) 0 ^^^
    ws.getD (i - 14) 0 ^^^ ws.getD (i - 16) 0) 1) block
  let round (vs : List UInt32) (i : Nat) : List UInt32 := match vs with
    | [a, b, c, d, e] =>
      let (f, k) : UInt32 × UInt32 := match i / 20 with
        | 0 => ((b &&& c) ||| (~~~b &&& d), 0x5a827999)
        | 1 => (b ^^^ c ^^^ d, 0x6ed9eba1)
        | 2 => ((b &&& c) ||| (b &&& d) ||| (c &&& d), 0x8f1bbcdc)
        | _ => (b ^^^ c ^^^ d, 0xca62c1d6)
      [rotateLeft a 5 + f + e + k + ws.getD i 0, a, rotateLeft b 30, c, d]
    | vs => vs
  ((hs.zip ((List.range 80).foldl round hs)).map fun (x, y) => x + y)

def sha1 (bs : List Nat) : List Char :=
  let start : List UInt32 := [0x67452301, 0xefcdab89, 0x98badcfe, 0x10325476, 0xc3d2e1f0]
  ((padded 64 8 bigEndian bs).foldl sha1Block start).flatMap fun w => hex 4 w.toNat

/-- Sixty-four words that the rounds use. -/
def sha256Words : Array UInt32 :=
  ((primes.take 64).map fun p => UInt32.ofNat (rootBits 3 32 p)).toArray

/-- What a round makes of eight values, where `s` and `t` mix the first and the fifth one. -/
def mixed {α : Type} [Add α] [AndOp α] [XorOp α] [Complement α] (s t : α → α) (word : α)
    (vs : List α) : List α :=
  match vs with
  | [a, b, c, d, e, f, g, h] =>
    let x := h + t e + ((e &&& f) ^^^ (~~~e &&& g)) + word
    let y := s a + ((a &&& b) ^^^ (a &&& c) ^^^ (b &&& c))
    [x + y, a, b, c, d + x, e, f, g]
  | vs => vs

def sha256Block (hs : List UInt32) (block : List Nat) : List UInt32 :=
  let turn (x : UInt32) (a b c : UInt32) : UInt32 :=
    rotateRight x a ^^^ rotateRight x b ^^^ rotateRight x c
  let ws := schedule 64 (fun ws i =>
    let (x, y) := (ws.getD (i - 15) 0, ws.getD (i - 2) 0)
    ws.getD (i - 16) 0 + (rotateRight x 7 ^^^ rotateRight x 18 ^^^ (x >>> 3)) +
      ws.getD (i - 7) 0 + (rotateRight y 17 ^^^ rotateRight y 19 ^^^ (y >>> 10))) block
  let words := ws.toList.zip sha256Words.toList
  let vs := words.foldl (fun vs (w, k) =>
    mixed (turn · 2 13 22) (turn · 6 11 25) (k + w) vs) hs
  (hs.zip vs).map fun (x, y) => x + y

def sha256With (start : List UInt32) (bs : List Nat) : List Char :=
  ((padded 64 8 bigEndian bs).foldl sha256Block start).flatMap fun w => hex 4 w.toNat

def sha256 (bs : List Nat) : List Char :=
  sha256With ((primes.take 8).map fun p => UInt32.ofNat (rootBits 2 32 p)) bs

def sha224 (bs : List Nat) : List Char :=
  let start := ((primes.drop 8).take 8).map fun p => UInt32.ofNat (rootBits 2 64 p % 2 ^ 32)
  (sha256With start bs).take 56

/-! ## Words of 64 bits -/

def rotateRight64 (x : UInt64) (n : UInt64) : UInt64 := (x >>> n) ||| (x <<< (64 - n))

def sha512Words : Array UInt64 :=
  ((primes.take 80).map fun p => UInt64.ofNat (rootBits 3 64 p)).toArray

def sha512Block (hs : List UInt64) (block : List Nat) : List UInt64 :=
  let turn (x : UInt64) (a b c : UInt64) : UInt64 :=
    rotateRight64 x a ^^^ rotateRight64 x b ^^^ rotateRight64 x c
  let first := ((blocksOf 8 16 block).map fun bs => UInt64.ofNat (ofBigEndian bs)).toArray
  let ws := (List.range' 16 64).foldl (fun (ws : Array UInt64) i =>
    let (x, y) := (ws.getD (i - 15) 0, ws.getD (i - 2) 0)
    ws.push (ws.getD (i - 16) 0 + (rotateRight64 x 1 ^^^ rotateRight64 x 8 ^^^ (x >>> 7)) +
      ws.getD (i - 7) 0 + (rotateRight64 y 19 ^^^ rotateRight64 y 61 ^^^ (y >>> 6)))) first
  let words := ws.toList.zip sha512Words.toList
  let vs := words.foldl (fun vs (w, k) =>
    mixed (turn · 28 34 39) (turn · 14 18 41) (k + w) vs) hs
  (hs.zip vs).map fun (x, y) => x + y

def sha512With (start : List UInt64) (bs : List Nat) : List Char :=
  ((padded 128 16 bigEndian bs).foldl sha512Block start).flatMap fun w => hex 8 w.toNat

def sha512 (bs : List Nat) : List Char :=
  sha512With ((primes.take 8).map fun p => UInt64.ofNat (rootBits 2 64 p)) bs

def sha384 (bs : List Nat) : List Char :=
  let start := ((primes.drop 8).take 8).map fun p => UInt64.ofNat (rootBits 2 64 p)
  (sha512With start bs).take 96

/-- The orders in which the rounds of the last digest take the words of a block. -/
def blakeOrders : List (List Nat) :=
  [[0, 1, 2, 3, 4, 5, 6, 7, 8, 9, 10, 11, 12, 13, 14, 15],
    [14, 10, 4, 8, 9, 15, 13, 6, 1, 12, 0, 2, 11, 7, 5, 3],
    [11, 8, 12, 0, 5, 2, 15, 13, 10, 14, 3, 6, 7, 1, 9, 4],
    [7, 9, 3, 1, 13, 12, 11, 14, 2, 6, 5, 10, 4, 0, 15, 8],
    [9, 0, 5, 7, 2, 4, 10, 15, 14, 1, 11, 12, 6, 8, 3, 13],
    [2, 12, 6, 10, 0, 11, 8, 3, 4, 13, 7, 5, 15, 14, 1, 9],
    [12, 5, 1, 15, 14, 13, 4, 10, 0, 7, 6, 3, 9, 2, 8, 11],
    [13, 11, 7, 14, 12, 1, 3, 9, 5, 0, 15, 4, 8, 6, 2, 10],
    [6, 15, 14, 9, 11, 3, 0, 8, 12, 2, 13, 7, 1, 4, 10, 5],
    [10, 2, 8, 4, 7, 6, 1, 5, 15, 11, 9, 14, 3, 12, 13, 0]]

/-- The places of four values that are mixed together, one after the other. -/
def blakePlaces : List (Nat × Nat × Nat × Nat) :=
  [(0, 4, 8, 12), (1, 5, 9, 13), (2, 6, 10, 14), (3, 7, 11, 15),
    (0, 5, 10, 15), (1, 6, 11, 12), (2, 7, 8, 13), (3, 4, 9, 14)]

/-- The words that a digest of 64 bytes begins with. -/
def blakeStart : List UInt64 := (primes.take 8).map fun p => UInt64.ofNat (rootBits 2 64 p)

def blakeBlock (hs : List UInt64) (block : List Nat) (read : Nat) (last : Bool) :
    List UInt64 :=
  let ws := ((blocksOf 8 16 block).map fun bs => UInt64.ofNat (ofBigEndian bs.reverse)).toArray
  let ivs := ((List.range 8).zip blakeStart).map fun (i, v) =>
    if i = 4 then v ^^^ UInt64.ofNat read else if i = 6 ∧ last then ~~~v else v
  let mix (vs : Array UInt64) (place : Nat × Nat × Nat × Nat) (x y : UInt64) : Array UInt64 :=
    let (i, j, k, l) := place
    let get (n : Nat) : UInt64 := vs.getD n 0
    let a := get i + get j + x
    let d := rotateRight64 (get l ^^^ a) 32
    let c := get k + d
    let b := rotateRight64 (get j ^^^ c) 24
    let a := a + b + y
    let d := rotateRight64 (d ^^^ a) 16
    let c := c + d
    let b := rotateRight64 (b ^^^ c) 63
    (((vs.set! i a).set! j b).set! k c).set! l d
  let round (vs : Array UInt64) (r : Nat) : Array UInt64 :=
    let order := (blakeOrders.getD (r % 10) []).toArray
    ((List.range 8).zip blakePlaces).foldl (fun vs (i, place) =>
      mix vs place (ws.getD (order.getD (2 * i) 0) 0) (ws.getD (order.getD (2 * i + 1) 0) 0)) vs
  let vs := (List.range 12).foldl round (hs ++ ivs).toArray
  ((List.range 8).zip hs).map fun (i, h) => h ^^^ vs.getD i 0 ^^^ vs.getD (i + 8) 0

def blake2b (bs : List Nat) : List Char :=
  let size := bs.length
  let count := max 1 ((size + 127) / 128)
  let start := ((List.range 8).zip blakeStart).map fun (i, v) =>
    if i = 0 then v ^^^ 0x01010040 else v
  let blocks := blocksOf 128 count (bs ++ List.replicate (128 * count - size) 0)
  let hs := ((List.range count).zip blocks).foldl (fun hs (i, block) =>
    blakeBlock hs block (min size (128 * (i + 1))) (i + 1 == count)) start
  hs.flatMap fun w => (littleEndian 8 w.toNat).flatMap (hex 1)

/-! ## Sums -/

/-- One byte more in a remainder of polynomials. -/
def crcByte (crc : UInt32) (b : Nat) : UInt32 :=
  (List.range 8).foldl (fun (c : UInt32) _ =>
    if c &&& 0x80000000 != 0 then (c <<< 1) ^^^ 0x04c11db7 else c <<< 1)
    (crc ^^^ (UInt32.ofNat b <<< 24))

/-- The remainder of a text with its length behind it. -/
def crc (bs : List Nat) : Nat :=
  let size := bs.length
  let bytes := (littleEndian 8 size).reverse.dropWhile (· == 0)
  (~~~((bs ++ bytes.reverse).foldl crcByte 0)).toNat

/-- A sum of 16 bits that is turned by a bit before each byte. -/
def turningSum (bs : List Nat) : Nat :=
  bs.foldl (fun n b => (n / 2 + n % 2 * 32768 + b) % 65536) 0

/-- A sum whose upper half is added to the lower one. -/
def foldedSum (bs : List Nat) : Nat :=
  let n := bs.foldl (· + ·) 0 % 2 ^ 32
  let n := n % 65536 + n / 65536
  n % 65536 + n / 65536

end Checksum

namespace Utility

/-- The numbers of bytes. -/
def bytesOf (text : List Char) : List Nat := text.map Char.toNat

/-- A kind of digest: its name, its length in digits, and how it is made. -/
structure Digest where
  title : String
  size : Nat
  make : List Nat → List Char

/-- A line of a list of digests: the digest and the name of the file. -/
def digestLine? (d : Digest) (line : List Char) : Option (List Char × String) :=
  let line := if line.getLast? = some '\r' then line.dropLast else line
  let isDigest (cs : List Char) : Bool := cs.length == d.size && cs.all Printf.isHex
  let lead := (d.title ++ " (").toList
  if lead.isPrefixOf line then
    let sum := line.drop (line.length - d.size)
    let rest := (line.take (line.length - d.size)).drop lead.length
    let tail := ") = ".toList
    if isDigest sum ∧ tail.isSuffixOf rest then
      some (sum, String.ofList (rest.take (rest.length - tail.length)))
    else none
  else
    let sum := line.take d.size
    match line.drop d.size with
    | ' ' :: c :: c' :: name =>
      if !isDigest sum then none
      else if c = ' ' ∨ c = '*' then some (sum, String.ofList (c' :: name))
      else some (sum, String.ofList (c :: c' :: name))
    | _ => none

/-- Results of a comparison with a list of digests. -/
structure Comparison where
  malformed : Nat
  unreadable : Nat
  wrong : Nat
  right : Nat

/-- So many of something. -/
def warning (n : Nat) (one many : String) : StateM State Unit :=
  if n = 0 then pure ()
  else complain ("WARNING: " ++ toString n ++ " " ++ if n = 1 then one else many)

/-- Compares files with a list of digests. -/
def compareDigests (d : Digest) (a : Arguments) (operand : String) : StateM State Nat := do
  let title := if operand = "-" then "'standard input'" else fileTitle operand
  match ← readOperand operand with
  | .error e => complain (ofOperand operand (cause e)); return 1
  | .ok text =>
    let c ← (linesUpTo '\n' text).foldlM (fun (c : Comparison) line => do
      if line = [] ∨ line.head? = some '#' then return c
      match digestLine? d line with
      | none => return { c with malformed := c.malformed + 1 }
      | some (sum, name) =>
        match ← readOperand name with
        | .error e =>
          if a.has 'ι' ∧ e = .noSuchFile then return c
          complain (ofOperand name (cause e))
          if !a.has 'σ' then writeLine (name ++ ": FAILED open or read")
          return { c with unreadable := c.unreadable + 1 }
        | .ok content =>
          if d.make (bytesOf content) = sum.map Char.toLower then
            if !a.has 'σ' ∧ !a.has 'κ' then writeLine (name ++ ": OK")
            return { c with right := c.right + 1 }
          else
            if !a.has 'σ' then writeLine (name ++ ": FAILED")
            return { c with wrong := c.wrong + 1 }) ⟨0, 0, 0, 0⟩
    if c.right + c.wrong + c.unreadable = 0 then
      if c.malformed ≠ 0 ∨ !a.has 'ι' then
        complain (title ++ ": no properly formatted " ++ d.title ++ " checksum lines found")
      return 1
    if !a.has 'σ' then
      warning c.malformed "line is improperly formatted" "lines are improperly formatted"
      warning c.unreadable "listed file could not be read" "listed files could not be read"
      warning c.wrong "computed checksum did NOT match" "computed checksums did NOT match"
    if a.has 'ι' ∧ c.right = 0 then
      if !a.has 'σ' then complain (title ++ ": no file was verified")
      return 1
    return if c.wrong + c.unreadable = 0 ∧ !(a.has 'ς' ∧ c.malformed ≠ 0) then 0 else 1

/-- Writes the digests of files, or compares them with a list. -/
def digest (d : Digest) : Utility :=
  withOptions (.of "bctwzικσςγ" [("binary", 'b'), ("check", 'c'), ("text", 't'), ("warn", 'w'),
    ("zero", 'z'), ("ignore-missing", 'ι'), ("quiet", 'κ'), ("status", 'σ'), ("strict", 'ς'),
    ("tag", 'γ')]) 1 fun a => do
    let operands := if a.operands = [] then ["-"] else a.operands
    if a.has 'c' then
      operands.foldlM (fun status operand =>
        return max status (← compareDigests d a operand)) 0
    else
      forOperands ofOperand 1 a.operands fun operand text =>
        let sum := String.ofList (d.make (bytesOf text))
        let escapes : Bool := !a.has 'z' && operand.toList.any fun c => c == '\\' || c == '\n'
        let name := if escapes then
            (operand.replace "\\" "\\\\").replace "\n" "\\n"
          else operand
        let line := if a.has 'γ' then d.title ++ " (" ++ name ++ ") = " ++ sum
          else sum ++ " " ++ (if a.has 'b' then "*" else " ") ++ name
        write ((if escapes then "\\" else "") ++ line ++
          (if a.has 'z' then "\x00" else "\n")).toList

/-- The kinds of digests, by the programs that make them. -/
def digests : List (String × Digest) :=
  [("md5sum", ⟨"MD5", 32, Checksum.md5⟩), ("sha1sum", ⟨"SHA1", 40, Checksum.sha1⟩),
    ("sha224sum", ⟨"SHA224", 56, Checksum.sha224⟩), ("sha256sum", ⟨"SHA256", 64, Checksum.sha256⟩),
    ("sha384sum", ⟨"SHA384", 96, Checksum.sha384⟩), ("sha512sum", ⟨"SHA512", 128, Checksum.sha512⟩),
    ("b2sum", ⟨"BLAKE2b", 128, Checksum.blake2b⟩)]

/-- Writes sums of the bytes of files, or a digest of another kind. -/
def cksum : Utility :=
  withOptions (.of "a:zτ" [("algorithm", 'a'), ("untagged", 'τ')]) 1 fun a => do
  let kind := (a.value? 'a').getD "crc"
  let size (text : List Char) : String := toString text.length
  match (digests.map fun (name, d) => (name.dropEnd 3 |>.toString, d)).lookup kind with
  | some d =>
    let d := if kind = "b2" then { d with title := "BLAKE2b" } else d
    forOperands ofOperand 1 a.operands fun operand text =>
      let sum := String.ofList (d.make (bytesOf text))
      writeLine (if a.has 'τ' then sum ++ "  " ++ operand
        else d.title ++ " (" ++ operand ++ ") = " ++ sum)
  | none =>
    if kind ≠ "crc" then
      return ← misuse 1 ("invalid argument " ++ quoted kind ++ " for '--algorithm'")
    forOperands ofOperand 1 a.operands fun operand text =>
      writeLine (toString (Checksum.crc (bytesOf text)) ++ " " ++ size text ++
        if a.operands = [] then "" else " " ++ operand)

/-- Writes short sums and numbers of blocks. -/
def sum : Utility := withOptions (.of "rs" [("sysv", 's')]) 1 fun a => do
  let folded : Bool := ((a.options.map Prod.fst).getLast?.map (· == 's')).getD false
  let titled (operand : String) : String := if a.operands = [] then "" else " " ++ operand
  forOperands ofOperand 1 a.operands fun operand text =>
    let bs := bytesOf text
    if folded then
      writeLine (toString (Checksum.foldedSum bs) ++ " " ++ toString ((bs.length + 511) / 512) ++
        titled operand)
    else
      let field (fill : Char) (n : Nat) : String :=
        String.ofList (Printf.pad false fill 5 (toString n).toList)
      writeLine (field '0' (Checksum.turningSum bs) ++ " " ++
        field ' ' ((bs.length + 1023) / 1024) ++
        titled operand)

end Utility

end PlaybookScan.Shell

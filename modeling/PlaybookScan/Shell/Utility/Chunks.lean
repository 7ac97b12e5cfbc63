import PlaybookScan.Shell.Utility.Files

/-!
# Files in pieces

A file is cut into pieces by lines or bytes, or into so many of them, each of which becomes a file
with a name of its own.
-/

set_option autoImplicit false

namespace PlaybookScan.Shell.Utility

namespace Chunks

/-- How a file is cut. -/
inductive Cutting where
  | lines (count : Nat)
  | bytes (count : Nat)
  /-- As many whole lines as fit. -/
  | lineBytes (count : Nat)
  /-- So many pieces; if `only` is given, that one alone is written. -/
  | number (count : Nat) (only : Option Nat)
  | numberOfLines (count : Nat) (only : Option Nat)
  | turns (count : Nat) (only : Option Nat)

/-- Elements in groups; `fuel` bounds their number. -/
def grouped {α : Type} (size : Nat) : Nat → List α → List (List α)
  | 0, _ => []
  | fuel + 1, xs => if xs.isEmpty then [] else xs.take size :: grouped size fuel (xs.drop size)

/-- Lines put together while they fit into `size` bytes; longer ones are cut. -/
def packed (size : Nat) : Nat → List Char → List (List Char) → List (List Char)
  | 0, piece, _ => [piece]
  | _, piece, [] => if piece = [] then [] else [piece]
  | fuel + 1, piece, line :: rest =>
    if piece.length + line.length ≤ size then packed size fuel (piece ++ line) rest
    else if piece ≠ [] then piece :: packed size fuel [] (line :: rest)
    else line.take size :: packed size fuel [] (line.drop size :: rest)

/-- Whole lines in so many pieces of about the same size: the piece with number `n` ends with the
line that its last byte is part of. -/
def byLines (ends : List Nat) (written : Nat) (piece : List Char) :
    List (List Char) → List (List Char)
  | [] => piece :: List.replicate (ends.length - 1) []
  | line :: rest =>
    match ends with
    | stop :: _ :: _ =>
      let behind := written + line.length
      if stop ≤ behind then
        let passed := (ends.dropLast.takeWhile (· ≤ behind)).length
        (piece ++ line) :: (List.replicate (passed - 1) [] ++
          byLines (ends.drop passed) behind [] rest)
      else byLines ends behind (piece ++ line) rest
    | _ => byLines ends written (piece ++ line) rest

/-- The pieces of a text, where `stop` ends lines. -/
def cut (stop : Char) (text : List Char) : Cutting → List (List Char)
  | .lines n =>
    (grouped n (text.length + 1) (linesOf text)).map List.flatten
  | .bytes n => grouped n (text.length + 1) text
  | .lineBytes n => packed n (2 * text.length + 2) [] (linesOf text)
  | .number n _ =>
    let size := text.length / n
    (List.range n).map fun i =>
      if i + 1 = n then text.drop (i * size) else (text.drop (i * size)).take size
  | .numberOfLines n _ =>
    let size := text.length / n
    let ends := (List.range n).map fun i => if i + 1 = n then text.length else (i + 1) * size
    byLines ends 0 [] (linesOf text)
  | .turns n _ =>
    let rows := grouped n (text.length + 1) (linesOf text)
    (List.range n).map fun i => (rows.filterMap (·[i]?)).flatten
where
  linesOf (text : List Char) : List (List Char) :=
    let pieces := text.splitOn stop
    pieces.dropLast.map (· ++ [stop]) ++ (pieces.getLast?.toList.filter (· ≠ []))

/-- A text with letters for a number, in so many places. -/
def places (letters : List Char) (count n : Nat) : List Char :=
  (List.range count).map fun i =>
    letters.getD (n / letters.length ^ (count - 1 - i) % letters.length) '?'

/-- The text for the number of a piece: two letters, and more where these begin with the last
letter of the alphabet. -/
def widening (letters : List Char) (n : Nat) : Nat → List Char
  | 0 => []
  | fuel + 1 => go 2 n (fuel + 1)
where
  go (width n : Nat) : Nat → List Char
    | 0 => []
    | fuel + 1 =>
      let size := letters.length
      let count := (size - 1) * size ^ (width - 1)
      if n < count then
        List.replicate (width - 2) (letters.getLastD 'z') ++ places letters width n
      else go (width + 1) (n - count) fuel

/-- The number of pieces, with what is in front of it. -/
def ofText (text : String) : Except String Cutting := do
  let (kind, rest) := match text.splitOn "/" with
    | "l" :: rest => ('l', rest)
    | "r" :: rest => ('r', rest)
    | rest => (' ', rest)
  let count (t : String) : Except String Nat := match Sizes.read? t with
    | some (n + 1) => .ok (n + 1)
    | _ => .error ("invalid number of chunks: " ++ quoted t)
  let (only, n) ← match rest with
    | [n] => pure (none, ← count n)
    | [k, n] =>
      let n ← count n
      let i := (Sizes.read? k).getD 0
      if i = 0 ∨ n < i then throw ("invalid chunk number: " ++ quoted k)
      pure (some i, n)
    | _ => throw ("invalid number of chunks: " ++ quoted text)
  return match kind with
    | 'l' => .numberOfLines n only
    | 'r' => .turns n only
    | _ => .number n only

/-- The way of cutting that an option asks for. -/
def ofOption (letter : Char) (value : String) : Except String Cutting :=
  match letter with
  | 'n' => ofText value
  | letter =>
    let what := if letter = 'l' then "lines" else "bytes"
    match Sizes.read? value with
    | some (n + 1) => .ok (match letter with
      | 'l' => .lines (n + 1)
      | 'b' => .bytes (n + 1)
      | _ => .lineBytes (n + 1))
    | _ => .error ("invalid number of " ++ what ++ ": " ++ quoted value)

def Cutting.only? : Cutting → Option Nat
  | .number _ only | .numberOfLines _ only | .turns _ only => only
  | _ => none

/-- Options like `-5`, as numbers of lines. -/
def modern (arg : String) : String :=
  match arg.toList with
  | '-' :: d :: ds => if (d :: ds).all Char.isDigit then "-l" ++ String.ofList (d :: ds) else arg
  | _ => arg

end Chunks

/-- Cuts a file into pieces. -/
def split : Utility := fun args =>
  withOptions (.of "a:b:C:del:n:t:uxη::ν::σ:ω" [("suffix-length", 'a'), ("bytes", 'b'),
    ("line-bytes", 'C'), ("elide-empty-files", 'e'), ("lines", 'l'), ("number", 'n'),
    ("separator", 't'), ("unbuffered", 'u'), ("hex-suffixes", 'η'), ("numeric-suffixes", 'ν'),
    ("additional-suffix", 'σ'), ("verbose", 'ω')]) 1 (fun a => do
    let refuse (message : String) : StateM State Nat := do
      complain message
      return 1
    let ways := a.options.filter fun (c, _) => "bCln".contains c
    let starts (c : Char) : Option Nat := (a.value? c).bind String.toNat?
    if ways.length > 1 then return ← misuse 1 "cannot split in more than one way"
    match match ways with
      | (c, v) :: _ => Chunks.ofOption c v
      | [] => .ok (.lines 1000) with
    | .error message => refuse message
    | .ok way =>
    let size := (a.value? 'a').map fun v => (v, v.toNat?)
    if let some (v, none) := size then return ← refuse ("invalid suffix length: " ++ quoted v)
    let extension := (a.value? 'σ').getD ""
    if extension.toList.contains '/' then
      return ← misuse 1
        ("invalid suffix " ++ quoted extension ++ ", contains directory separator")
    let stop := match (a.value? 't').getD "\n" with
      | "\\0" => '\x00'
      | text => text.toList.headD '\n'
    match a.operands with
    | _ :: _ :: extra :: _ => misuse 1 ("extra operand " ++ quoted extra)
    | operands =>
      let operand := operands.headD "-"
      match ← readOperand operand with
      | .error e => refuse ("cannot open " ++ quotedFile operand ++ " for reading: " ++ cause e)
      | .ok text =>
        let pieces := Chunks.cut stop text way
        match way.only? with
        | some n => write (pieces.getD (n - 1) []); return 0
        | none =>
          let pieces := if a.has 'e' then pieces.filter (· ≠ []) else pieces
          let letters := if a.has 'd' || a.has 'ν' then "0123456789".toList
            else if a.has 'x' || a.has 'η' then "0123456789abcdef".toList
            else "abcdefghijklmnopqrstuvwxyz".toList
          let start := ((starts 'ν').orElse fun _ => starts 'η').getD 0
          let width := ((size.bind Prod.snd).filter (0 < ·))
          let width := match width, way with
            | none, .number n _ | none, .numberOfLines n _ | none, .turns n _ =>
              some (max 2 (Nat.toDigits letters.length (n - 1)).length)
            | width, _ => width
          let name (i : Nat) : Option String :=
            let suffix := match width with
              | some w =>
                if letters.length ^ w ≤ i then none else some (Chunks.places letters w i)
              | none => some (Chunks.widening letters i 64)
            suffix.map fun cs => operands.getD 1 "x" ++ String.ofList cs ++ extension
          (List.range pieces.length).foldlM (fun status i => do
            if status ≠ 0 then return status
            match name (start + i) with
            | none => refuse "output file suffixes exhausted"
            | some file =>
              if a.has 'ω' then writeLine ("creating file " ++ quotedFile file)
              match ← openOutput false file with
              | .ok n => modify fun s => (s.write n (pieces.getD i [])).2; return 0
              | .error e => refuse (file ++ ": " ++ cause e)) 0) (args.map Chunks.modern)

end PlaybookScan.Shell.Utility

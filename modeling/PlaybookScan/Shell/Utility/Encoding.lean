import PlaybookScan.Shell.Utility.Stream

/-!
# Bytes as letters

Bytes are written with the letters of an alphabet, each of which stands for some bits. Groups of
letters stand for groups of bytes; a mark fills up the last one.
-/

set_option autoImplicit false

namespace PlaybookScan.Shell.Utility

/-- Letters for numbers of so many bits, and how many letters make a group. -/
structure Alphabet where
  letters : List Char
  bits : Nat
  group : Nat

namespace Alphabet

def upper : List Char := (List.range 26).map fun i => Char.ofNat (65 + i)

def digits : List Char := (List.range 10).map fun i => Char.ofNat (48 + i)

def base64 : Alphabet := ⟨upper ++ upper.map Char.toLower ++ digits ++ ['+', '/'], 6, 4⟩

def base64url : Alphabet := ⟨upper ++ upper.map Char.toLower ++ digits ++ ['-', '_'], 6, 4⟩

def base32 : Alphabet := ⟨upper ++ (digits.drop 2).take 6, 5, 8⟩

def base32hex : Alphabet := ⟨digits ++ upper.take 22, 5, 8⟩

def base16 : Alphabet := ⟨digits ++ upper.take 6, 4, 2⟩

/-- The bits of a number, the highest first. -/
def bitsOf (count n : Nat) : List Bool :=
  (List.range count).map fun i => n / 2 ^ (count - 1 - i) % 2 == 1

def ofBits (bits : List Bool) : Nat := bits.foldl (fun n b => 2 * n + b.toNat) 0

/-- Parts of `size` elements; `fuel` bounds their number. -/
def parts {α : Type} (size : Nat) : Nat → List α → List (List α)
  | 0, _ => []
  | fuel + 1, xs => if xs.isEmpty then [] else xs.take size :: parts size fuel (xs.drop size)

/-- Writes bytes with letters. -/
def encode (a : Alphabet) (text : List Char) : List Char :=
  let bits := text.flatMap fun c => bitsOf 8 c.toNat
  let letters := (parts a.bits (bits.length + 1) bits).map fun p =>
    a.letters.getD (ofBits (p ++ List.replicate (a.bits - p.length) false)) '='
  letters ++ List.replicate ((a.group - letters.length % a.group) % a.group) '='

/-- The bytes of a group, and whether it is well formed. -/
def decodeGroup (a : Alphabet) (group : List Char) : List Char × Bool :=
  let letters := group.takeWhile a.letters.contains
  let bits := letters.flatMap fun c => bitsOf a.bits (a.letters.idxOf c)
  let bytes := (parts 8 (bits.length + 1) bits).filter fun p => p.length == 8
  let marks := group.drop letters.length
  let sizes := (List.range (a.bits + 1)).map fun n => (8 * n + a.bits - 1) / a.bits
  (bytes.map fun p => Char.ofNat (ofBits p),
    group.length == a.group && marks.all (· == '=') && letters != [] &&
      sizes.contains letters.length)

/-- Reads letters back; says whether all was well. -/
def decode (a : Alphabet) : List (List Char) → List Char × Bool
  | [] => ([], true)
  | group :: groups =>
    match a.decodeGroup group with
    | (bytes, true) =>
      let (more, fine) := decode a groups
      (bytes ++ more, fine)
    | found => found

end Alphabet

/-- Encodes or decodes a file. -/
def encoder (a : Arguments) (alphabet : Alphabet) : StateM State Nat := do
  let width := (a.value? 'w').getD "76"
  match width.toNat?, a.operands with
  | none, _ => complain ("invalid wrap size: " ++ quoted width); return 1
  | _, _ :: extra :: _ => misuse 1 ("extra operand " ++ quoted extra)
  | some width, operands =>
    let operand := operands.headD "-"
    match ← readOperand operand with
    | .error e => complain (ofOperand operand (cause e)); return 1
    | .ok text =>
      if a.has 'd' then
        let known (c : Char) : Bool :=
          c != '\n' && (!a.has 'i' || alphabet.letters.contains c || c == '=')
        let letters := text.filter known
        let groups := Alphabet.parts alphabet.group (letters.length + 1) letters
        let (bytes, fine) := alphabet.decode groups
        write bytes
        if fine then return 0
        complain "invalid input"
        return 1
      let letters := alphabet.encode text
      if width = 0 then write letters
      else write ((Alphabet.parts width (letters.length + 1) letters).flatMap (· ++ ['\n']))
      return 0

/-- The options that all encoders have. -/
def encoderNames : List (String × Char) :=
  [("decode", 'd'), ("ignore-garbage", 'i'), ("wrap", 'w')]

def base64 : Utility := withOptions (.of "diw:" encoderNames) 1 fun a => encoder a .base64

def base32 : Utility := withOptions (.of "diw:" encoderNames) 1 fun a => encoder a .base32

/-- Encodes with the alphabet that an option names. -/
def basenc : Utility :=
  withOptions (.of "diw:αβγδε" (encoderNames ++ [("base64", 'α'), ("base64url", 'β'),
    ("base32", 'γ'), ("base32hex", 'δ'), ("base16", 'ε')])) 1 fun a => do
    let alphabets := [('α', Alphabet.base64), ('β', .base64url), ('γ', .base32),
      ('δ', .base32hex), ('ε', .base16)]
    match (a.options.filterMap fun (c, _) => alphabets.lookup c).getLast? with
    | some alphabet => encoder a alphabet
    | none => misuse 1 "missing encoding type"

end PlaybookScan.Shell.Utility

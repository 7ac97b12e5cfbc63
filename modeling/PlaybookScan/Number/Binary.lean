import PlaybookScan.Number.Instances

/-!
# Binary numbers

The numbers that machines calculate with: a whole number of limited length times a power of two.
A value that is not one of them is rounded to the nearest, of two that are equally near to the one
with an even significand. Their decimal texts are found from the exact value.
-/

set_option autoImplicit false

namespace PlaybookScan

/-- The numbers of one size. -/
structure BinaryFormat where
  /-- Binary digits of the significand. -/
  precision : Nat
  /-- Exponent of the smallest number above zero. -/
  least : Int
  /-- All numbers are below two to the power of this. -/
  bound : Int

namespace BinaryFormat

/-- Numbers in 64 bits. -/
def double : BinaryFormat := ⟨53, -1074, 1024⟩

/-- Numbers in 80 bits. -/
def extended : BinaryFormat := ⟨64, -16445, 16384⟩

end BinaryFormat

inductive Binary where
  /-- The value is `significand * 2 ^ exponent`. -/
  | finite (negative : Bool) (significand : Nat) (exponent : Int)
  | infinite (negative : Bool)
  | undefined (negative : Bool)
  deriving DecidableEq, Repr

namespace Binary

/-- `num / den` rounded to a whole number; a half goes to the even neighbour. -/
def nearest (num den : Nat) : Nat :=
  let q := num / den
  let r := num % den
  if 2 * r < den ∨ (2 * r = den ∧ q % 2 = 0) then q else q + 1

/-- `num / den` in units of `base ^ exponent`, as a fraction. -/
def inUnits (base num den : Nat) (exponent : Int) : Nat × Nat :=
  if exponent ≥ 0 then (num, den * base ^ exponent.toNat)
  else (num * base ^ (-exponent).toNat, den)

/-- The number nearest to `num / den`. -/
def round (f : BinaryFormat) (negative : Bool) (num den : Nat) : Binary :=
  if num = 0 then finite negative 0 0
  else
    let place : Int := (num.log2 : Int) - den.log2 - f.precision
    let (a, b) := inUnits 2 num den place
    let e := max f.least (if a / b < 2 ^ f.precision then place else place + 1)
    let (a, b) := inUnits 2 num den e
    let m := nearest a b
    if (m.log2 : Int) + e ≥ f.bound ∧ m ≠ 0 then infinite negative else finite negative m e

def isNegative : Binary → Bool
  | finite negative _ _ | infinite negative | undefined negative => negative

/-- The size of a finite number as a fraction. -/
def ratio (significand : Nat) (exponent : Int) : Nat × Nat :=
  if exponent ≥ 0 then (significand * 2 ^ exponent.toNat, 1)
  else (significand, 2 ^ (-exponent).toNat)

/-- The number that a `Float` holds. -/
def ofFloat (x : Float) : Binary :=
  let bits := x.toBits.toNat
  let negative := bits / 2 ^ 63 = 1
  let exponent : Nat := bits / 2 ^ 52 % 2 ^ 11
  let fraction : Nat := bits % 2 ^ 52
  if exponent = 2047 then if fraction = 0 then infinite negative else undefined negative
  else if exponent = 0 then finite negative fraction (-1074)
  else finite negative (2 ^ 52 + fraction) ((exponent : Int) - 1075)

/-- The `Float` of a number that was rounded to the size of one. -/
def toFloat : Binary → Float
  | finite negative m e =>
    let size := Float.scaleB (Float.ofNat m) e
    if negative then -size else size
  | infinite negative => if negative then -1.0 / 0.0 else 1.0 / 0.0
  | undefined _ => 0.0 / 0.0

/-! ## Calculation -/

/-- A finite number as a fraction with a sign. -/
def signed (negative : Bool) (significand : Nat) (exponent : Int) : Int × Nat :=
  let (num, den) := ratio significand exponent
  (if negative then -(num : Int) else num, den)

def roundSigned (f : BinaryFormat) (num : Int) (den : Nat) : Binary :=
  round f (num < 0) num.natAbs den

def add (f : BinaryFormat) : Binary → Binary → Binary
  | finite n m e, finite n' m' e' =>
    let (a, b) := signed n m e
    let (c, d) := signed n' m' e'
    roundSigned f (a * d + c * b) (b * d)
  | finite .., other | other, finite .. => other
  | infinite n, infinite n' => if n = n' then infinite n else undefined true
  | _, _ => undefined false

def mul (f : BinaryFormat) : Binary → Binary → Binary
  | finite n m e, finite n' m' e' =>
    let (a, b) := ratio m e
    let (c, d) := ratio m' e'
    round f (n != n') (a * c) (b * d)
  | undefined n, _ | _, undefined n => undefined n
  | infinite n, other | other, infinite n => infinite (n != other.isNegative)

/-- The first number is less than the second. -/
def less : Binary → Binary → Bool
  | finite n m e, finite n' m' e' =>
    let (a, b) := signed n m e
    let (c, d) := signed n' m' e'
    decide (a * d < c * b)
  | infinite n, infinite n' => n && !n'
  | infinite n, finite .. => n
  | finite .., infinite n => !n
  | _, _ => false

/-! ## Decimal digits -/

/-- Digits in front of and behind the point, rounded to so many places. -/
def fixed (places num den : Nat) : List Char × List Char :=
  let ds := Nat.toDigits 10 (nearest (num * 10 ^ places) den)
  let ds := List.replicate (places + 1 - ds.length) '0' ++ ds
  (ds.take (ds.length - places), ds.drop (ds.length - places))

/-- The power of ten that the first digit of `num / den` stands for. -/
def decimalPlace (num den : Nat) : Int :=
  let guess : Int := ((num.log2 : Int) - den.log2) * 30103 / 100000
  let fits (x : Int) : Bool :=
    let (a, b) := inUnits 10 num den x
    b ≤ a
  if fits (guess + 1) then guess + 1 else if fits guess then guess else guess - 1

/-- So many digits behind the first one, and the power of ten of that. -/
def scientific (places num den : Nat) : List Char × Int :=
  if num = 0 then (List.replicate (places + 1) '0', 0)
  else
    let x := decimalPlace num den
    let (a, b) := inUnits 10 num den (x - places)
    let ds := Nat.toDigits 10 (nearest a b)
    if ds.length > places + 1 then (ds.take (places + 1), x + 1) else (ds, x)

def dropZeros (ds : List Char) : List Char := (ds.reverse.dropWhile (· == '0')).reverse

/-- How a number is written. -/
inductive DecimalStyle where
  /-- All digits in front of the point, and so many behind it. -/
  | positional
  /-- One digit in front of the point, and a power of ten. -/
  | powered
  /-- The shorter of the two, with so many digits in all. -/
  | general
  deriving DecidableEq, Repr

/-- Digits with a point, if there are some behind it or it is kept. -/
def pointed (keep : Bool) (whole fraction : List Char) : List Char :=
  whole ++ if fraction = [] ∧ !keep then [] else '.' :: fraction

/-- A power of ten. -/
def exponentText (letter : Char) (x : Int) : List Char :=
  let ds := Nat.toDigits 10 x.natAbs
  letter :: (if x < 0 then '-' else '+') :: if ds.length < 2 then '0' :: ds else ds

/-- The text of `num / den`. If `keep`, the point stays also where nothing follows it, and so do
zeros at the end in the general notation. -/
def decimalText (form : DecimalStyle) (precision : Nat) (keep : Bool) (num den : Nat) : List Char :=
  let powered (ds : List Char) (x : Int) : List Char :=
    pointed keep (ds.take 1) (ds.drop 1) ++ exponentText 'e' x
  match form with
  | .positional =>
    let (whole, fraction) := fixed precision num den
    pointed keep whole fraction
  | .powered =>
    let (ds, x) := scientific precision num den
    powered ds x
  | .general =>
    let p := max 1 precision
    let (ds, x) := scientific (p - 1) num den
    if -4 ≤ x ∧ x < p then
      let (whole, fraction) := fixed ((p : Int) - 1 - x).toNat num den
      pointed keep whole (if keep then fraction else dropZeros fraction)
    else powered (ds.take 1 ++ if keep then ds.drop 1 else dropZeros (ds.drop 1)) x

/-! ## Digits in base 16 -/

/-- The text of a number in base 16 with a power of two; `lead` is the count of binary digits that
the first digit stands for. -/
def hexText (f : BinaryFormat) (lead : Nat) (precision : Option Nat) (keep : Bool) (m : Nat)
    (e : Int) : List Char :=
  let behind := f.precision - lead
  let shift : Int := if m = 0 then 0
    else min (((f.precision : Int) - 1) - m.log2) (e - f.least)
  let m := m * 2 ^ shift.toNat
  let x : Int := if m = 0 then 0 else e - shift + behind
  let (whole, ds) := match precision with
    | none =>
      let ds := Nat.toDigits 16 (m % 2 ^ behind)
      let ds := List.replicate (behind / 4 - ds.length) '0' ++ ds
      (m / 2 ^ behind, dropZeros ds)
    | some p =>
      if 4 * p ≥ behind then
        let ds := Nat.toDigits 16 (m % 2 ^ behind)
        let ds := List.replicate (behind / 4 - ds.length) '0' ++ ds
        (m / 2 ^ behind, ds ++ List.replicate (p - ds.length) '0')
      else
        let n := nearest m (2 ^ (behind - 4 * p))
        let ds := Nat.toDigits 16 (n % 16 ^ p)
        (n / 16 ^ p, if p = 0 then [] else List.replicate (p - ds.length) '0' ++ ds)
  '0' :: 'x' :: pointed keep (Nat.toDigits 16 whole) ds ++
    'p' :: (if x < 0 then '-' else '+') :: Nat.toDigits 10 x.natAbs

/-! ## Reading -/

def isBlankByte (c : Char) : Bool := c == ' ' || ('\t' ≤ c && c ≤ '\r')

/-- What is left behind a word, if the text starts with it in any case. -/
def word? (word : String) (cs : List Char) : Option (List Char) :=
  if (cs.take word.length).map Char.toLower = word.toList then some (cs.drop word.length) else none

def digitOf (c : Char) : Nat :=
  if c.isDigit then c.toNat - 48 else if c.isAlpha then c.toLower.toNat - 87 else 36

/-- The value of digits. -/
def valueOf (base : Nat) (ds : List Char) : Nat := ds.foldl (fun n d => base * n + digitOf d) 0

/-- An exponent behind one of these letters: its value, and what is left. -/
def exponent? (letter : Char) (cs : List Char) : Option (Int × List Char) :=
  match cs with
  | c :: rest =>
    if c.toLower ≠ letter then none
    else
      let (negative, rest) := match rest with
        | '-' :: rest => (true, rest)
        | '+' :: rest => (false, rest)
        | rest => (false, rest)
      match rest.takeWhile Char.isDigit with
      | [] => none
      | ds =>
        -- a larger exponent makes no difference
        let n : Int := min 100000 (valueOf 10 ds)
        some (if negative then -n else n, rest.dropWhile Char.isDigit)
  | [] => none

/-- What was read from a text. -/
structure Reading where
  value : Binary
  /-- The number is too large, or too close to zero to be held with all its digits. -/
  outOfRange : Bool
  rest : List Char

/-- A number in digits of a base, with an exponent of `power` behind the letter. -/
def digits? (f : BinaryFormat) (negative : Bool) (base : Nat) (letter : Char) (power : Nat)
    (cs : List Char) : Option Reading :=
  let isDigit (c : Char) : Bool := digitOf c < base
  let whole := cs.takeWhile isDigit
  let rest := cs.drop whole.length
  let (fraction, rest) := match rest with
    | '.' :: after => (after.takeWhile isDigit, after.dropWhile isDigit)
    | rest => ([], rest)
  if whole = [] ∧ fraction = [] then none
  else
    let rest := if whole = [] ∧ fraction = [] then cs else rest
    let n := valueOf base (whole ++ fraction)
    let (x, rest) := (exponent? letter rest).getD (0, rest)
    let den := base ^ fraction.length
    let (num, den) := if x ≥ 0 then (n * power ^ x.toNat, den) else (n, den * power ^ (-x).toNat)
    let value := round f negative num den
    let outOfRange := match value with
      | finite _ m e =>
        let (a, b) := ratio m e
        n ≠ 0 && m.log2 + 1 < f.precision && e == f.least && a * den != num * b
      | _ => true
    some ⟨value, outOfRange, rest⟩

/-- Reads the number that a text starts with. -/
def read? (f : BinaryFormat) (cs : List Char) : Option Reading :=
  let cs := cs.dropWhile isBlankByte
  let (negative, cs) := match cs with
    | '-' :: cs => (true, cs)
    | '+' :: cs => (false, cs)
    | cs => (false, cs)
  match word? "infinity" cs, word? "inf" cs, word? "nan" cs with
  | some rest, _, _ | none, some rest, _ => some ⟨infinite negative, false, rest⟩
  | none, none, some rest =>
    let inner := match rest with
      | '(' :: inner => match inner.dropWhile fun (c : Char) => c.isAlphanum || c == '_' with
        | ')' :: after => some after
        | _ => none
      | _ => none
    some ⟨undefined negative, false, inner.getD rest⟩
  | none, none, none =>
    match word? "0x" cs with
    | some rest => match digits? f negative 16 'p' 2 rest with
      | some found => some found
      | none => some ⟨finite negative 0 0, false, cs.drop 1⟩
    | none => digits? f negative 10 'e' 10 cs

end Binary

end PlaybookScan

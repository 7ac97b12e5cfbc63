import PlaybookScan.Shell.Utility.Printf

/-!
# Values of record programs

A value is a number or a text; a text that was read counts as a number if it looks like one.
-/

set_option autoImplicit false

namespace PlaybookScan.Shell.Awk

inductive Value where
  /-- Nothing has been assigned yet. -/
  | missing
  | number (x : Float)
  | text (s : String)
  /-- A text that was read. -/
  | input (s : String)
  deriving Inhabited

/-! ## Numbers -/

/-- The number that a text starts with. -/
def leadingNumber (s : String) : Float :=
  match Binary.read? .double s.toList with
  | some r => r.value.toFloat
  | none => 0

/-- The number that a text is, if it looks like one. -/
def numeral? (s : String) : Option Float :=
  let cs := s.toList.dropWhile Binary.isBlankByte
  let back := cs.reverse.dropWhile Binary.isBlankByte
  match cs, back with
  | first :: _, last :: _ =>
    if (first.isDigit || "+-.".contains first) && (last.isDigit || last == '.') then
      (Binary.read? .double back.reverse).bind fun r =>
        if r.rest.isEmpty then some r.value.toFloat else none
    else none
  | _, _ => none

/-- The whole number that a number is, if it is one that fits in 64 bits. -/
def wholeOf? (x : Float) : Option Int :=
  if x.abs < 9007199254740992.0 then
    if x.floor == x then some x.toInt64.toInt else none
  else match Binary.ofFloat x with
    | .finite negative m e =>
      let (num, _) := Binary.ratio m e
      let n : Int := if negative then -(num : Int) else num
      if -(2 ^ 63) ≤ n ∧ n ≤ 2 ^ 64 then some (min n (2 ^ 64 - 1)) else none
    | _ => none

/-- The number without its fraction, within 64 bits. -/
def clipped (x : Float) : Int :=
  match Binary.ofFloat x with
  | .finite negative m e =>
    let (num, den) := Binary.ratio m e
    let n : Int := num / den
    max (-(2 ^ 63)) (min (if negative then -n else n) (2 ^ 64 - 1))
  | .infinite negative => if negative then -(2 ^ 63) else 2 ^ 63 - 1
  | .undefined _ => -(2 ^ 63)

/-- The remainder of a division whose quotient is cut. -/
def remainder (x y : Float) : Float :=
  match Binary.ofFloat x, Binary.ofFloat y with
  | .finite n m e, .finite _ m' e' =>
    let (a, b) := Binary.ratio m e
    let (c, d) := Binary.ratio m' e'
    if c = 0 then 0.0 / 0.0
    else (Binary.round .double n ((a * d) % (c * b)) (b * d)).toFloat
  | .finite .., .infinite _ => x
  | _, _ => 0.0 / 0.0

/-- The number without its fraction. -/
def cut (x : Float) : Float := if x < 0 then x.ceil else x.floor

namespace Value

def toNumber : Value → Float
  | missing => 0
  | number x => x
  | text s | input s => leadingNumber s

/-- The number that the value counts as in comparisons. -/
def numeral? : Value → Option Float
  | missing => some 0
  | number x => some x
  | text _ => none
  | input s => Awk.numeral? s

def truth : Value → Bool
  | missing => false
  | number x => x != 0
  | text s => s != ""
  | input s => match Awk.numeral? s with
    | some x => x != 0
    | none => s != ""

def ofBool (p : Bool) : Value := number (if p then 1 else 0)

end Value

/-! ## Formats -/

/-- What is wrong with a format. -/
inductive FormatFault where
  | tooFew
  /-- A conversion that there is not, and how many have come before it. -/
  | improper (count : Nat)

/-- The text of a number by the usual notation for numbers with a fraction. -/
def usual (x : Float) : String :=
  let shape : Printf.Shape := ⟨[], 0, false, some 6⟩
  match Binary.ofFloat x with
  | .undefined _ => "-nan"
  | b => String.ofList (shape.real .double 'g' b)

/-- One conversion of a number. -/
def numberText (shape : Printf.Shape) (conversion : Char) (x : Float) : List Char :=
  if Printf.isFloating conversion then
    let b := match Binary.ofFloat x with
      | .undefined _ => .undefined true
      | b => b
    shape.real .double conversion b
  else shape.integer conversion (clipped x)

/-- A width or a precision in a format: the number, whether it stands there, and what follows. -/
def formatSize (args : List Value) (cs : List Char) :
    Option (Option Int × List Value × List Char) :=
  match cs, args with
  | '*' :: rest, v :: args => some (some (clipped v.toNumber), args, rest)
  | '*' :: _, [] => none
  | cs, args => match cs.takeWhile Char.isDigit with
    | [] => some (none, args, cs)
    | ds => some (some (Printf.number 10 ds), args, cs.drop ds.length)

/-- What a format gives, and what is wrong with it; `shown` tells the text of a value, and `fuel` is
the length of the format. -/
def formatted (shown : Value → String) (fuel count : Nat) (args : List Value) (cs : List Char) :
    List Char × Option FormatFault :=
  match fuel, cs with
  | _, [] | 0, _ => ([], none)
  | fuel + 1, '%' :: '%' :: rest =>
    let (more, fault) := formatted shown fuel count args rest
    ('%' :: more, fault)
  | fuel + 1, '%' :: rest =>
    let flags := rest.takeWhile fun c => "-+ #0'".contains c
    match formatSize args (rest.drop flags.length) with
    | none => ([], some .tooFew)
    | some (width, args, rest) =>
      let found : Option (Option Int × List Value × List Char) := match rest with
        | '.' :: rest => (formatSize args rest).map fun (n, args, rest) =>
            (some (n.getD 0), args, rest)
        | rest => some (none, args, rest)
      match found with
      | none => ([], some .tooFew)
      | some (precision, args, rest) =>
        match rest.dropWhile fun c => "hlLqj".contains c with
        | [] => ([], some (.improper (count + 1)))
        | c :: rest =>
          if !("scdiuoxX".contains c || "eEfFgGaA".contains c) then
            ([], some (.improper (count + 1)))
          else match args with
          | [] => ([], some .tooFew)
          | v :: args =>
            let shape : Printf.Shape :=
              { flags, width := (width.map Int.natAbs).getD 0
                left := flags.contains '-' || (width.map fun n => decide (n < 0)).getD false
                precision := precision.bind fun n => if n < 0 then none else some n.toNat }
            let put (cs : List Char) : List Char := Printf.pad shape.left ' ' shape.width cs
            let piece := match c with
              | 's' =>
                let cs := (shown v).toList
                put (match shape.precision with
                  | some n => cs.take n
                  | none => cs)
              | 'c' => match v, v.numeral? with
                | .missing, _ => put ['\x00']
                | _, some x => put [Char.ofNat ((clipped x) % 256).toNat]
                | _, none => put [(shown v).toList.headD '\x00']
              | c => numberText shape c v.toNumber
            let (more, fault) := formatted shown fuel (count + 1) args rest
            (piece ++ more, fault)
  | fuel + 1, c :: rest =>
    let (more, fault) := formatted shown fuel count args rest
    (c :: more, fault)

/-- The text of a number: a whole number in full, others by a format. -/
def numberShown (format : String) (x : Float) : String :=
  match wholeOf? x with
  | some n => toString n
  | none =>
    if format = "%.6g" then usual x
    else String.ofList
      (formatted (fun _ => "") format.length 0 [.number x] format.toList).1

/-- The text of a value. -/
def Value.shown (format : String) : Value → String
  | .missing => ""
  | .number x => numberShown format x
  | .text s | .input s => s

/-- The value of a comparison: texts are compared unless both values count as numbers. -/
def Value.compare (format : String) (holds : Ordering → Bool) (a b : Value) : Bool :=
  match a, b with
  | .missing, .text s => holds (Ord.compare "" s)
  | .text s, .missing => holds (Ord.compare s "")
  | a, b => match a.numeral?, b.numeral? with
    | some x, some y =>
      if x < y then holds .lt else if y < x then holds .gt
      else if x == y then holds .eq else holds .gt
    | _, _ => holds (Ord.compare (a.shown format) (b.shown format))

end PlaybookScan.Shell.Awk

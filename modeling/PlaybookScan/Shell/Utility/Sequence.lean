import PlaybookScan.Shell.Utility.Basic
import PlaybookScan.Shell.Utility.Printf

/-!
# Sequences of numbers

Numbers in equal steps, written in a format that follows from how the bounds are written, and the
prime factors of numbers.
-/

set_option autoImplicit false

namespace PlaybookScan.Shell.Utility

namespace Sequence

/-- A bound or a step: its value, and how wide and with how many digits behind the point it is
written, if that is known. -/
structure Bound where
  value : Binary
  width : Int
  places : Option Nat

/-- The width and the places of a number as it is written. -/
def layout (finite : Bool) (cs : List Char) : Int × Option Nat :=
  let hasPoint := cs.contains '.'
  let whole := cs.takeWhile (· != '.')
  let behind := (cs.dropWhile (· != '.')).drop 1
  let start : Option Nat := if !hasPoint && !cs.contains 'p' then some 0 else none
  if cs.contains 'x' || cs.contains 'X' || !finite then (0, start)
  else
    let isExponent (c : Char) : Bool := c == 'e' || c == 'E'
    let fraction := (behind.takeWhile (!isExponent ·)).length
    let bare : Bool := !(whole.getLast?.map Char.isDigit).getD false
    let width : Int := cs.length
    let (width, places) : Int × Option Nat :=
      if !hasPoint then (width, start)
      else (width + (if fraction = 0 then -1 else if bare then 1 else 0), some fraction)
    match cs.dropWhile (!isExponent ·) with
    | [] => (width, places)
    | e =>
      let x := ((Binary.exponent? 'e' e).map Prod.fst).getD 0
      let width := width - e.length
      if x < 0 then
        let width := if !hasPoint || fraction == 0 then width + 1 else width
        (width - x, places.map (· + x.natAbs))
      else
        let places := places.map (· - x.toNat)
        let width := if hasPoint && places == some 0 && fraction != 0 then width - 1 else width
        (width + (x.toNat - fraction : Nat), places)

/-- Reads a bound. -/
def Bound.read (text : String) : Except String Bound :=
  match Binary.read? .extended text.toList with
  | some ⟨.undefined _, _, []⟩ => .error ("invalid 'not-a-number' argument: " ++ quoted text)
  | some ⟨value, _, []⟩ =>
    let finite : Bool := match value with
      | .finite .. => true
      | _ => false
    let (width, places) :=
      layout finite (text.toList.dropWhile fun c => Arithmetic.isSpace c || c == '+')
    .ok ⟨value, width, places⟩
  | _ => .error ("invalid floating point argument: " ++ quoted text)

/-- Text around a number, and how that is written. -/
structure Format where
  before : List Char
  directive : Printf.Directive
  behind : List Char

def Format.text (f : Format) (x : Binary) : List Char :=
  let width : Nat := match f.directive.width with
    | .fixed n => n
    | _ => 0
  let precision : Option Nat := match f.directive.precision with
    | .fixed n => some n
    | _ => none
  let shape : Printf.Shape :=
    ⟨f.directive.flags, width, f.directive.flags.contains '-', precision⟩
  shape.real .extended f.directive.conversion x

def Format.whole (f : Format) (x : Binary) : List Char := f.before ++ f.text x ++ f.behind

/-- Text up to a directive, with single percent signs, and what follows. -/
def plainText : List Char → List Char × List Char
  | '%' :: '%' :: cs => let (text, rest) := plainText cs; ('%' :: text, rest)
  | '%' :: cs => ([], '%' :: cs)
  | c :: cs => let (text, rest) := plainText cs; (c :: text, rest)
  | [] => ([], [])

/-- Reads a format with one directive. -/
def Format.read (text : String) : Except String Format :=
  let complaint (what : String) : Except String Format :=
    .error ("format " ++ quoted text ++ " " ++ what)
  let (before, rest) := plainText text.toList
  match rest with
  | [] => complaint "has no % directive"
  | _ :: rest =>
    let flags := rest.takeWhile fun c => "-+#0 '".contains c
    let (width, rest) := Printf.size (rest.drop flags.length)
    let (precision, rest) := Printf.precision rest
    let rest := if rest.head? = some 'L' then rest.tail else rest
    match rest with
    | [] => complaint "ends in %"
    | c :: rest =>
      if !"efgaEFGA".contains c then
        complaint ("has unknown %" ++ String.singleton c ++ " directive")
      else
        let (behind, more) := plainText rest
        if more ≠ [] then complaint "has too many % directives"
        else .ok ⟨before, ⟨flags, width, precision, c⟩, behind⟩

/-- The format that follows from the bounds. -/
def Format.usual (equalWidth : Bool) (first step last : Bound) : Format :=
  match first.places, step.places, last.places with
  | some p, some q, some r =>
    let places := max p q
    if equalWidth then
      let grown (b : Bound) (own : Nat) : Int :=
        b.width + ((places : Int) - own) + (if own = 0 ∧ places ≠ 0 then 1 else 0)
      let last := grown last r - (if r ≠ 0 ∧ places = 0 then 1 else 0)
      let width := (max (grown first p) last).toNat
      ⟨[], ⟨['0'], .fixed width, .fixed places, 'f'⟩, []⟩
    else ⟨[], ⟨[], .absent, .fixed places, 'f'⟩, []⟩
  | _, _, _ => ⟨[], ⟨[], .absent, .absent, 'g'⟩, []⟩

/-- Numbers that are written of a sequence without end. -/
def most : Nat := 2 ^ 17

/-- The number has gone beyond the last one. -/
def beyond (step last x : Binary) : Bool :=
  if step.isNegative then Binary.less x last else Binary.less last x

/-- The texts of the numbers from `first` on. The one behind the last is written too if its text
reads as the last one. `fuel` bounds their count. -/
def texts (f : Format) (first step last : Binary) : Nat → Nat → Binary → List (List Char)
  | 0, _, x => [f.whole x]
  | fuel + 1, n, x =>
    let next := Binary.add .extended first
      (Binary.mul .extended (Binary.round .extended false n 1) step)
    f.whole x ::
      if !beyond step last next then texts f first step last fuel (n + 1) next
      else
        let text := f.text next
        let isLast : Bool := match Binary.read? .extended text with
          | some ⟨y, _, []⟩ => !Binary.less y last && !Binary.less last y
          | _ => false
        if isLast && text != f.text x then [f.whole next] else []

/-- Whole numbers from `first` on; `fuel` bounds their count. -/
def wholeTexts (step : Nat) (last : Option Nat) : Nat → Nat → List (List Char)
  | 0, _ => []
  | fuel + 1, n =>
    if last.any (· < n) then [] else Nat.toDigits 10 n :: wholeTexts step last fuel (n + step)

/-- The value of a number that is whole and not negative. -/
def Bound.whole? (b : Bound) : Option Nat :=
  match b.value with
  | .finite negative m e =>
    let (num, den) := Binary.ratio m e
    if negative ∨ b.places ≠ some 0 ∨ num % den ≠ 0 then none else some (num / den)
  | _ => none

/-- Steps that whole numbers can be counted in. -/
def fastStep : Nat := 200

/-- The texts of a sequence that is given as it is written. -/
def ofOperands (equalWidth : Bool) (format : Option Format) (first step last : Bound)
    (digits : Option (Nat × Nat)) : List (List Char) :=
  let whole : Option (Nat × Nat × Option Nat) :=
    if equalWidth || format.isSome then none
    else match digits, first.whole?, step.whole?, last.value with
      | some (m, n), _, some d, _ => if d ≤ fastStep ∧ d ≠ 0 then some (m, d, some n) else none
      | none, some m, some d, .infinite false =>
        if d ≤ fastStep ∧ d ≠ 0 then some (m, d, none) else none
      | _, _, _, _ => none
  match whole with
  | some (m, d, n) =>
    let count := match n with
      | some n => (n - m) / d + 1
      | none => most
    wholeTexts d n count m
  | none =>
    if beyond step.value last.value first.value then []
    else texts (format.getD (.usual equalWidth first step last)) first.value step.value last.value
      most 1 first.value

end Sequence

/-- A negative number is no option. -/
def negativeOperands : List String → List String
  | "-f" :: value :: args => "-f" :: value :: negativeOperands args
  | "-s" :: value :: args => "-s" :: value :: negativeOperands args
  | arg :: args =>
    match arg.toList with
    | '-' :: c :: _ =>
      if c.isDigit ∨ c = '.' then "--" :: arg :: args else arg :: negativeOperands args
    | _ => arg :: args
  | [] => []

def seq : Utility := fun args =>
  withOptions (.leading "f:s:w" [("format", 'f'), ("separator", 's'), ("equal-width", 'w')]) 1
    (fun a => do
    let number (text : String) : Option Nat :=
      if text ≠ "" ∧ text.toList.all Char.isDigit then text.toNat? else none
    match a.operands with
    | [] => misuse 1 "missing operand"
    | _ :: _ :: _ :: extra :: _ => misuse 1 ("extra operand " ++ quoted extra)
    | operands =>
      match (a.value? 'f').mapM Sequence.Format.read with
      | .error message => complain message; return 1
      | .ok format =>
      if format.isSome ∧ a.has 'w' then
        misuse 1 "format string may not be specified when printing equal width strings"
      else match operands.mapM Sequence.Bound.read with
        | .error message => misuse 1 message
        | .ok bounds =>
          let one : Sequence.Bound := ⟨.finite false 1 0, 1, some 0⟩
          let (first, step, last) := match bounds with
            | [first, last] => (first, one, last)
            | [first, step, last] => (first, step, last)
            | bounds => (one, one, bounds.headD one)
          let digits := match operands with
            | [n] => (number n).map (1, ·)
            | m :: rest => (number m).bind fun m => (number (rest.getLastD "")).map (m, ·)
            | [] => none
          let isZero : Bool := match step.value with
            | .finite _ 0 _ => true
            | _ => false
          if isZero then
            misuse 1 ("invalid Zero increment value: " ++ quoted (operands.getD 1 ""))
          else
            let texts := Sequence.ofOperands (a.has 'w') format first step last digits
            let between := ((a.value? 's').getD "\n").toList
            if texts ≠ [] then write (between.intercalate texts ++ ['\n'])
            if texts.length ≥ Sequence.most then
              modify fun s => if isUnbounded s then { s with clock := s.clock + forever } else s
            return 0) (negativeOperands args)

/-! ## Factors -/

/-- The prime factors of `n` from the divisor `d` on; `fuel` bounds the number of divisors. -/
def factors : Nat → Nat → Nat → List Nat
  | 0, _, n => [n]
  | fuel + 1, d, n =>
    if n < 2 then []
    else if n < d * d then [n]
    else if n % d = 0 then d :: factors fuel d (n / d)
    else factors fuel (if d = 2 then 3 else d + 2) n

/-- Writes numbers with their prime factors. -/
def factor : Utility := withOptions (.of "h" [("exponents", 'h')]) 1 fun a => do
  let operands ← if a.operands ≠ [] then pure a.operands
    else do
      let (text, s) := (← get).readAll 0
      set s
      pure (((text.getD []).splitOnP Arithmetic.isSpace).filter (· ≠ []) |>.map String.ofList)
  operands.foldlM (fun status operand => do
    let cs := Arithmetic.trim operand.toList
    let cs := if cs.head? = some '+' then cs.tail else cs
    if cs = [] ∨ !cs.all Char.isDigit then
      complain (quoted operand ++ " is not a valid positive integer")
      return 1
    let n := Printf.number 10 cs
    let fs := factors 100000 2 n
    let shown := if a.has 'h' then
        (fs.splitBy (· == ·)).map fun g =>
          toString (g.headD 0) ++ if g.length > 1 then "^" ++ toString g.length else ""
      else fs.map toString
    writeLine (toString n ++ ":" ++ String.join (shown.map (" " ++ ·)))
    return status) 0

end PlaybookScan.Shell.Utility

import PlaybookScan.Shell.Arithmetic

/-!
# Sizes

Numbers with a letter behind them that multiplies them, as programs take them for sizes and counts.
-/

set_option autoImplicit false

namespace PlaybookScan.Shell.Sizes

/-- The letters of powers, from the first power on. -/
def powerLetters : List Char := ['K', 'M', 'G', 'T', 'P', 'E', 'Z', 'Y']

/-- What a text behind a number multiplies it with. -/
def factor? (unit : List Char) : Option Nat :=
  match unit with
  | [] => some 1
  | ['b'] => some 512
  | c :: rest =>
    let upper := if c = 'k' ∨ c = 'm' then c.toUpper else c
    if !powerLetters.contains upper then none
    else
      let power := powerLetters.idxOf upper + 1
      match rest with
      | [] | ['i', 'B'] => some (1024 ^ power)
      | ['B'] => some (1000 ^ power)
      | _ => none

/-- Why a text is no size. -/
inductive Fault where
  | noNumber
  | badSuffix
  | tooLarge
  deriving DecidableEq

/-- The largest size. -/
def limit : Nat := 2 ^ 64 - 1

/-- The number of a text. Without digits, the number is one. If `based`, a zero in front of it means
that it is written in base 8 or 16. -/
def read (based : Bool) (cs : List Char) : Except Fault Nat :=
  let cs := Arithmetic.trim cs
  let cs := if cs.head? = some '+' then cs.tail else cs
  if (cs.head?.map Char.isDigit).getD false then
    let (n, rest) := if based then Arithmetic.constant cs else Arithmetic.digits 10 0 cs
    match factor? rest with
    | none => .error .badSuffix
    | some k => if limit < n * k then .error .tooLarge else .ok (n * k)
  else match cs, factor? cs with
    | _ :: _, some k => .ok k
    | _, _ => .error .noNumber

def read? (text : String) : Option Nat := (read false text.toList).toOption

end PlaybookScan.Shell.Sizes

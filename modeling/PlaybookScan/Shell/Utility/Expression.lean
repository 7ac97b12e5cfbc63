import PlaybookScan.Shell.Regex.Posix
import PlaybookScan.Shell.Utility.Basic

/-!
# Expressions of words

The words of `expr` form an expression over numbers and texts.
-/

set_option autoImplicit false

namespace PlaybookScan.Shell.Utility

namespace Expression

/-- A value and the words behind it. -/
abbrev Answer := Except String (String × List String)

/-- The number that a word is. -/
def integer? (text : String) : Option Int :=
  let (negative, cs) := match text.toList with
    | '-' :: cs => (true, cs)
    | cs => (false, cs)
  if cs ≠ [] ∧ cs.all Char.isDigit then
    let n : Int := Printf.number 10 cs
    some (if negative then -n else n)
  else none

/-- The value counts as false. -/
def isNull (text : String) : Bool :=
  text == "" || (integer? text).any (· == 0)

def truth (b : Bool) : String := if b then "1" else "0"

/-- The words of each level of operators, the loosest first. -/
def levels : List (List String) :=
  [["|"], ["&"], ["<", "<=", "=", "==", "!=", ">=", ">"], ["+", "-"], ["*", "/", "%"], [":"]]

/-- What of a text matches from its start: the part in the first group, or the length. -/
def matchStart (text pattern : String) : Except String String := do
  let r ← { Regex.basic with lenient := true }.finder pattern.toList
  let line := text.toList
  let grouped := pattern.contains '\\' &&
    ((pattern.toList.zip pattern.toList.tail).any fun (c, d) => c == '\\' && d == '(')
  match r.at? line (.at_ line 0) with
  | none => return if grouped then "" else "0"
  | some f =>
    if grouped then
      return String.ofList ((f.group? line 1).getD [])
    else return toString f.stop

/-- The value of two operands. -/
def apply (op a b : String) : Except String String := do
  let numbers : Except String (Int × Int) := match integer? a, integer? b with
    | some m, some n => .ok (m, n)
    | _, _ => .error "non-integer argument"
  match op with
  | "|" => return if !isNull a then a else if !isNull b then b else "0"
  | "&" => return if isNull a || isNull b then "0" else a
  | "+" => return toString ((← numbers).1 + (← numbers).2)
  | "-" => return toString ((← numbers).1 - (← numbers).2)
  | "*" => return toString ((← numbers).1 * (← numbers).2)
  | "/" | "%" =>
    let (m, n) ← numbers
    if n = 0 then throw "division by zero"
    return toString (if op = "/" then Int.tdiv m n else Int.tmod m n)
  | ":" => matchStart a b
  | op =>
    let order := match integer? a, integer? b with
      | some m, some n => compare m n
      | _, _ => if a.toList < b.toList then .lt else if b.toList < a.toList then .gt else .eq
    return truth (match op with
      | "<" => order == .lt
      | "<=" => order != .gt
      | ">" => order == .gt
      | ">=" => order != .lt
      | "!=" => order != .eq
      | _ => order == .eq)

def missing (last : String) : String :=
  "syntax error: missing argument after " ++ quoted last

mutual

/-- Operands of these levels; `last` is the word before them. -/
def level (fuel : Nat) (last : String) (levels : List (List String)) (words : List String) :
    Answer :=
  match fuel with
  | 0 => .error "syntax error"
  | fuel + 1 =>
    match levels with
    | [] => primary fuel last words
    | ops :: tighter => do
      let (a, words) ← level fuel last tighter words
      more fuel ops tighter a words

/-- What follows the operand `a` at a level. -/
def more (fuel : Nat) (ops : List String) (tighter : List (List String)) (a : String)
    (words : List String) : Answer :=
  match fuel with
  | 0 => .error "syntax error"
  | fuel + 1 =>
    match words with
    | op :: rest =>
      if ops.contains op then do
        let (b, words) ← level fuel op tighter rest
        more fuel ops tighter (← apply op a b) words
      else .ok (a, words)
    | [] => .ok (a, [])

/-- A word, a question about texts or an expression in parentheses. -/
def primary (fuel : Nat) (last : String) (words : List String) : Answer :=
  match fuel with
  | 0 => .error "syntax error"
  | fuel + 1 =>
    match words with
    | [] => .error (missing last)
    | "+" :: word :: rest => .ok (word, rest)
    | ["+"] => .error (missing "+")
    | "(" :: rest => do
      let (a, words) ← level fuel "(" levels rest
      match words with
      | ")" :: words => return (a, words)
      | [] => throw ("syntax error: expecting ')' after " ++ quoted (rest.getLastD "("))
      | word :: _ => throw ("syntax error: expecting ')' instead of " ++ quoted word)
    | ")" :: _ => .error "syntax error: unexpected ')'"
    | "length" :: rest => do
      let (a, words) ← primary fuel "length" rest
      return (toString a.length, words)
    | "match" :: rest => do
      let (a, words) ← primary fuel "match" rest
      let (b, words) ← primary fuel a words
      return (← matchStart a b, words)
    | "index" :: rest => do
      let (a, words) ← primary fuel "index" rest
      let (b, words) ← primary fuel a words
      let found := a.toList.findIdx? (b.toList.contains ·)
      return (toString ((found.map (· + 1)).getD 0), words)
    | "substr" :: rest => do
      let (a, words) ← primary fuel "substr" rest
      let (b, words) ← primary fuel a words
      let (c, words) ← primary fuel b words
      match integer? b, integer? c with
      | some (.ofNat (m + 1)), some (.ofNat n) =>
        return (String.ofList ((a.toList.drop m).take n), words)
      | _, _ => return ("", words)
    | word :: rest => .ok (word, rest)

end

end Expression

def expr : Utility := fun args => do
  match if args.head? = some "--" then args.tail else args with
  | [] => misuse 2 "missing operand"
  | words =>
    let evaluated : Except String String := do
      match ← Expression.level (10 * words.length + 10) "" Expression.levels words with
      | (value, []) => return value
      | (_, word :: _) => throw ("syntax error: unexpected argument " ++ quoted word)
    match evaluated with
    | .ok value =>
      writeLine value
      return if Expression.isNull value then 1 else 0
    | .error message => complain message; return 2

end PlaybookScan.Shell.Utility

import PlaybookScan.Shell.Lexer

/-!
# Arithmetic

Expressions over 64-bit integers, which wrap around.
-/

set_option autoImplicit false

namespace PlaybookScan.Shell

inductive Arithmetic where
  | number (n : Int)
  | name (name : String)
  | unary (op : Char) (arg : Arithmetic)
  | binary (op : String) (left right : Arithmetic)
  /-- With an operator, the old value takes part. -/
  | assign (name : String) (op : Option String) (value : Arithmetic)
  | choose (condition yes no : Arithmetic)

namespace Arithmetic

/-- Why an expression has no value. -/
inductive Fault where
  | expected (what : String)
  | divisionByZero
  /-- A quotient is beyond the range. -/
  | overflow
  /-- The value of a name is no number. -/
  | illegal (text : String)

def Fault.message : Fault → String
  | .expected what => "expecting " ++ what
  | .divisionByZero => "division by zero"
  | .overflow => "overflow"
  | .illegal text => "Illegal number: " ++ text

/-- The value in 64 bits. -/
def wrap (n : Int) : Int := Int.bmod n (2 ^ 64)

def isSpace (c : Char) : Bool := c == ' ' || ('\t' ≤ c && c ≤ '\r')

def trim (cs : List Char) : List Char := cs.dropWhile isSpace

/-- Values of digits, up to the first that the base does not have. -/
def digitValue (c : Char) : Nat :=
  if c.isDigit then c.toNat - '0'.toNat
  else if c.isAlpha then c.toLower.toNat - 'a'.toNat + 10
  else 36

def digits (base : Nat) (acc : Nat) : List Char → Nat × List Char
  | [] => (acc, [])
  | c :: cs => if digitValue c < base then digits base (base * acc + digitValue c) cs
      else (acc, c :: cs)

/-- The number without sign that a text starts with: in base 8 behind a zero, in base 16 behind
`0x`, else in base 10. -/
def constant : List Char → Nat × List Char
  | '0' :: x :: c :: cs =>
    if (x = 'x' ∨ x = 'X') ∧ digitValue c < 16 then digits 16 0 (c :: cs)
    else digits 8 0 (x :: c :: cs)
  | '0' :: cs => digits 8 0 cs
  | cs => digits 10 0 cs

/-- A number beyond the range counts as the end of the range. -/
def clamp (n : Int) : Int := max (-(2 ^ 63)) (min n (2 ^ 63 - 1))

/-- The value of a text that is a number. -/
def ofText? (s : String) : Option Int :=
  let cs := trim s.toList
  let (negative, cs) := match cs with
    | '-' :: cs => (true, cs)
    | '+' :: cs => (false, cs)
    | cs => (false, cs)
  if (cs.head?.map Char.isDigit).getD false then
    let (n, rest) := constant cs
    if trim rest = [] then some (clamp (if negative then -(n : Int) else n)) else none
  else none

/-- The binary operators, tightest last, the longer ones of a level first. -/
def levels : List (List String) :=
  [["||"], ["&&"], ["|"], ["^"], ["&"], ["==", "!="], ["<=", ">=", "<", ">"], ["<<", ">>"],
    ["+", "-"], ["*", "/", "%"]]

/-- The operator of this level that a text starts with. -/
def operatorAt? (level : List String) (cs : List Char) : Option (String × List Char) :=
  let cs := trim cs
  level.findSome? fun op =>
    match op.toList.isPrefixOf? cs with
    | none => none
    | some rest =>
      let next := rest.head?
      let clash : Bool := match op with
        | "|" | "&" => next == op.toList.head? || next == some '='
        | "<" | ">" => next == op.toList.head?
        | "<=" | ">=" | "==" | "!=" | "&&" | "||" => false
        | _ => next == some '='
      if clash then none else some (op, rest)

/-- The assignment operator that a text starts with. -/
def assignment? (cs : List Char) : Option (Option String × List Char) :=
  let cs := trim cs
  match cs with
  | '=' :: '=' :: _ => none
  | '=' :: rest => some (none, rest)
  | cs => ["<<", ">>", "+", "-", "*", "/", "%", "&", "|", "^"].findSome? fun op =>
      ((op.toList ++ ['=']).isPrefixOf? cs).map fun rest => (some op, rest)

def expecting {α : Type} (what : String) : Except Fault α := .error (.expected what)

mutual

/-- A whole expression. -/
def parseAll (fuel : Nat) (cs : List Char) : Except Fault (Arithmetic × List Char) :=
  match fuel with
  | 0 => expecting "primary"
  | fuel + 1 => do
    let cs := trim cs
    let name := cs.takeWhile Text.isWordChar
    if (name.head?.map Lexer.isNameStart).getD false then
      if let some (op, rest) := assignment? (cs.drop name.length) then
        let (value, rest) ← parseAll fuel rest
        return (assign (String.ofList name) op value, rest)
    let (condition, rest) ← parseLevel fuel levels cs
    match trim rest with
    | '?' :: rest =>
      let (yes, rest) ← parseAll fuel rest
      match trim rest with
      | ':' :: rest =>
        let (no, rest) ← parseAll fuel rest
        return (choose condition yes no, rest)
      | _ => expecting "':'"
    | rest => return (condition, rest)

/-- Operands of these levels. -/
def parseLevel (fuel : Nat) (levels : List (List String)) (cs : List Char) :
    Except Fault (Arithmetic × List Char) :=
  match fuel with
  | 0 => expecting "primary"
  | fuel + 1 =>
    match levels with
    | [] => parseUnary fuel cs
    | level :: tighter => do
      let (left, rest) ← parseLevel fuel tighter cs
      parseRest fuel level tighter left rest

/-- What follows the operand `left` at a level. -/
def parseRest (fuel : Nat) (level : List String) (tighter : List (List String)) (left : Arithmetic)
    (cs : List Char) : Except Fault (Arithmetic × List Char) :=
  match fuel with
  | 0 => expecting "primary"
  | fuel + 1 =>
    match operatorAt? level cs with
    | none => .ok (left, cs)
    | some (op, rest) => do
      let (right, rest) ← parseLevel fuel tighter rest
      parseRest fuel level tighter (binary op left right) rest

/-- An operand with the signs before it. -/
def parseUnary (fuel : Nat) (cs : List Char) : Except Fault (Arithmetic × List Char) :=
  match fuel with
  | 0 => expecting "primary"
  | fuel + 1 =>
    match trim cs with
    | '(' :: rest => do
      let (inner, rest) ← parseAll fuel rest
      match trim rest with
      | ')' :: rest => return (inner, rest)
      | _ => expecting "')'"
    | c :: rest =>
      if "+-!~".contains c then do
        let (arg, rest) ← parseUnary fuel rest
        return (unary c arg, rest)
      else if c.isDigit then
        let (n, rest) := constant (c :: rest)
        .ok (number (clamp n), rest)
      else if Lexer.isNameStart c then
        .ok (name (String.ofList ((c :: rest).takeWhile Text.isWordChar)),
          rest.dropWhile Text.isWordChar)
      else expecting "primary"
    | [] => expecting "primary"

end

/-- The expression that a text holds. -/
def parse (cs : List Char) : Except Fault Arithmetic := do
  let (e, rest) ← parseAll (32 * cs.length + 32) cs
  if trim rest = [] then return e else expecting "EOF"

/-- Two's complement bits. -/
def bits (f : Nat → Nat → Nat) (a b : Int) : Int :=
  wrap (f (a % 2 ^ 64).toNat (b % 2 ^ 64).toNat)

/-- A binary operator on values. -/
def apply (op : String) (a b : Int) : Except Fault Int :=
  let truth (p : Bool) : Except Fault Int := .ok (if p then 1 else 0)
  let divided (n : Int) : Except Fault Int :=
    if b = 0 then .error .divisionByZero
    else if a = -(2 ^ 63) ∧ b = -1 then .error .overflow
    else .ok n
  match op with
  | "||" => truth (a != 0 || b != 0)
  | "&&" => truth (a != 0 && b != 0)
  | "|" => .ok (bits (· ||| ·) a b)
  | "^" => .ok (bits (· ^^^ ·) a b)
  | "&" => .ok (bits (· &&& ·) a b)
  | "==" => truth (a == b)
  | "!=" => truth (a != b)
  | "<=" => truth (a ≤ b)
  | ">=" => truth (a ≥ b)
  | "<" => truth (a < b)
  | ">" => truth (a > b)
  | "<<" => .ok (wrap (a * 2 ^ (b % 64).toNat))
  | ">>" => .ok (a / 2 ^ (b % 64).toNat)
  | "+" => .ok (wrap (a + b))
  | "-" => .ok (wrap (a - b))
  | "*" => .ok (wrap (a * b))
  | "/" => divided (Int.tdiv a b)
  | "%" => divided (Int.tmod a b)
  | _ => expecting "primary"

/-- The value, and the assignments made so far, the last one first. `value` is the value of a name
before them. -/
def eval (value : String → Except Fault Int) (done : List (String × Int)) :
    Arithmetic → Except Fault (Int × List (String × Int))
  | number n => .ok (n, done)
  | name x => match done.lookup x with
    | some n => .ok (n, done)
    | none => (value x).map (·, done)
  | unary op arg => do
    let (n, done) ← eval value done arg
    let m := match op with
      | '-' => wrap (-n)
      | '!' => if n = 0 then 1 else 0
      | '~' => -n - 1
      | _ => n
    return (m, done)
  | binary op left right => do
    let (a, done) ← eval value done left
    if op = "||" ∧ a ≠ 0 then return (1, done)
    if op = "&&" ∧ a = 0 then return (0, done)
    let (b, done) ← eval value done right
    return (← apply op a b, done)
  | assign x op e => do
    let (n, done) ← eval value done e
    let n ← match op with
      | none => pure n
      | some op => do
        let old ← match done.lookup x with
          | some n => pure n
          | none => value x
        apply op old n
    return (n, (x, n) :: done)
  | choose condition yes no => do
    let (n, done) ← eval value done condition
    if n ≠ 0 then eval value done yes else eval value done no

end Arithmetic

end PlaybookScan.Shell

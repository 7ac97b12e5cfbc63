import PlaybookScan.Shell.Bash.Lexer
import PlaybookScan.Shell.Bash.Variable

/-!
# Arithmetic of the large shell

Expressions over 64-bit integers, which wrap around. An expression is worked out while it is read,
so that a fault is told with the part of the text from which on it was found. The value of a name is
an expression itself.
-/

set_option autoImplicit false

namespace PlaybookScan.Shell.Bash

namespace Arithmetic

/-- A part of an expression. -/
inductive Token where
  | nothing
  | name
  | number
  | sign (text : String)
  deriving DecidableEq

/-- A place in an expression. -/
structure Scan where
  /-- The whole expression. -/
  text : List Char
  /-- What has not been read. -/
  rest : List Char
  /-- What begins with the last token. -/
  start : List Char
  token : Token
  before : Token
  /-- The name and subscript of the last name. -/
  name : String × Option (List Char)
  value : Int
  /-- Names are not looked up, and nothing is assigned. -/
  idle : Bool

/-- Works on an expression; a fault has been told, or is told with a message. -/
abbrev Calc := StateT Scan (ExceptT (Option String) Act)

def told {α : Type} : Calc α := throw none

/-- Tells what is wrong, and from where on. -/
def fault {α : Type} (message : String) : Calc α := do
  let s ← get
  throw (some (String.ofList (Shell.Arithmetic.trim s.text) ++ ": " ++ message ++
    " (error token is \"" ++ String.ofList s.start ++ "\")"))

/-- Tells what is wrong with the token that is just read, which `rest` follows. -/
def faultBefore {α : Type} (rest : List Char) (message : String) : Calc α := do
  modify fun s => { s with
    text := s.text.take (s.text.length - rest.length)
    start := s.start.take (s.start.length - rest.length) }
  fault message

def ofAct {α : Type} (act : Act α) : Calc α := StateT.lift (ExceptT.lift act)

def signs : List String :=
  ["<<=", ">>=", "==", "!=", ">=", "<=", "<<", ">>", "&&", "||", "**", "*=", "/=", "%=", "+=", "-=",
    "&=", "^=", "|=", "=", ">", "<", "+", "-", "*", "/", "%", "!", "(", ")", "&", "|", "^", "~", "?",
    ":", ","]

/-- The operators that assign, with what they do to the old value. -/
def assigning? (sign : String) : Option String :=
  if ["<<=", ">>=", "*=", "/=", "%=", "+=", "-=", "&=", "^=", "|="].contains sign then
    some (String.ofList sign.toList.dropLast)
  else none

def digitValue (base : Nat) (c : Char) : Nat :=
  if c.isDigit then c.toNat - 48
  else if c.isLower then c.toNat - 97 + 10
  else if c.isUpper then c.toNat - 65 + if base ≤ 36 then 10 else 36
  else if c = '@' then 62
  else 63

def isDigitChar (c : Char) : Bool := c.isAlphanum || c == '@' || c == '_'

/-- The value of the digits of a number; `fixed` says that the base has been given. -/
def digits (rest : List Char) (fixed : Bool) (base : Nat) (value : Int) : List Char → Calc Int
  | [] => return value
  | '#' :: cs => do
    if fixed then faultBefore rest "invalid number"
    if value < 2 ∨ 64 < value then faultBefore rest "invalid arithmetic base"
    if !(cs.head?.map isDigitChar).getD false then faultBefore rest "invalid integer constant"
    digits rest true value.toNat 0 cs
  | c :: cs => do
    if base ≤ digitValue base c then faultBefore rest "value too great for base"
    digits rest fixed base (Shell.Arithmetic.wrap (value * base + digitValue base c)) cs

/-- The value of a number, which `rest` follows. -/
def constant (rest : List Char) : List Char → Calc Int
  | ['0'] => return 0
  | '0' :: x :: cs => do
    if x = 'x' ∨ x = 'X' then
      if cs = [] then faultBefore rest "invalid number"
      digits rest true 16 0 cs
    else digits rest true 8 0 (x :: cs)
  | cs => digits rest false 10 0 cs

/-- Number of characters of a subscript with its brackets, if it is closed. -/
def subscriptLength (depth n : Nat) : List Char → Option Nat
  | [] => none
  | '[' :: cs => subscriptLength (depth + 1) (n + 1) cs
  | ']' :: cs => if depth = 1 then some (n + 1) else subscriptLength (depth - 1) (n + 1) cs
  | _ :: cs => subscriptLength depth (n + 1) cs

/-- The key that the text of a subscript is for a variable with named elements. -/
def unquotedKey (cs : List Char) : String :=
  match cs with
  | '\x27' :: rest | '"' :: rest =>
    if rest.getLast? = cs.head? then String.ofList rest.dropLast else String.ofList cs
  | cs => String.ofList cs

/-- Expressions within each other at most. -/
def maxDepth : Nat := 1024

/-- An operation on two values. -/
def apply (op : String) (a b : Int) : Int :=
  match op with
  | "*" => Shell.Arithmetic.wrap (a * b)
  | "/" => Shell.Arithmetic.wrap (Int.tdiv a b)
  | "%" => Int.tmod a b
  | "+" => Shell.Arithmetic.wrap (a + b)
  | "-" => Shell.Arithmetic.wrap (a - b)
  | "<<" => Shell.Arithmetic.wrap (a * 2 ^ (b % 64).toNat)
  | ">>" => a / 2 ^ (b % 64).toNat
  | "&" => Shell.Arithmetic.bits (· &&& ·) a b
  | "^" => Shell.Arithmetic.bits (· ^^^ ·) a b
  | "|" => Shell.Arithmetic.bits (· ||| ·) a b
  | "==" => if a = b then 1 else 0
  | "!=" => if a = b then 0 else 1
  | "<" => if a < b then 1 else 0
  | ">" => if b < a then 1 else 0
  | "<=" => if a ≤ b then 1 else 0
  | ">=" => if b ≤ a then 1 else 0
  | "**" => Shell.Arithmetic.wrap (a ^ b.toNat)
  | _ => b

/-- The levels of the operators on two values, the tightest last. -/
def levels : List (List String) :=
  [["|"], ["^"], ["&"], ["==", "!="], ["<=", ">=", "<", ">"], ["<<", ">>"], ["+", "-"],
    ["*", "/", "%"]]

/-- Numbers the base of a power is multiplied with itself at most, as the low bits repeat. -/
def power (a b : Int) : Int :=
  (List.range 64).reverse.foldl (fun n i =>
    let n := Shell.Arithmetic.wrap (n * n)
    if b.toNat.testBit i then Shell.Arithmetic.wrap (n * a) else n) 1

mutual

/-- The value of an expression; `depth` expressions are around it. -/
def whole (fuel depth : Nat) (text : List Char) (idle : Bool) : ExceptT (Option String) Act Int := do
  match fuel with
  | 0 => throw none
  | fuel + 1 =>
    if Shell.Arithmetic.trim text = [] then return 0
    let start : Scan := ⟨text, text, [], .nothing, .nothing, ("", none), 0, idle⟩
    let act : Calc Int := do
      if maxDepth ≤ depth then
        modify fun s => { s with start := Shell.Arithmetic.trim text }
        fault "expression recursion level exceeded"
      readToken fuel depth
      let value ← comma fuel depth
      if (← get).token ≠ .nothing then fault "syntax error in expression"
      return value
    return (← act.run start).1

/-- The element of a variable that a name and a subscript mean. -/
def keyOf (fuel depth : Nat) (name : String) (subscript : Option (List Char)) : Calc Key := do
  match fuel with
  | 0 => told
  | fuel + 1 =>
    match subscript with
    | none => return .none
    | some text =>
      let v := ((← ofAct get).lookup? name).getD .blank
      if Variable.isKeyed v then return .name (unquotedKey text)
      let n ← match ← ofAct (whole fuel (depth + 1) text false).run with
        | .ok n => pure n
        | .error none => told
        | .error (some message) => ofAct (do
            report message
            abandon)
      let size : Int := match v.items with
        | .indexed items => (items.getLast?.map fun (m, _) => (m : Int) + 1).getD 0
        | _ => if v.value.isSome then 1 else 0
      let n := if n < 0 then n + size else n
      if n < 0 then
        ofAct (report (name ++ ": bad array subscript"))
        told
      return .number n.toNat

/-- The value of a name. -/
def valueOf (fuel depth : Nat) (name : String) (subscript : Option (List Char)) : Calc Int := do
  match fuel with
  | 0 => told
  | fuel + 1 =>
    if (← get).idle then return 0
    let v ← ofAct (readVariable name)
    let key ← keyOf fuel depth name subscript
    match v.bind (Variable.text? · key) with
    | some text => StateT.lift (whole fuel (depth + 1) text.toList false)
    | none =>
      if (← ofAct get).has 'u' then
        ofAct (do
          report (name ++ ": unbound variable")
          abort)
      else return 0

/-- Gives a name a value. -/
def assign (fuel depth : Nat) (place : String × Option (List Char)) (value : Int) : Calc Unit := do
  match fuel with
  | 0 => told
  | fuel + 1 =>
    if (← get).idle then return
    let key ← keyOf fuel depth place.1 place.2
    if !(← ofAct (store place.1 key (toString value))) then told

/-- Reads a token. -/
def readToken (fuel depth : Nat) : Calc Unit := do
  match fuel with
  | 0 => told
  | fuel + 1 =>
    let s ← get
    let cs := Shell.Arithmetic.trim s.rest
    match cs with
    | [] => set { s with rest := [], before := s.token, token := .nothing }
    | c :: rest =>
      set { s with rest := cs, start := cs }
      if Lexer.isNameStart c then
        let name := Lexer.leadingName cs
        let after := cs.drop name.length
        let size ← match after with
          | '[' :: _ =>
            match subscriptLength 0 0 after with
            | some n => pure n
            | none => fault "bad array subscript"
          | _ => pure 0
        let subscript := if size = 0 then none else some ((after.take (size - 1)).drop 1)
        let after := after.drop size
        let place := (String.ofList name, subscript)
        let here ← get
        set { here with rest := after, idle := true, token := .name }
        readToken fuel depth
        let next := (← get).token
        set { here with rest := after }
        let value ←
          if s.token = .sign "++" ∨ s.token = .sign "--" ∨ next ≠ .sign "=" then
            valueOf fuel depth place.1 place.2
          else pure 0
        set { here with
          rest := after, before := s.token, token := .name, name := place, value }
      else if c.isDigit then
        let isPart (c : Char) : Bool := isDigitChar c || c == '#'
        let after := cs.dropWhile isPart
        let value ← constant after (cs.takeWhile isPart)
        modify fun s => { s with rest := after, before := s.token, token := .number, value }
      else
        let put (text : String) : Calc Unit := modify fun s => { s with
          rest := cs.drop text.length, before := s.token, token := .sign text }
        let doubled : Bool := (c == '+' || c == '-') && rest.head? == some c
        let afterwards := Shell.Arithmetic.trim (rest.drop 1)
        if doubled ∧ s.token = .name then put (String.ofList [c, c, c])
        else if doubled ∧ s.token = .number ∧ (s.before = .sign "++" ∨ s.before = .sign "--") then
          fault (String.ofList [c, c] ++ ": assignment requires lvalue")
        else if doubled ∧ (afterwards.head?.map Lexer.isNameStart).getD false then
          put (String.ofList [c, c])
        else match signs.find? fun op => op.toList.isPrefixOf cs with
          | some op => if doubled then put (String.singleton c) else put op
          | none =>
            let isOperator : Bool := match s.token with
              | .nothing => true
              | .sign _ => true
              | _ => false
            if isOperator then fault "syntax error: operand expected"
            else fault "syntax error: invalid arithmetic operator"

/-- Expressions with commas between them. -/
def comma (fuel depth : Nat) : Calc Int := do
  match fuel with
  | 0 => told
  | fuel + 1 =>
    let value ← assignment fuel depth
    if (← get).token = .sign "," then
      readToken fuel depth
      comma fuel depth
    else return value

def assignment (fuel depth : Nat) : Calc Int := do
  match fuel with
  | 0 => told
  | fuel + 1 =>
    let old ← condition fuel depth
    let s ← get
    match s.token with
    | .sign op =>
      let update := assigning? op
      if op ≠ "=" ∧ update.isNone then return old
      if s.before ≠ .name then fault "attempted assignment to non-variable"
      let place := s.name
      readToken fuel depth
      let new ← assignment fuel depth
      let new ← match update with
        | none => pure new
        | some op => do
          if (op = "/" ∨ op = "%") ∧ new = 0 then
            if (← get).idle then pure old else fault "division by 0"
          else pure (apply op old new)
      assign fuel depth place new
      return new
    | _ => return old

def condition (fuel depth : Nat) : Calc Int := do
  match fuel with
  | 0 => told
  | fuel + 1 =>
    let value ← disjunction fuel depth
    if (← get).token ≠ .sign "?" then return value
    let idle := (← get).idle
    modify fun s => { s with idle := idle || value == 0 }
    readToken fuel depth
    if (← get).token = .nothing then fault "expression expected"
    let yes ← comma fuel depth
    modify fun s => { s with idle }
    if (← get).token ≠ .sign ":" then fault "\x60:' expected for conditional expression"
    modify fun s => { s with idle := idle || value != 0 }
    readToken fuel depth
    if (← get).token = .nothing then fault "expression expected"
    let no ← condition fuel depth
    modify fun s => { s with idle, before := .sign "?" }
    return if value ≠ 0 then yes else no

def disjunction (fuel depth : Nat) : Calc Int := do
  match fuel with
  | 0 => told
  | fuel + 1 => disjunctionRest fuel depth (← conjunction fuel depth)

def disjunctionRest (fuel depth : Nat) (first : Int) : Calc Int := do
  match fuel with
  | 0 => told
  | fuel + 1 =>
    if (← get).token ≠ .sign "||" then return first
    let idle := (← get).idle
    modify fun s => { s with idle := idle || first != 0 }
    readToken fuel depth
    let second ← conjunction fuel depth
    modify fun s => { s with idle, before := .sign "||" }
    disjunctionRest fuel depth (if first ≠ 0 ∨ second ≠ 0 then 1 else 0)

def conjunction (fuel depth : Nat) : Calc Int := do
  match fuel with
  | 0 => told
  | fuel + 1 => conjunctionRest fuel depth (← level fuel depth levels)

def conjunctionRest (fuel depth : Nat) (first : Int) : Calc Int := do
  match fuel with
  | 0 => told
  | fuel + 1 =>
    if (← get).token ≠ .sign "&&" then return first
    let idle := (← get).idle
    modify fun s => { s with idle := idle || first == 0 }
    readToken fuel depth
    let second ← level fuel depth levels
    modify fun s => { s with idle, before := .sign "&&" }
    conjunctionRest fuel depth (if first ≠ 0 ∧ second ≠ 0 then 1 else 0)

/-- Operands of these levels. -/
def level (fuel depth : Nat) (levels : List (List String)) : Calc Int := do
  match fuel with
  | 0 => told
  | fuel + 1 =>
    match levels with
    | [] => powers fuel depth
    | ops :: tighter => levelRest fuel depth ops tighter (← level fuel depth tighter)

/-- What follows the operand `first` at a level. -/
def levelRest (fuel depth : Nat) (ops : List String) (tighter : List (List String))
    (first : Int) : Calc Int := do
  match fuel with
  | 0 => told
  | fuel + 1 =>
    match (← get).token with
    | .sign op =>
      if !ops.contains op then return first
      let behind := Shell.Arithmetic.trim (← get).rest
      readToken fuel depth
      let second ← level fuel depth tighter
      let value ←
        if (op = "/" ∨ op = "%") ∧ second = 0 then do
          if (← get).idle then pure first
          else
            modify fun s => { s with start := behind }
            fault "division by 0"
        else pure (apply op first second)
      modify fun s => { s with before := .number }
      levelRest fuel depth ops tighter value
    | _ => return first

def powers (fuel depth : Nat) : Calc Int := do
  match fuel with
  | 0 => told
  | fuel + 1 =>
    let base ← unary fuel depth
    if (← get).token ≠ .sign "**" then return base
    readToken fuel depth
    let exponent ← powers fuel depth
    modify fun s => { s with before := .number }
    if exponent < 0 then fault "exponent less than 0"
    return power base exponent

/-- An operand with the signs before it. -/
def unary (fuel depth : Nat) : Calc Int := do
  match fuel with
  | 0 => told
  | fuel + 1 =>
    let signed (f : Int → Int) : Calc Int := do
      readToken fuel depth
      let n ← unary fuel depth
      modify fun s => { s with before := .number }
      return f n
    match (← get).token with
    | .sign "!" => signed fun n => if n = 0 then 1 else 0
    | .sign "~" => signed fun n => -n - 1
    | .sign "-" => signed fun n => Shell.Arithmetic.wrap (-n)
    | .sign "+" => signed id
    | _ => primary fuel depth

def primary (fuel depth : Nat) : Calc Int := do
  match fuel with
  | 0 => told
  | fuel + 1 =>
    let s ← get
    match s.token with
    | .number =>
      readToken fuel depth
      return s.value
    | .name =>
      set { s with idle := true }
      readToken fuel depth
      let next := (← get).token
      if next = .sign "+++" ∨ next = .sign "---" then
        let change : Int := if next = .sign "+++" then 1 else -1
        modify fun t => { t with idle := s.idle, name := s.name }
        assign fuel depth s.name (Shell.Arithmetic.wrap (s.value + change))
        modify fun t => { t with token := .number, before := .name }
        readToken fuel depth
      else
        set s
        readToken fuel depth
      return s.value
    | .sign "(" =>
      readToken fuel depth
      let value ← comma fuel depth
      if (← get).token ≠ .sign ")" then fault "missing \x60)'"
      readToken fuel depth
      return value
    | .sign op =>
      if op ≠ "++" ∧ op ≠ "--" then fault "syntax error: operand expected"
      readToken fuel depth
      let t ← get
      if t.token ≠ .name then
        fault "identifier expected after pre-increment or pre-decrement"
      let value := Shell.Arithmetic.wrap (t.value + if op = "++" then 1 else -1)
      assign fuel depth t.name value
      modify fun t => { t with token := .number, before := .sign op }
      readToken fuel depth
      return value
    | .nothing => fault "syntax error: operand expected"

end

end Arithmetic

/-- Bounds the steps of a calculation. -/
def calculationBound (text : List Char) : Nat := 64 * (text.length + 64) + 65536

/-- The value of an expression, or none if a fault has been told; complaints begin with `lead`. -/
def calculate? (lead : String) (text : List Char) : Act (Option Int) := do
  match ← (Arithmetic.whole (calculationBound text) 0 text false).run with
  | .ok n => return some n
  | .error none => return none
  | .error (some message) =>
    report (lead ++ message)
    return none

/-- The value of an expression; a fault drops the commands that were read together. -/
def calculate (lead : String) (text : List Char) : Act Int := do
  match ← calculate? lead text with
  | some n => return n
  | none => drop

/-- The value of a subscript; a fault drops the commands of all texts. -/
def subscriptOf (text : List Char) : Act Int := do
  match ← calculate? "" text with
  | some n => return n
  | none => abandon

/-- The value that a variable for numbers gets; a fault drops the commands of all texts. -/
def numberOf (text : List Char) : Act Int := do
  match ← calculate? (← get).complainer text with
  | some n => return n
  | none => abandon

end PlaybookScan.Shell.Bash

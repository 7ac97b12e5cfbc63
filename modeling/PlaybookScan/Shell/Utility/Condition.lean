import PlaybookScan.Shell.Arithmetic
import PlaybookScan.Shell.State

/-!
# Conditions

The expressions of `test`: questions about texts, numbers and files, joined by `-a`, `-o` and `!`.
Each function here takes the words from the current one on, and answers the words from the last one
that it has read on.
-/

set_option autoImplicit false

namespace PlaybookScan.Shell.Condition

/-- What a word is at its place. -/
inductive Sign where
  | operand
  | unary
  | binary
  | negation
  | conjunction
  | disjunction
  | opening
  | closing
  | nothing
  deriving DecidableEq

def binaryOperators : List String :=
  ["=", "!=", "<", ">", "-eq", "-ne", "-lt", "-le", "-gt", "-ge", "-ef", "-nt", "-ot"]

def unaryOperators : List String :=
  ["-n", "-z", "-e", "-f", "-d", "-r", "-w", "-x", "-s", "-L", "-h", "-p", "-S", "-b", "-c", "-t",
    "-u", "-g", "-k", "-O", "-G"]

/-- A unary operator is an operand if no word follows it, or a binary operator with its operand. -/
def isOperand : List String → Bool
  | [_] => true
  | [_, _] => false
  | _ :: next :: _ => binaryOperators.contains next
  | [] => false

/-- What the first of the words is. -/
def sign (words : List String) : Sign :=
  match words with
  | [] => .nothing
  | "!" :: _ => .negation
  | "-a" :: _ => .conjunction
  | "-o" :: _ => .disjunction
  | "(" :: rest => if rest = [] then .operand else .opening
  | ")" :: _ => .closing
  | word :: _ =>
    if binaryOperators.contains word then .binary
    else if unaryOperators.contains word && !isOperand words then .unary
    else .operand

/-- A truth value and the words behind it, or a complaint. -/
abbrev Answer := Except String (Bool × List String)

def number (text : String) : Except String Int :=
  match Arithmetic.ofText? text with
  | some n => .ok n
  | none => .error ("Illegal number: " ++ text)

/-- Both words name the same thing on the disk. -/
def sameFile (s : State) (a b : String) : Bool :=
  match s.disk.locate true s.cwd (State.path a), s.disk.locate true s.cwd (State.path b) with
  | .ok (place, some _), .ok (other, some _) => place == other
  | _, _ => false

def binary (s : State) (a op b : String) : Except String Bool :=
  match op with
  | "=" => .ok (a == b)
  | "!=" => .ok (a != b)
  | "<" => .ok (decide (a.toList < b.toList))
  | ">" => .ok (decide (b.toList < a.toList))
  | "-eq" => return (← number a) == (← number b)
  | "-ne" => return (← number a) != (← number b)
  | "-lt" => return (← number a) < (← number b)
  | "-le" => return (← number a) ≤ (← number b)
  | "-gt" => return (← number a) > (← number b)
  | "-ge" => return (← number a) ≥ (← number b)
  | "-ef" => .ok (sameFile s a b)
  | _ => .ok false

def unary (s : State) (op a : String) : Bool :=
  let path := State.path a
  match op with
  | "-n" => a != ""
  | "-z" => a == ""
  | "-L" | "-h" => match s.disk.locate false s.cwd path with
    | .ok (_, some (.link _)) => true
    | _ => false
  | "-t" | "-p" | "-S" | "-b" => false
  | op => match s.disk.node s.cwd path with
    | .error _ => false
    | .ok node => match op, node with
      | "-d", node => node.isDirectory
      | "-f", .file .. | "-f", .utility _ => true
      | "-f", _ => false
      | "-s", .file content _ => !content.isEmpty
      | "-x", .file _ mode => Node.isExecutable mode
      | "-u", .file _ mode => mode &&& 0o4000 != 0
      | "-g", .file _ mode => mode &&& 0o2000 != 0
      | "-k", .file _ mode => mode &&& 0o1000 != 0
      | "-u", _ | "-g", _ | "-k", _ => false
      | "-c", .device _ => true
      | "-c", _ => false
      | _, _ => true

mutual

/-- Conditions joined by `-o`. -/
def disjunction (fuel : Nat) (s : State) (words : List String) : Answer :=
  match fuel with
  | 0 => .error "argument expected"
  | fuel + 1 => do
    let (a, words) ← conjunction fuel s words
    if sign words.tail = .disjunction then
      let (b, words) ← disjunction fuel s (words.drop 2)
      return (a || b, words)
    else return (a, words)

/-- Conditions joined by `-a`. -/
def conjunction (fuel : Nat) (s : State) (words : List String) : Answer :=
  match fuel with
  | 0 => .error "argument expected"
  | fuel + 1 => do
    let (a, words) ← negation fuel s words
    if sign words.tail = .conjunction then
      let (b, words) ← conjunction fuel s (words.drop 2)
      return (a && b, words)
    else return (a, words)

/-- A condition behind any number of `!`. -/
def negation (fuel : Nat) (s : State) (words : List String) : Answer :=
  match fuel with
  | 0 => .error "argument expected"
  | fuel + 1 =>
    if sign words = .negation then
      match words with
      | [only] => .ok (true, [only])
      | words => do
        let (a, words) ← negation fuel s words.tail
        return (!a, words)
    else primary fuel s words

/-- One question. -/
def primary (fuel : Nat) (s : State) (words : List String) : Answer :=
  match fuel with
  | 0 => .error "argument expected"
  | fuel + 1 =>
    match words, sign words with
    | [], _ => .ok (false, [])
    | _ :: rest, .opening =>
      if sign rest = .closing then .ok (false, rest)
      else do
        let (truth, words) ← disjunction fuel s rest
        if sign words.tail = .closing then return (truth, words.tail)
        else throw "closing paren expected"
    | op :: rest, .unary =>
      match rest with
      | a :: after => .ok (unary s op a, a :: after)
      | [] => .error (op ++ ": argument expected")
    | a :: rest, _ => question s a rest

/-- A question that begins with the operand `a`. -/
def question (s : State) (a : String) (rest : List String) : Answer :=
  match sign rest, rest with
  | .binary, op :: b :: after => (binary s a op b).map (·, b :: after)
  | .binary, op :: [] => .error (op ++ ": argument expected")
  | _, rest => .ok (a != "", a :: rest)

end

/-- The truth of words that are not special by their number. -/
def general (s : State) (words : List String) : Except String Bool := do
  let (truth, words) ← disjunction (5 * words.length + 5) s words
  match words with
  | word :: _ :: _ => throw (word ++ ": unexpected operator")
  | _ => return truth

/-- The truth of the words; `fuel` is their number. -/
def eval (fuel : Nat) (s : State) (words : List String) : Except String Bool :=
  match fuel, words with
  | _, [] => .ok false
  | 0, words => general s words
  | fuel + 1, words =>
    let isThree := words.length == 3
    if isThree && binaryOperators.contains (words.getD 1 "") then
      match words with
      | [a, op, b] => binary s a op b
      | words => general s words
    else if (isThree || words.length == 4) && words.head? == some "(" &&
        words.getLast? == some ")" then
      general s words.tail.dropLast
    else if (isThree || words.length == 4) && words.head? == some "!" then
      (eval fuel s words.tail).map (!·)
    else general s words

end PlaybookScan.Shell.Condition

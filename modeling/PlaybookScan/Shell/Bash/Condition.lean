import PlaybookScan.Shell.Bash.Expand
import PlaybookScan.Shell.Bash.Parser
import PlaybookScan.Shell.Regex.Posix
import PlaybookScan.Shell.Utility.Condition

/-!
# Conditions of the large shell

Questions about texts, numbers, files and variables. Between double brackets words are not split,
the right side of an equation is a pattern, and numbers are expressions; the command `test` works on
words that have been split.
-/

set_option autoImplicit false

namespace PlaybookScan.Shell.Bash.Condition

/-- The operand names a variable, or an element, that has a value. -/
def isSet (operand : String) : Act Bool := do
  let name := operand.toList.takeWhile (· ≠ '[')
  let inside := (operand.toList.drop (name.length + 1)).dropLast
  let name := String.ofList name
  let v := (← get).lookup? name
  if inside = [] then return (v.bind (Variable.text? · .none)).isSome
  if inside = ['@'] ∨ inside = ['*'] then return (v.map Variable.elements).any (· ≠ [])
  match v with
  | none => return false
  | some v =>
    if Variable.isKeyed v then
      return (Variable.text? v (.name (Arithmetic.unquotedKey inside))).isSome
    return (Variable.text? v (.number (← subscriptOf inside).toNat)).isSome

/-- A question about one operand. -/
def unary (op operand : String) : Act Bool := do
  let s ← get
  match op with
  | "-n" => return operand != ""
  | "-z" => return operand == ""
  | "-v" => isSet operand
  | "-R" => return (s.bindings.lookup operand).any (Variable.has · 'n')
  | "-o" => return (optionNames.lookup operand).any s.has
  | "-N" => return false
  | "-a" => return Shell.Condition.unary s.toState "-e" operand
  | op => return operand != "" && Shell.Condition.unary s.toState op operand

/-- There is a file of this name. -/
def isThere (s : Session) (name : String) : Bool := Shell.Condition.unary s.toState "-e" name

/-- A question about two texts, or files. -/
def texts (s : Session) (op a b : String) : Bool :=
  match op with
  | "=" | "==" => a == b
  | "!=" => a != b
  | "<" => a.toList < b.toList
  | ">" => b.toList < a.toList
  | "-ef" => Shell.Condition.sameFile s.toState a b
  | "-nt" => isThere s a && !isThere s b
  | "-ot" => !isThere s a && isThere s b
  | _ => false

/-- A question about two numbers, if the operator asks one. -/
def numbers? (op : String) (a b : Int) : Option Bool :=
  match op with
  | "-eq" => some (a == b)
  | "-ne" => some (a != b)
  | "-lt" => some (a < b)
  | "-le" => some (a ≤ b)
  | "-gt" => some (b < a)
  | "-ge" => some (b ≤ a)
  | _ => none

/-! ## Between double brackets -/

/-- The regular expression of marked characters; quoted ones stand for themselves. -/
def expression (ms : List Mark) : List Char :=
  ms.flatMap fun m =>
    if !m.active && "\\.^$*+?()[]\x7b\x7d|".contains m.char then ['\\', m.char] else [m.char]

/-- The rules by which regular expressions are read. -/
def rules (folded : Bool) : Regex.Rules := ⟨.extended, false, folded, false⟩

/-- Looks for a regular expression in a text; the variable for matches gets the groups. Answers the
status. -/
def search (text : String) (ms : List Mark) : Act Nat := do
  let folded := (← get).enables "nocasematch"
  match (rules folded).read (expression ms) with
  | .error _ => return 2
  | .ok (regex, reading) =>
    let cs := text.toList
    let finder : Regex.Finder := ⟨regex, true⟩
    let groups : List String := match finder.find? cs 0 with
      | none => []
      | some found => (List.range (reading.groups + 1)).map fun n =>
          String.ofList ((found.group? cs n).getD [])
    let v := Session.indexed groups
    putVariable "BASH_REMATCH" v
    return if groups = [] then 1 else 0

/-- The status of a condition; `fuel` bounds its depth. -/
def status (r : Runner) (fuel : Nat) (test : Test Word) : Act Nat := do
  match fuel with
  | 0 => return 2
  | fuel + 1 =>
    let truth (b : Bool) : Act Nat := return if b then 0 else 1
    match test with
    | .word w => truth ((← Expand.whole r w) != "")
    | .unary op w => truth (← unary op (← Expand.whole r w))
    | .binary op left right =>
      let a ← Expand.whole r left
      if ["-eq", "-ne", "-lt", "-le", "-gt", "-ge"].contains op then
        let b ← Expand.whole r right
        match ← calculate? "[[: " a.toList with
        | none => return 1
        | some n =>
          match ← calculate? "[[: " b.toList with
          | none => return 1
          | some m => truth ((numbers? op n m).getD false)
      else if ["=", "==", "!="].contains op then
        let ms ← Expand.marksOf r right
        let folded := (← get).enables "nocasematch"
        let lower (c : Char) : Char := if folded then c.toLower else c
        let glob := Glob.ofMarks true ms.length (ms.map fun m => ⟨lower m.char, m.active⟩)
        truth (Glob.isMatch glob (a.toList.map lower) != (op == "!="))
      else if op = "=~" then search a (← Expand.marksOf r right)
      else truth (texts (← get) op a (← Expand.whole r right))
    | .negate test =>
      match ← status r fuel test with
      | 0 => return 1
      | 1 => return 0
      | n => return n
    | .both first second =>
      match ← status r fuel first with
      | 0 => status r fuel second
      | n => return n
    | .either first second =>
      match ← status r fuel first with
      | 0 => return 0
      | _ => status r fuel second
    | .group test => status r fuel test

/-! ## In the command -/

/-- A truth value and the words behind it, or a complaint. -/
abbrev Answer := ExceptT String Act (Bool × List String)

def isUnary (word : String) : Bool := Parser.unaryOperators.contains word

def isBinary (word : String) : Bool := Parser.binaryOperators.contains word && word != "=~"

/-- A whole number with blanks around it. -/
def integer (text : String) : ExceptT String Act Int := do
  let cs := Shell.Arithmetic.trim (Shell.Arithmetic.trim text.toList).reverse
  match Brace.integer? cs.reverse with
  | some n =>
    if Shell.Arithmetic.clamp n = n then return n
    else throw (text ++ ": integer expression expected")
  | none => throw (text ++ ": integer expression expected")

def binary (a op b : String) : ExceptT String Act Bool := do
  if (numbers? op 0 0).isSome then
    let n ← integer a
    let m ← integer b
    return (numbers? op n m).getD false
  return texts (← get) op a b

def single (op operand : String) : ExceptT String Act Bool := do
  if op = "-t" then discard <| integer operand
  unary op operand

mutual

/-- Conditions joined by `-o`. -/
def disjunction (fuel : Nat) (words : List String) : Answer := do
  match fuel with
  | 0 => throw "argument expected"
  | fuel + 1 =>
    match ← conjunction fuel words with
    | (a, "-o" :: rest) =>
      let (b, rest) ← disjunction fuel rest
      return (a || b, rest)
    | found => return found

/-- Conditions joined by `-a`. -/
def conjunction (fuel : Nat) (words : List String) : Answer := do
  match fuel with
  | 0 => throw "argument expected"
  | fuel + 1 =>
    match ← term fuel words with
    | (a, "-a" :: rest) =>
      let (b, rest) ← conjunction fuel rest
      return (a && b, rest)
    | found => return found

/-- One question. -/
def term (fuel : Nat) (words : List String) : Answer := do
  match fuel with
  | 0 => throw "argument expected"
  | fuel + 1 =>
    match words with
    | [] => throw "argument expected"
    | "!" :: rest =>
      let (a, rest) ← term fuel rest
      return (!a, rest)
    | "(" :: rest =>
      match ← disjunction fuel rest with
      | (a, ")" :: rest) => return (a, rest)
      | (_, []) => throw "\x60)' expected"
      | (_, word :: _) => throw ("\x60)' expected, found " ++ word)
    | a :: rest =>
      match rest with
      | op :: b :: after =>
        if isBinary op then return (← binary a op b, after)
        else if isUnary a then return (← single a op, b :: after)
        else return (a != "", rest)
      | [operand] => if isUnary a then return (← single a operand, []) else return (a != "", rest)
      | [] => if isUnary a then throw "argument expected" else return (a != "", [])

end

/-- The truth of words that are not special by their number. -/
def general (words : List String) : ExceptT String Act Bool := do
  match ← disjunction (4 * words.length + 4) words with
  | (a, []) => return a
  | _ => throw "too many arguments"

def two (a b : String) : ExceptT String Act Bool := do
  if a = "!" then return b == ""
  if isUnary a then single a b
  else throw (a ++ ": unary operator expected")

def three (a op b : String) : ExceptT String Act Bool := do
  if isBinary op then binary a op b
  else if op = "-a" then return a != "" && b != ""
  else if op = "-o" then return a != "" || b != ""
  else if a = "!" then return !(← two op b)
  else if a = "(" ∧ b = ")" then return op != ""
  else throw (op ++ ": binary operator expected")

/-- The truth of the words. -/
def eval (words : List String) : ExceptT String Act Bool := do
  match words with
  | [] => return false
  | [a] => return a != ""
  | [a, b] => two a b
  | [a, op, b] => three a op b
  | [a, b, c, d] =>
    if a = "!" then return !(← three b c d)
    else if a = "(" ∧ d = ")" then two b c
    else general words
  | words => general words

end PlaybookScan.Shell.Bash.Condition

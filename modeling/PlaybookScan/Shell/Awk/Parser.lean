import PlaybookScan.Shell.Awk.Lexer
import PlaybookScan.Shell.Awk.Syntax

/-!
# Reading record programs

The words of a program become its rules and functions. A complaint about a statement does not end
the reading, so that there may be several.
-/

set_option autoImplicit false

namespace PlaybookScan.Shell.Awk

/-- What a name stands for. -/
inductive Kind where
  | variable
  | array
  deriving DecidableEq

def Kind.shown : Kind → String
  | .variable => "variable"
  | .array => "array"

/-- A call whose function may come later. -/
structure Pending where
  name : String
  count : Nat
  line : Nat

/-- The words that are left, and what is known of the program so far. -/
structure Source where
  tokens : List Token
  kinds : List (String × Kind)
  functions : List (String × Nat)
  pending : List Pending
  /-- The names of the arguments of the function that is read. -/
  arguments : List String
  inFunction : Bool
  /-- The rule that is read is followed for records. -/
  perRecord : Bool
  loops : Nat
  /-- Parentheses and braces that are open. -/
  parentheses : Nat
  braces : Nat
  /-- The last comes first. -/
  complaints : List Complaint

abbrev Parse (α : Type) := ExceptT Complaint (StateM Source) α

namespace Parse

/-- Complains, and goes on. -/
def note (message : String) : Parse Unit := do
  let line := ((← get).tokens.headD default).line
  modify fun s => { s with complaints := ⟨line, message, false⟩ :: s.complaints }

/-- The next word. Parentheses and braces that were not opened are complained of and left out. -/
def peek : Parse Word := do
  let extra (sign : String) (rest : List Token) : Parse Word := do
    note ("extra '" ++ sign ++ "'")
    modify fun s => { s with tokens := rest }
    return (rest.headD default).word
  match (← get).tokens with
  | ⟨_, .sign ")"⟩ :: rest =>
    if (← get).parentheses = 0 then extra ")" rest else return .sign ")"
  | ⟨_, .sign "\x7d"⟩ :: rest =>
    if (← get).braces = 0 then extra "\x7d" rest else return .sign "\x7d"
  | t :: _ => return t.word
  | [] => return .theEnd

/-- Goes behind the next word. -/
def advance : Parse Unit := modify fun s =>
  let s := match (s.tokens.headD default).word with
    | .sign "(" => { s with parentheses := s.parentheses + 1 }
    | .sign ")" => { s with parentheses := s.parentheses - 1 }
    | .sign "\x7b" => { s with braces := s.braces + 1 }
    | .sign "\x7d" => { s with braces := s.braces - 1 }
    | _ => s
  { s with tokens := s.tokens.tail }

/-- The next word cannot stand there. -/
def wrong {α : Type} : Parse α := do
  let word ← peek
  let s ← get
  let line := (s.tokens.headD default).line
  let missing (sign : String) : Parse α :=
    throw ⟨line, "missing " ++ sign ++ " near " ++ word.shown, false⟩
  match word with
  | .theEnd =>
    if 0 < s.braces then missing "\x7d"
    else throw ⟨line, "syntax error at or near end of file", false⟩
  | .newline | .sign ";" | .sign "\x7d" =>
    if 0 < s.parentheses then missing ")"
    else throw ⟨line, "syntax error at or near " ++ word.shown, false⟩
  | _ => throw ⟨line, "syntax error at or near " ++ word.shown, false⟩

def isSign (s : String) : Parse Bool := do
  match ← peek with
  | .sign t => return s == t
  | _ => return false

def isKeyword (s : String) : Parse Bool := do
  match ← peek with
  | .keyword t => return s == t
  | _ => return false

/-- Goes behind a sign if it comes next. -/
def sign? (s : String) : Parse Bool := do
  if ← isSign s then
    advance
    return true
  else return false

def expect (s : String) : Parse Unit := do
  if !(← sign? s) then wrong

/-- Goes behind the next of these signs. -/
def oneOf? (signs : List String) : Parse (Option String) := do
  match ← peek with
  | .sign s =>
    if signs.contains s then
      advance
      return some s
    else return none
  | _ => return none

def skipNewlines : Parse Unit := modify fun s =>
  { s with tokens := s.tokens.dropWhile fun t => match t.word with
      | .newline => true
      | _ => false }

/-- A name that is used as a variable or a table. -/
def named (kind : Kind) (name : String) : Parse Name := do
  let s ← get
  match s.arguments.findIdx? (· == name) with
  | some i => return .local i
  | none =>
    match s.kinds.lookup name with
    | some other =>
      if other ≠ kind then note ("illegal reference to " ++ other.shown ++ " " ++ name)
    | none => modify fun s => { s with kinds := (name, kind) :: s.kinds }
    return .global name

/-- A name that may be either. -/
def anyName (name : String) : Parse Name := do
  match (← get).arguments.findIdx? (· == name) with
  | some i => return .local i
  | none => return .global name

/-- The regular expression of a text. -/
def compiled (pattern : String) : Parse Expr := do
  match finder? pattern with
  | .ok f => return .pattern f
  | .error message =>
    note message
    return .pattern ⟨.empty, true⟩

/-- An expression that is used as a regular expression. -/
def asPattern : Expr → Parse Expr
  | .text s => compiled s
  | e => return e

/-- Repeats a step as long as it finds something. -/
def repeated (fuel : Nat) (step : Expr → Parse (Option Expr)) (e : Expr) : Parse Expr := do
  match fuel with
  | 0 => return e
  | fuel + 1 => match ← step e with
    | some e => repeated fuel step e
    | none => return e

end Parse

open Parse

def Expr.isPlace : Expr → Bool
  | .name _ | .element .. | .field _ => true
  | _ => false

/-- The word can begin an operand that stands directly behind another one. -/
def Word.beginsOperand : Word → Bool
  | .number .. | .text _ | .pattern _ | .name .. | .builtin _ => true
  | .keyword s => s == "getline"
  | .sign s => ["(", "!", "$", "++", "--"].contains s
  | _ => false

mutual

/-- An expression. In a `print` statement some signs tell where the output goes. -/
def expr (fuel : Nat) (inPrint : Bool) : Parse Expr := do
  match fuel with
  | 0 => wrong
  | fuel + 1 =>
    let condition ← disjunction fuel inPrint
    if ← sign? "?" then
      let yes ← expr fuel inPrint
      expect ":"
      let no ← expr fuel inPrint
      return .choose condition yes no
    else return condition

def disjunction (fuel : Nat) (inPrint : Bool) : Parse Expr := do
  match fuel with
  | 0 => wrong
  | fuel + 1 =>
    let first ← conjunction fuel inPrint
    repeated fuel (fun left => do
      if ← sign? "||" then
        skipNewlines
        return some (.either left (← conjunction fuel inPrint))
      else return none) first

def conjunction (fuel : Nat) (inPrint : Bool) : Parse Expr := do
  match fuel with
  | 0 => wrong
  | fuel + 1 =>
    let first ← membership fuel inPrint
    repeated fuel (fun left => do
      if ← sign? "&&" then
        skipNewlines
        return some (.both left (← membership fuel inPrint))
      else return none) first

def membership (fuel : Nat) (inPrint : Bool) : Parse Expr := do
  match fuel with
  | 0 => wrong
  | fuel + 1 =>
    let first ← «matching» fuel inPrint
    repeated fuel (fun left => do
      if ← isKeyword "in" then
        advance
        return some (.member [left] (← table))
      else return none) first

def «matching» (fuel : Nat) (inPrint : Bool) : Parse Expr := do
  match fuel with
  | 0 => wrong
  | fuel + 1 =>
    let first ← comparison fuel inPrint
    repeated fuel (fun left => do
      match ← oneOf? ["~", "!~"] with
      | some op =>
        let pattern ← asPattern (← comparison fuel inPrint)
        return some (.matches (op == "!~") left pattern)
      | none => return none) first

def comparison (fuel : Nat) (inPrint : Bool) : Parse Expr := do
  match fuel with
  | 0 => wrong
  | fuel + 1 =>
    let signs := [("<", Comparison.less), ("<=", .atMost), ("==", .equal), ("!=", .unequal),
      (">=", .atLeast)] ++ if inPrint then [] else [(">", Comparison.greater)]
    let first ← concatenation fuel inPrint
    repeated fuel (fun left => do
      match (← oneOf? (signs.map Prod.fst)).bind fun s => signs.lookup s with
      | some op => return some (.compare op left (← concatenation fuel inPrint))
      | none => return none) first

/-- Operands behind each other, or an assignment. -/
def concatenation (fuel : Nat) (inPrint : Bool) : Parse Expr := do
  match fuel with
  | 0 => wrong
  | fuel + 1 =>
    let first ← sum fuel inPrint
    let op ← if first.isPlace then
        oneOf? ["=", "+=", "-=", "*=", "/=", "%=", "^="]
      else pure none
    match op with
    | some op =>
      let value ← expr fuel inPrint
      return .assign first (if op = "=" then none else op.toList.head?) value
    | none =>
      repeated fuel (fun left => do
        if (← peek).beginsOperand then
          match left with
          | .group (_ :: _ :: _) => wrong
          | left => return some (.concat left (← sum fuel inPrint))
        else return none) first

def sum (fuel : Nat) (inPrint : Bool) : Parse Expr := do
  match fuel with
  | 0 => wrong
  | fuel + 1 =>
    let first ← product fuel inPrint
    repeated fuel (fun left => do
      match ← oneOf? ["+", "-"] with
      | some op => return some (.arithmetic (op.toList.headD '+') left (← product fuel inPrint))
      | none => return none) first

def product (fuel : Nat) (inPrint : Bool) : Parse Expr := do
  match fuel with
  | 0 => wrong
  | fuel + 1 =>
    let first ← signed fuel inPrint
    repeated fuel (fun left => do
      match ← oneOf? ["*", "/", "%"] with
      | some op => return some (.arithmetic (op.toList.headD '*') left (← signed fuel inPrint))
      | none => return none) first

/-- An operand with the signs before it and the pipes behind it. -/
def signed (fuel : Nat) (inPrint : Bool) : Parse Expr := do
  match fuel with
  | 0 => wrong
  | fuel + 1 =>
    match ← oneOf? ["!", "-", "+"] with
    | some op => return .unary (op.toList.headD '!') (← signed fuel inPrint)
    | none =>
      let first ← power fuel inPrint
      repeated fuel (fun left => do
        if !inPrint && (← isSign "|") then
          advance
          if !(← isKeyword "getline") then wrong
          advance
          return some (.readOutput (← place? fuel) left)
        else return none) first

def power (fuel : Nat) (inPrint : Bool) : Parse Expr := do
  match fuel with
  | 0 => wrong
  | fuel + 1 =>
    let base ← stepped fuel inPrint
    if ← sign? "^" then
      match ← oneOf? ["!", "-", "+"] with
      | some op =>
        return .arithmetic '^' base (.unary (op.toList.headD '-') (← power fuel inPrint))
      | none => return .arithmetic '^' base (← power fuel inPrint)
    else return base

/-- An operand that may be changed by one. -/
def stepped (fuel : Nat) (inPrint : Bool) : Parse Expr := do
  match fuel with
  | 0 => wrong
  | fuel + 1 =>
    let e ← operand fuel inPrint
    if e.isPlace then
      match ← oneOf? ["++", "--"] with
      | some op => return .step false (op == "++") e
      | none => return e
    else return e

/-- A variable, an element or a field, if one comes next. -/
def place? (fuel : Nat) : Parse (Option Expr) := do
  match fuel with
  | 0 => wrong
  | fuel + 1 =>
    match ← peek with
    | .name name called =>
      if called && ((← get).functions.lookup name).isSome then return none
      else return some (← operand fuel false)
    | .sign "$" => return some (← operand fuel false)
    | _ => return none

/-- The name of a table. -/
def table : Parse Name := do
  match ← peek with
  | .name name _ =>
    advance
    named .array name
  | _ => wrong

/-- Expressions with commas between them, up to a closing sign. -/
def list (fuel : Nat) (close : String) : Parse (List Expr) := do
  match fuel with
  | 0 => wrong
  | fuel + 1 =>
    if ← sign? close then return []
    let e ← expr fuel false
    if ← sign? "," then
      skipNewlines
      if ← isSign close then wrong
      return e :: (← list fuel close)
    else
      expect close
      return [e]

def operand (fuel : Nat) (inPrint : Bool) : Parse Expr := do
  match fuel with
  | 0 => wrong
  | fuel + 1 =>
    match ← peek with
    | .number x _ => advance; return .number x
    | .text s => advance; return .text s
    | .pattern s => advance; compiled s
    | .sign "(" =>
      advance
      if ← isSign ")" then wrong
      let es ← list fuel ")"
      if ← isKeyword "in" then
        advance
        return .member es (← table)
      else if es.length = 1 ∨ inPrint then return .group es
      else wrong
    | .sign "$" =>
      advance
      match ← oneOf? ["-", "+", "!"] with
      | some op => return .field (.unary (op.toList.headD '-') (← operand fuel inPrint))
      | none => match ← operand fuel inPrint with
        | .name (.global "NF") =>
          -- a step behind it is one of the number itself
          match ← oneOf? ["++", "--"] with
          | some op => return .field (.step false (op == "++") (.name (.global "NF")))
          | none => return .field (.name (.global "NF"))
        | e => return .field e
    | .sign "++" | .sign "--" =>
      let up ← isSign "++"
      advance
      let e ← operand fuel inPrint
      if e.isPlace then return .step true up e else wrong
    | .keyword "getline" =>
      advance
      let target ← place? fuel
      if ← sign? "<" then return .readFile target (← power fuel inPrint)
      else return .read target
    | .name name called =>
      advance
      let s ← get
      let isVariable : Bool := s.arguments.contains name || (s.kinds.lookup name).isSome
      if !isVariable && (called || (s.functions.lookup name).isSome && (← isSign "(")) then
        let line := (s.tokens.headD default).line
        expect "("
        let args ← list fuel ")"
        modify fun s => { s with pending := ⟨name, args.length, line⟩ :: s.pending }
        return .call name args
      else if ← sign? "[" then
        let x ← named .array name
        return .element x (← list fuel "]")
      else match ← peek with
        | .sign "," | .sign ")" => return .name (← anyName name)
        | _ => return .name (← named .variable name)
    | .builtin name =>
      advance
      let some (least, most) := builtins.lookup name | wrong
      if ← isSign "(" then
        advance
        let args ← list fuel ")"
        if args.length < least ∨ most < args.length then
          note ("wrong number of arguments in call to " ++ name)
        arguments name args
      else if name = "length" then return .builtin name []
      else wrong
    | _ => wrong

/-- The call of a function that every program has. -/
def arguments (name : String) (args : List Expr) : Parse Expr := do
  match name, args with
  | "match", [s, p] => return .builtin name [s, ← asPattern p]
  | "split", s :: .name x :: rest =>
    let x ← match x with
      | .global x => named .array x
      | x => pure x
    return .builtin name (s :: .name x :: rest)
  | "sub", p :: rest | "gsub", p :: rest => return .builtin name ((← asPattern p) :: rest)
  | name, args => return .builtin name args

end

/-! ## Statements -/

/-- What ends a statement: a sign, the end of a line or of a block. -/
def separator : Parse Unit := do
  match ← peek with
  | .sign ";" | .newline =>
    advance
    skipNewlines
  | .sign "\x7d" => pure ()
  | _ => wrong

/-- A word ends a statement. -/
def Word.ends : Word → Bool
  | .newline | .theEnd => true
  | .sign s => s == ";" || s == "\x7d"
  | _ => false

/-- Several expressions in parentheses. -/
def Expr.isList : Expr → Bool
  | .group (_ :: _ :: _) => true
  | _ => false

/-- What a `print` statement writes. -/
def printed (fuel : Nat) (first : Bool) : Parse (List Expr) := do
  match fuel with
  | 0 => wrong
  | fuel + 1 =>
    let word ← peek
    let bare := match word with
      | .sign s => [">", ">>", "|"].contains s
      | _ => false
    if word.ends || bare then return []
    let e ← expr fuel true
    if ← sign? "," then
      if e.isList then wrong
      skipNewlines
      if (← peek).ends then wrong
      return e :: (← printed fuel false)
    else if e.isList && !first then wrong
    else return [e]

/-- Goes on behind the next separator. -/
def skipStatement : List Token → List Token
  | [] => []
  | t :: rest => match t.word with
    | .newline | .sign ";" | .sign "\x7d" | .theEnd => t :: rest
    | _ => skipStatement rest

/-- Complains of what cannot be read, and goes on behind it. -/
def recovering (act : Parse Statement) : Parse Statement := fun s =>
  match act s with
  | (.error c, t) =>
    let tokens := skipStatement t.tokens
    let tokens := match tokens with
      | ⟨_, .sign ";"⟩ :: rest | ⟨_, .newline⟩ :: rest => rest
      | tokens => tokens
    (.ok .nothing, { t with tokens, complaints := c :: t.complaints, parentheses := 0 })
  | found => found

mutual

def statement (fuel : Nat) : Parse Statement := do
  match fuel with
  | 0 => wrong
  | fuel + 1 =>
    let simple (s : Statement) : Parse Statement := do
      separator
      return s
    let body : Parse Statement := do
      modify fun s => { s with loops := s.loops + 1 }
      let s ← statement fuel
      modify fun s => { s with loops := s.loops - 1 }
      return s
    match ← peek with
    | .sign "\x7b" => block fuel
    | .sign ";" | .newline =>
      separator
      return .nothing
    | .keyword word =>
      match word with
      | "if" =>
        advance
        expect "("
        let condition ← expr (2 * fuel) false
        expect ")"
        skipNewlines
        let yes ← statement fuel
        if ← isKeyword "else" then
          advance
          skipNewlines
          return .choose condition yes (← statement fuel)
        else return .choose condition yes .nothing
      | "while" =>
        advance
        expect "("
        let condition ← expr (2 * fuel) false
        expect ")"
        skipNewlines
        return .while condition (← body)
      | "do" =>
        advance
        skipNewlines
        let s ← body
        skipNewlines
        if !(← isKeyword "while") then wrong
        advance
        expect "("
        let condition ← expr (2 * fuel) false
        expect ")"
        simple (.doWhile s condition)
      | "for" =>
        advance
        expect "("
        match (← get).tokens with
        | ⟨_, .name x _⟩ :: ⟨_, .keyword "in"⟩ :: ⟨_, .name t _⟩ :: ⟨_, .sign ")"⟩ :: _ =>
          advance
          advance
          advance
          advance
          let x ← named .variable x
          let t ← named .array t
          skipNewlines
          return .each x t (← body)
        | _ =>
          let part (close : String) : Parse (Option Expr) := do
            if ← sign? close then return none
            let e ← expr (2 * fuel) false
            expect close
            return some e
          let start ← part ";"
          skipNewlines
          let condition ← part ";"
          skipNewlines
          let step ← part ")"
          skipNewlines
          let asStatement (e : Option Expr) : Statement := (e.map Statement.expr).getD .nothing
          return .loop (asStatement start) condition (asStatement step) (← body)
      | "break" | "continue" =>
        advance
        if (← get).loops = 0 then note (word ++ " statement outside of loop")
        simple (if word = "break" then .leave else .again)
      | "next" | "nextfile" =>
        advance
        if !(← get).perRecord then note ("improper use of " ++ word)
        simple (if word = "next" then .next else .nextFile)
      | "exit" | "return" =>
        advance
        if word = "return" ∧ !(← get).inFunction then note "return outside function body"
        let value ← if (← peek).ends then pure none else do pure (some (← expr (2 * fuel) false))
        simple (if word = "exit" then .exit value else .give value)
      | "delete" =>
        advance
        let t ← table
        if ← sign? "[" then
          let keys ← list (2 * fuel) "]"
          simple (.delete t (some keys))
        else simple (.delete t none)
      | "print" | "printf" =>
        advance
        let args ← printed (2 * fuel) true
        let args := match args with
          | [.group es] => es
          | args => args
        if word = "printf" ∧ args = [] then note "no arguments in call to printf"
        let target ← match ← oneOf? [">", ">>", "|"] with
          | some op =>
            let kind : Target := if op = ">" then .write else if op = ">>" then .append else .pipe
            pure (some (kind, ← expr (2 * fuel) false))
          | none => pure none
        simple (.print (word == "printf") args target)
      | "getline" => simple (.expr (← expr (2 * fuel) false))
      | _ => wrong
    | _ => simple (.expr (← expr (2 * fuel) false))

/-- Statements in braces. -/
def block (fuel : Nat) : Parse Statement := do
  match fuel with
  | 0 => wrong
  | fuel + 1 =>
    expect "\x7b"
    skipNewlines
    let body ← statements fuel
    expect "\x7d"
    skipNewlines
    return .block body

def statements (fuel : Nat) : Parse (List Statement) := do
  match fuel with
  | 0 => wrong
  | fuel + 1 =>
    match ← peek with
    | .sign "\x7d" => return []
    | .theEnd => wrong
    | _ =>
      let s ← recovering (statement fuel)
      return s :: (← statements fuel)

end

/-! ## Programs -/

/-- The names of the arguments of a function. -/
def parameters (fuel : Nat) : Parse (List String) := do
  match fuel with
  | 0 => wrong
  | fuel + 1 =>
    if ← sign? ")" then return []
    match ← peek with
    | .name name _ =>
      advance
      if ← sign? "," then
        skipNewlines
        let others ← parameters fuel
        if others.contains name then note (name ++ " is duplicated in argument list")
        return name :: others
      else
        expect ")"
        return [name]
    | _ => wrong

def function (fuel : Nat) : Parse (String × Function) := do
  match ← peek with
  | .name name _ =>
    let s ← get
    if (s.functions.lookup name).isSome then note ("redefinition of " ++ name)
    match s.kinds.lookup name with
    | some kind => note ("illegal reference to " ++ kind.shown ++ " " ++ name)
    | none => pure ()
    advance
    expect "("
    let names ← parameters fuel
    modify fun s => { s with
      arguments := names, inFunction := true, functions := (name, names.length) :: s.functions }
    skipNewlines
    let body ← block fuel
    modify fun s => { s with arguments := [], inFunction := false }
    return (name, ⟨names.length, body⟩)
  | _ => wrong

def rule (fuel : Nat) : Parse Rule := do
  let record : Statement := .print false [] none
  match ← peek with
  | .keyword "BEGIN" => advance; return ⟨.start, ← block fuel⟩
  | .keyword "END" => advance; return ⟨.finish, ← block fuel⟩
  | .sign "\x7b" =>
    modify fun s => { s with perRecord := true }
    return ⟨.always, ← block fuel⟩
  | _ =>
    let first ← expr (2 * fuel) false
    let condition ← if ← sign? "," then do
        skipNewlines
        pure (Condition.range first (← expr (2 * fuel) false))
      else pure (.when first)
    modify fun s => { s with perRecord := true }
    match ← peek with
    | .sign "\x7b" => return ⟨condition, ← block fuel⟩
    | .theEnd => return ⟨condition, record⟩
    | _ =>
      separator
      return ⟨condition, record⟩

def items (fuel : Nat) (done : Program) : Parse Program := do
  match fuel with
  | 0 => wrong
  | fuel + 1 =>
    match ← peek with
    | .theEnd => return done
    | .keyword "function" =>
      advance
      let f ← function fuel
      let _ ← sign? ";"
      skipNewlines
      items fuel { done with functions := f :: done.functions }
    | _ =>
      let r ← rule fuel
      modify fun s => { s with perRecord := false }
      let _ ← sign? ";"
      skipNewlines
      items fuel { done with rules := r :: done.rules }

/-- The variables that every program has. -/
def ownVariables : List (String × Kind) :=
  (["NR", "NF", "FNR", "FS", "OFS", "ORS", "RS", "RSTART", "RLENGTH", "SUBSEP", "CONVFMT", "OFMT",
    "FILENAME", "ARGC"].map (·, Kind.variable)) ++ [("ENVIRON", .array), ("ARGV", .array)]

/-- Reads a program. -/
def Program.parse (text : List Char) : Except (List Complaint) Program :=
  match Lexer.words (text.length + 1) 1 .newline text with
  | .error c => .error [c]
  | .ok tokens =>
    let fuel := 16 * tokens.length + 64
    let start : Source :=
      ⟨tokens, ownVariables, [], [], [], false, false, 0, 0, 0, []⟩
    match (do skipNewlines; items fuel ⟨[], []⟩ : Parse Program) start with
    | (.error c, s) => .error (s.complaints.reverse ++ [c])
    | (.ok p, s) =>
      let last := (s.tokens.headD default).line
      let pending := if s.complaints.isEmpty then s.pending.reverse else []
      let calls := pending.filterMap fun c =>
        match p.functions.lookup c.name with
        | none => some ⟨last, "function " ++ c.name ++ " never defined", false⟩
        | some f => if f.arity < c.count then
            some ⟨c.line, "too many arguments in call to " ++ c.name, false⟩ else none
      match s.complaints.reverse ++ calls with
      | [] => .ok ⟨p.rules.reverse, p.functions⟩
      | complaints => .error complaints

end PlaybookScan.Shell.Awk

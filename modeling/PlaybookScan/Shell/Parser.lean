import PlaybookScan.Shell.Lexer

/-!
# Grammar of the shell language

Commands are read from tokens by recursive descent, one complete line of commands at a time, so that
the lines before a fault can be run.
-/

set_option autoImplicit false

namespace PlaybookScan.Shell

/-- A fault in a script; the message names it. -/
structure SyntaxError where
  line : Nat
  message : String

namespace Parser

abbrev Parse (α : Type) := List Token → Except SyntaxError (α × List Token)

/-- The text of a word that is plain. -/
def plain? : Word → Option String
  | [.text cs false] => some (String.ofList cs)
  | _ => none

/-- The words that end a list of commands. -/
def closers : List String := ["then", "else", "elif", "fi", "do", "done", "esac", "\x7d"]

def reserved : List String := closers ++ ["if", "while", "until", "for", "case", "in", "\x7b", "!"]

def TokenKind.describe : TokenKind → String
  | .word w => match plain? w with
    | some s => if reserved.contains s then "\"" ++ s ++ "\"" else "word"
    | none => "word"
  | .number _ => "redirection"
  | .operator op =>
    if op.startsWith "<" || op.startsWith ">" then "redirection" else "\"" ++ op ++ "\""
  | .document _ => "word"
  | .newline => "newline"
  | .theEnd => "end of file"
  | .fault message => message

/-- The complaint about the next token. -/
def unexpected {α : Type} (expected : Option String) : Parse α
  | [] => .error ⟨0, "end of file unexpected"⟩
  | ⟨line, .fault message⟩ :: _ => .error ⟨line, message⟩
  | ⟨line, kind⟩ :: _ =>
    let hint := match expected with
      | some e => " (expecting " ++ e ++ ")"
      | none => ""
    .error ⟨line, TokenKind.describe kind ++ " unexpected" ++ hint⟩

/-- The next token as a plain word. -/
def nextPlain? : List Token → Option String
  | ⟨_, .word w⟩ :: _ => plain? w
  | _ => none

def nextOperator? : List Token → Option String
  | ⟨_, .operator op⟩ :: _ => some op
  | _ => none

/-- Takes the reserved word `s`. -/
def keyword (s : String) : Parse Unit := fun ts =>
  if nextPlain? ts = some s then .ok ((), ts.tail) else unexpected (some ("\"" ++ s ++ "\"")) ts

/-- Takes the operator `s`. -/
def operator (s : String) : Parse Unit := fun ts =>
  if nextOperator? ts = some s then .ok ((), ts.tail)
  else unexpected (some ("\"" ++ s ++ "\"")) ts

def skipNewlines : List Token → List Token
  | ⟨_, .newline⟩ :: ts => skipNewlines ts
  | ts => ts

/-- A name, an equals sign and a value. -/
def assignment? : Word → Option (String × Word)
  | .text cs false :: rest =>
    let name := cs.takeWhile Text.isWordChar
    match cs.dropWhile Text.isWordChar with
    | '=' :: value =>
      if (name.head?.map Lexer.isNameStart).getD false then
        some (String.ofList name, if value = [] then rest else .text value false :: rest)
      else none
    | _ => none
  | _ => none

def redirectKind? : String → Option (Nat × RedirectKind)
  | "<" => some (0, .read)
  | "<>" => some (0, .readWrite)
  | ">" => some (1, .write)
  | ">|" => some (1, .clobber)
  | ">>" => some (1, .append)
  | "<&" => some (0, .duplicate)
  | ">&" => some (1, .duplicate)
  | "<<" | "<<-" => some (0, .here)
  | _ => none

/-- A redirection, if one stands next. -/
def redirect? (ts : List Token) : Except SyntaxError (Option Redirect × List Token) :=
  let (number, rest) := match ts with
    | ⟨_, .number n⟩ :: rest => (some n, rest)
    | _ => (none, ts)
  match (nextOperator? rest).bind redirectKind? with
  | none => .ok (none, ts)
  | some (standard, kind) =>
    match rest.tail with
    | ⟨_, .word w⟩ :: rest | ⟨_, .document w⟩ :: rest =>
      .ok (some ⟨number.getD standard, kind, w⟩, rest)
    | rest => unexpected none rest

/-- The redirections that stand next. -/
def redirects (fuel : Nat) (done : List Redirect) : Parse (List Redirect) := fun ts => do
  match fuel with
  | 0 => return (done.reverse, ts)
  | fuel + 1 =>
    match ← redirect? ts with
    | (some r, ts) => redirects fuel (r :: done) ts
    | (none, ts) => return (done.reverse, ts)

/-- The words, assignments and redirections of a simple command, each last first. -/
structure Parts where
  assigns : List (String × Word)
  words : List Word
  redirects : List Redirect

def Parts.command (p : Parts) (line : Nat) : Command :=
  .simple line p.assigns.reverse p.words.reverse p.redirects.reverse

/-- Texts that words in the place of a command stand for. -/
abbrev Aliases := List (String × String)

/-- Makes the words that are `name` stand for themselves: their piece is not the only one. -/
def fixWord (name : String) (t : Token) : Token :=
  match t.kind with
  | .word w =>
    if plain? w = some name then { t with kind := .word (w ++ [.text [] false]) } else t
  | _ => t

/-- Puts the text of an alias into the place of the next token. If the text ends in a blank, the
token behind it may be an alias too. `fuel` bounds the number of aliases. -/
def expandAlias (aliases : Aliases) : Nat → List Token → List Token
  | fuel + 1, ⟨line, .word w⟩ :: rest =>
    match (plain? w).bind fun name => (aliases.lookup name).map (name, ·) with
    | none => ⟨line, .word w⟩ :: rest
    | some (name, text) =>
      if reserved.contains name then ⟨line, .word w⟩ :: rest
      else
        let last := text.toList.getLast?
        let rest := if last = some ' ' ∨ last = some '\t' then expandAlias aliases fuel rest
          else rest
        let isEnd (t : Token) : Bool := match t.kind with
          | .theEnd => true
          | _ => false
        let inner := (Token.ofSource text.toList line).filter (!isEnd ·)
        expandAlias aliases fuel (inner.map (fixWord name) ++ rest)
  | _, ts => ts

/-- Puts texts into the places of aliases. -/
def unaliased (aliases : Aliases) (ts : List Token) : List Token :=
  if aliases = [] then ts else expandAlias aliases (aliases.length * aliases.length + 1) ts

/-- The parts of a simple command. -/
def parts (aliases : Aliases) (fuel : Nat) (p : Parts) : Parse Parts := fun ts => do
  match fuel with
  | 0 => return (p, ts)
  | fuel + 1 =>
    match ← redirect? ts with
    | (some r, ts) => parts aliases fuel { p with redirects := r :: p.redirects } ts
    | (none, ts) =>
      let ts := if p.words.isEmpty then unaliased aliases ts else ts
      match ts with
      | ⟨_, .word w⟩ :: rest =>
        match if p.words.isEmpty then assignment? w else none with
        | some a => parts aliases fuel { p with assigns := a :: p.assigns } rest
        | none => parts aliases fuel { p with words := w :: p.words } rest
      | ts => return (p, ts)

/-- The words up to the end of a line. -/
def words (done : List Word) : List Token → List Word × List Token
  | ⟨_, .word w⟩ :: ts => words (w :: done) ts
  | ts => (done.reverse, ts)

/-- Patterns with bars between them. -/
def patterns (fuel : Nat) (done : List Word) : Parse (List Word) := fun ts =>
  match fuel, ts with
  | fuel + 1, ⟨_, .word w⟩ :: ts =>
    if nextOperator? ts = some "|" then patterns fuel (w :: done) ts.tail
    else (operator ")" ts).map fun ((), ts) => ((w :: done).reverse, ts)
  | _, ts => unexpected (some "\")\"") ts

def isName (s : String) : Bool :=
  (s.toList.head?.map Lexer.isNameStart).getD false && s.toList.all Text.isWordChar

variable (aliases : Aliases)

mutual

/-- Commands up to the end of a list or, if `single`, of a line. -/
def list (fuel : Nat) (single : Bool) (mayBeEmpty : Bool) (done : List Command) : Parse Command :=
  fun ts => do
  match fuel with
  | 0 => unexpected none ts
  | fuel + 1 =>
    let ts := if single then ts else skipNewlines ts
    let ends := match ts with
      | [] | ⟨_, .theEnd⟩ :: _ | ⟨_, .newline⟩ :: _ => true
      | ⟨_, .operator op⟩ :: _ => op == ")" || op == ";;"
      | ts => ((nextPlain? ts).map closers.contains).getD false
    if ends then
      let atEnd := match ts with
        | [] | ⟨_, .theEnd⟩ :: _ => true
        | _ => false
      if done.isEmpty && !mayBeEmpty && !atEnd then return ← unexpected none ts
      return (.sequence done.reverse, ts)
    let (command, ts) ← andOr fuel ts
    match nextOperator? ts with
    | some ";" => list fuel single mayBeEmpty (command :: done) ts.tail
    | some "&" => list fuel single mayBeEmpty (.background command :: done) ts.tail
    | _ =>
      match ts with
      | ⟨_, .newline⟩ :: _ => list fuel single mayBeEmpty (command :: done) ts
      | _ => return (.sequence (command :: done).reverse, ts)

/-- Pipelines joined by `&&` and `||`. -/
def andOr (fuel : Nat) : Parse Command := fun ts => do
  match fuel with
  | 0 => unexpected none ts
  | fuel + 1 =>
    let (first, ts) ← pipeline fuel ts
    andOrRest fuel first ts

/-- What is joined to `first`. -/
def andOrRest (fuel : Nat) (first : Command) : Parse Command := fun ts => do
  match fuel with
  | 0 => unexpected none ts
  | fuel + 1 =>
    match nextOperator? ts with
    | some "&&" =>
      let (second, ts) ← pipeline fuel (skipNewlines ts.tail)
      andOrRest fuel (.both first second) ts
    | some "||" =>
      let (second, ts) ← pipeline fuel (skipNewlines ts.tail)
      andOrRest fuel (.either first second) ts
    | _ => return (first, ts)

def pipeline (fuel : Nat) : Parse Command := fun ts => do
  match fuel with
  | 0 => unexpected none ts
  | fuel + 1 =>
    let negated := nextPlain? ts = some "!"
    let (stages, ts) ← stages fuel (if negated then ts.tail else ts)
    let body := match stages with
      | [only] => only
      | stages => .pipeline stages
    return (if negated then .negate body else body, ts)

/-- Commands joined by bars. -/
def stages (fuel : Nat) : Parse (List Command) := fun ts => do
  match fuel with
  | 0 => unexpected none ts
  | fuel + 1 =>
    let (first, ts) ← command fuel ts
    if nextOperator? ts = some "|" then
      let (rest, ts) ← stages fuel (skipNewlines ts.tail)
      return (first :: rest, ts)
    return ([first], ts)

/-- The branches of a choice, behind its first word, up to its last. -/
def branches (fuel : Nat) : Parse (List (Command × Command) × Option Command) := fun ts => do
  match fuel with
  | 0 => unexpected none ts
  | fuel + 1 =>
    let (condition, ts) ← list fuel false false [] ts
    let ((), ts) ← keyword "then" ts
    let (body, ts) ← list fuel false false [] ts
    match nextPlain? ts with
    | some "elif" =>
      let ((rest, otherwise), ts) ← branches fuel ts.tail
      return (((condition, body) :: rest, otherwise), ts)
    | some "else" =>
      let (otherwise, ts) ← list fuel false false [] ts.tail
      let ((), ts) ← keyword "fi" ts
      return (([(condition, body)], some otherwise), ts)
    | _ =>
      let ((), ts) ← keyword "fi" ts
      return (([(condition, body)], none), ts)

/-- The arms of a selection, up to its last word. -/
def arms (fuel : Nat) (done : List (List Word × Command)) : Parse (List (List Word × Command)) :=
  fun ts => do
  match fuel with
  | 0 => unexpected none ts
  | fuel + 1 =>
    let ts := skipNewlines ts
    if nextPlain? ts = some "esac" then return (done.reverse, ts.tail)
    let ts := if nextOperator? ts = some "(" then ts.tail else ts
    let (patterns, ts) ← patterns ts.length [] ts
    let (body, ts) ← list fuel false true [] ts
    if nextOperator? ts = some ";;" then arms fuel ((patterns, body) :: done) ts.tail
    else if nextPlain? ts = some "esac" then return (((patterns, body) :: done).reverse, ts.tail)
    else unexpected (some "\";;\"") ts

/-- The body of a loop. -/
def loopBody (fuel : Nat) : Parse Command := fun ts => do
  match fuel with
  | 0 => unexpected none ts
  | fuel + 1 =>
    let ((), ts) ← keyword "do" ts
    let (body, ts) ← list fuel false false [] ts
    let ((), ts) ← keyword "done" ts
    return (body, ts)

/-- One command with its redirections. -/
def command (fuel : Nat) : Parse Command := fun ts => do
  match fuel with
  | 0 => unexpected none ts
  | fuel + 1 =>
    let ts := unaliased aliases ts
    match nextOperator? ts with
    | some "(" =>
      let (body, ts) ← list fuel false false [] ts.tail
      let ((), ts) ← operator ")" ts
      let (rs, ts) ← redirects ts.length [] ts
      return (.subshell body rs, ts)
    | _ =>
    match nextPlain? ts with
    | some "\x7b" =>
      let (body, ts) ← list fuel false false [] ts.tail
      let ((), ts) ← keyword "\x7d" ts
      let (rs, ts) ← redirects ts.length [] ts
      return (.group body rs, ts)
    | some "if" =>
      let ((branches, otherwise), ts) ← branches fuel ts.tail
      let (rs, ts) ← redirects ts.length [] ts
      return (.choose branches otherwise rs, ts)
    | some "while" =>
      let (condition, ts) ← list fuel false false [] ts.tail
      let (body, ts) ← loopBody fuel ts
      let (rs, ts) ← redirects ts.length [] ts
      return (.loop false condition body rs, ts)
    | some "until" =>
      let (condition, ts) ← list fuel false false [] ts.tail
      let (body, ts) ← loopBody fuel ts
      let (rs, ts) ← redirects ts.length [] ts
      return (.loop true condition body rs, ts)
    | some "for" =>
      match nextPlain? ts.tail with
      | none => .error ⟨(ts.head?.map Token.line).getD 0, "Bad for loop variable"⟩
      | some name =>
        let ts := ts.tail.tail
        if !isName name then throw ⟨(ts.head?.map Token.line).getD 0, "Bad for loop variable"⟩
        let inner := skipNewlines ts
        let (items, ts) ←
          if nextPlain? inner = some "in" then
            let (ws, ts) := words [] inner.tail
            match ts with
            | ⟨_, .newline⟩ :: _ => pure (some ws, ts)
            | ts => do
              if nextOperator? ts = some ";" then pure (some ws, ts.tail)
              else unexpected none ts
          else if nextOperator? ts = some ";" then pure (none, ts.tail)
          else pure (none, ts)
        let (body, ts) ← loopBody fuel (skipNewlines ts)
        let (rs, ts) ← redirects ts.length [] ts
        return (.each name items body rs, ts)
    | some "case" =>
      match ts.tail with
      | ⟨_, .word subject⟩ :: ts =>
        let ((), ts) ← keyword "in" (skipNewlines ts)
        let (arms, ts) ← arms fuel [] ts
        let (rs, ts) ← redirects ts.length [] ts
        return (.select subject arms rs, ts)
      | ts => unexpected (some "word") ts
    | first =>
      if first = some "!" ∨ (first.map closers.contains).getD false then unexpected none ts
      else match first, ts with
        | some name, ⟨line, .word w⟩ :: ⟨line', .operator "("⟩ :: ts =>
          if (assignment? w).isSome then
            return ← unexpected none (⟨line', .operator "("⟩ :: ts)
          let ts := match ts with
            | ⟨_, .word _⟩ :: ts => ⟨line, .word [.text [] true]⟩ :: ts
            | ts => ts
          let ((), ts) ← operator ")" ts
          if !isName name then throw ⟨(ts.head?.map Token.line).getD 0, "Bad function name"⟩
          let (body, ts) ← command fuel (skipNewlines ts)
          return (.define name body, ts)
        | _, ts =>
          let fuel := ts.length + (aliases.map (·.2.length)).foldl (· + ·) 0
          let (p, rest) ← parts aliases fuel ⟨[], [], []⟩ ts
          if p.words.isEmpty ∧ p.assigns.isEmpty ∧ p.redirects.isEmpty then unexpected none ts
          else return (p.command ((ts.head?.map Token.line).getD 0), rest)

end

end Parser

/-- The next line of commands, if there is one, and the tokens behind it. -/
def Command.next? (aliases : Parser.Aliases) (ts : List Token) :
    Except SyntaxError (Option Command × List Token) :=
  match Parser.skipNewlines ts with
  | [] | ⟨_, .theEnd⟩ :: _ => .ok (none, [])
  | ts => do
    let fuel := 16 * (ts.length + 1) * ((aliases.map (·.2.length)).foldl (· + ·) 1)
    let (command, ts) ← Parser.list aliases fuel true false [] ts
    match ts with
    | [] | ⟨_, .theEnd⟩ :: _ | ⟨_, .newline⟩ :: _ => return (some command, ts)
    | ts => Parser.unexpected none ts

end PlaybookScan.Shell

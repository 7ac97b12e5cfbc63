import PlaybookScan.Shell.Bash.Lexer

/-!
# Grammar of the large shell

A script is read command by command, each up to the end of its line, since a command can change how
the next ones are read. What stands before an error is run.
-/

set_option autoImplicit false

namespace PlaybookScan.Shell.Bash

/-- What commands that were run before have changed about the grammar. -/
structure Grammar where
  /-- Groups of patterns may stand in every word. -/
  groups : Bool
  /-- Texts that words in the place of a command stand for. -/
  aliases : List (String × String)

namespace Parser

/-- The operators, those that begin with another one before it. -/
def operators : List String :=
  ["&>>", "&>", "&&", "&", "<<<", "<<-", "<<", "<&", "<>", "<", ">>", ">&", ">|", ">", "||", "|&",
    "|", ";;&", ";;", ";&", ";", "(", ")"]

/-- The operator that a text starts with. -/
def operatorAt? (cs : List Char) : Option String :=
  match cs with
  | '<' :: '(' :: _ | '>' :: '(' :: _ => none
  | cs => operators.find? fun op => op.toList.isPrefixOf cs

/-- Words that begin a command or a part of it. -/
def openers : List String :=
  ["if", "while", "until", "for", "select", "case", "function", "\x7b", "[[", "!", "time", "coproc"]

/-- Words that end a list of commands. -/
def closers : List String :=
  ["then", "elif", "else", "fi", "do", "done", "esac", "\x7d"]

def reserved : List String := openers ++ closers ++ ["in"]

/-- The word that a text starts with, if all of it is plain text. -/
def plainWord? (cs : List Char) : Option String :=
  let word := cs.takeWhile (!Lexer.isDelimiter ·)
  if word = [] ∨ word.any fun c => "\\'\"$\x60".contains c then none else some (String.ofList word)

/-- The bounds of the recursion for reading a text. -/
def bound (c : Cursor) : Nat := 16 * c.rest.length + 64

def blanks : Parse Unit := modify fun c => c.skipBlanks true (c.rest.length + 1)

/-- Skips blanks and ends of lines. -/
def skipLines (fuel : Nat) : Parse Unit := do
  match fuel with
  | 0 => return
  | fuel + 1 =>
    blanks
    if (← get).rest.head? = some '\n' then
      modify Cursor.step
      skipLines fuel

def newlines : Parse Unit := do skipLines ((← get).rest.length + 1)

def nextOperator? : Parse (Option String) := do
  blanks
  return operatorAt? (← get).rest

def nextWord? : Parse (Option String) := do
  blanks
  return plainWord? (← get).rest

def take (token : String) : Parse Unit := Lexer.advance token.length

def fail {α : Type} (line : Nat) (messages : List String) : Parse α := throw ⟨line, messages⟩

def quoteToken (token : String) : String := "\x60" ++ token ++ "'"

/-- The complaint about the token `token`. -/
def unexpectedToken {α : Type} (token : String) : Parse α := do
  let c ← get
  fail c.line ["syntax error near unexpected token " ++ quoteToken token, quoteToken c.lineText]

def unexpectedEnd {α : Type} : Parse α := do
  fail (← get).line ["syntax error: unexpected end of file"]

/-- Where quotes may hide a character. -/
def quotedLength (q : Char) (n : Nat) : List Char → Nat
  | [] => n
  | '\\' :: c :: rest =>
    if q = '\x27' then quotedLength q (n + 1) (c :: rest) else quotedLength q (n + 2) rest
  | c :: rest => if c = q then n + 1 else quotedLength q (n + 1) rest

/-- Number of characters up to the end of the line, which quotes can hide; `fuel` is the length. -/
def lineLength (fuel n : Nat) (cs : List Char) : Nat :=
  match fuel, cs with
  | 0, _ | _, [] => n
  | fuel + 1, c :: rest =>
    if c = '\n' then n
    else if c = '\\' then lineLength fuel (n + min 2 (c :: rest).length) (rest.drop 1)
    else if c = '\x27' ∨ c = '"' then
      let inside := quotedLength c 0 rest
      lineLength fuel (n + 1 + inside) (rest.drop inside)
    else lineLength fuel (n + 1) rest

/-- Takes the lines of a document off a text, up to the one that ends it: the lines in reverse, what
follows, and whether it was ended. `fuel` bounds their number. -/
def documentLines (fuel : Nat) (tabs : Bool) (ends : List Char) (done : List (List Char))
    (cs : List Char) : List (List Char) × List Char × Bool :=
  match fuel, cs with
  | 0, _ | _, [] => (done, [], false)
  | fuel + 1, cs =>
    let line := cs.takeWhile (· ≠ '\n')
    let rest := cs.drop (line.length + 1)
    let line := if tabs then line.dropWhile (· == '\t') else line
    if line = ends then (done, rest, true)
    else documentLines fuel tabs ends (line :: done) rest

/-- Takes the text of a here-document out of the script. Answers the line in which it begins and the
text. -/
def takeDocument (tabs : Bool) (ends : List Char) : Parse (Nat × List Char) := do
  let c ← get
  let size := lineLength (c.rest.length + 1) 0 c.rest
  let behind := c.rest.drop (size + 1)
  let first := c.line + c.skipped + (c.rest.take (size + 1)).count '\n'
  let (lines, rest, ended) := documentLines (behind.length + 1) tabs ends [] behind
  let count := lines.length + if ended then 1 else 0
  let warnings := if ended then c.warnings
    else (max c.line (first + lines.length - 1),
      "here-document at line " ++ toString c.line ++ " delimited by end-of-file (wanted " ++
        quoteToken (String.ofList ends) ++ ")") :: c.warnings
  set { c with rest := c.rest.take (size + 1) ++ rest, skipped := c.skipped + count, warnings }
  return (first, (lines.reverse.map (· ++ ['\n'])).flatten)

def unaryOperators : List String :=
  ["-a", "-b", "-c", "-d", "-e", "-f", "-g", "-h", "-k", "-n", "-o", "-p", "-r", "-s", "-t", "-u",
    "-v", "-w", "-x", "-z", "-G", "-L", "-N", "-O", "-R", "-S"]

def binaryOperators : List String :=
  ["=", "==", "!=", "=~", "<", ">", "-eq", "-ne", "-lt", "-le", "-gt", "-ge", "-ef", "-nt", "-ot"]

/-- Commands whose arguments may be assignments. -/
def declares (name : String) : Bool :=
  ["declare", "typeset", "local", "export", "readonly"].contains name

/-- The plain words behind which arguments may be assignments. -/
def isDeclaring (words : List String) : Bool :=
  match words.dropWhile fun w => w = "command" ∨ w = "builtin" with
  | name :: _ => declares name
  | [] => false

/-- The kind of an operator's redirection, and the descriptor that it changes by itself. -/
def redirectKind? : String → Option (RedirectKind × Nat)
  | "<" => some (.read, 0)
  | "<>" => some (.readWrite, 0)
  | ">" => some (.write, 1)
  | ">|" => some (.clobber, 1)
  | ">>" => some (.append, 1)
  | "<&" => some (.duplicate true, 0)
  | ">&" => some (.duplicate false, 1)
  | "&>" => some (.both false, 1)
  | "&>>" => some (.both true, 1)
  | "<<" | "<<-" => some (.document, 0)
  | "<<<" => some (.line, 0)
  | _ => none

/-- The descriptor in front of a redirection, and its length. -/
def target? (cs : List Char) : Option (Target × Nat) :=
  let redirects (rest : List Char) : Bool := match rest with
    | '<' :: _ | '>' :: _ => true
    | _ => false
  let digits := cs.takeWhile Char.isDigit
  if digits ≠ [] ∧ redirects (cs.drop digits.length) then
    some (.number (Printf.number 10 digits), digits.length)
  else match cs with
    | '\x7b' :: rest =>
      let name := Lexer.leadingName rest
      match rest.drop name.length with
      | '\x7d' :: after =>
        if name ≠ [] ∧ redirects after then
          some (.named (String.ofList name), name.length + 2) else none
      | _ => none
    | _ => none

/-- The redirection that sends error output where output goes. -/
def errorsToo : Redirect Word := ⟨.number 2, .duplicate false, ⟨['1'], [.text ['1'] false]⟩⟩

/-- The text of a word without its quotes, and whether it has any. -/
def unquoted (w : Word) : List Char × Bool :=
  w.pieces.foldl (fun (text, found) p => match p with
    | .text cs quoted => (text ++ cs, found || quoted)
    | .param _ _ _ _ _ source _ => (text ++ source, found)
    | _ => (text, found)) ([], false)

def isName (cs : List Char) : Bool :=
  (cs.head?.map Lexer.isNameStart).getD false && cs.all Lexer.isNameChar

section

variable (g : Grammar)

mutual

/-- Commands up to a closing parenthesis, which is taken too, and the line in which they begin. -/
def enclosed (fuel : Nat) : Parse (Nat × Command) := do
  match fuel with
  | 0 => unexpectedEnd
  | fuel + 1 =>
    newlines
    let line := (← get).line
    let body ← list fuel true []
    blanks
    match (← get).rest with
    | ')' :: _ =>
      modify Cursor.step
      return (line, body)
    | [] => Lexer.unclosed (← get).line ")"
    | _ => unexpected fuel

/-- A word, or a part of one, that ends as `mode` says. -/
def phrase (fuel : Nat) (groups : Bool) (mode : Lexer.Mode) : Parse Word := do
  match fuel with
  | 0 => unexpectedEnd
  | fuel + 1 =>
    let c ← get
    let body ← Lexer.pieces (enclosed fuel) groups (bound c) mode []
    return Lexer.phraseOf mode (c.upTo (← get)) body

def word (fuel : Nat) : Parse Word := do
  match fuel with
  | 0 => unexpectedEnd
  | fuel + 1 =>
    blanks
    let c ← get
    if c.rest = [] ∨ c.rest.head? = some '\n' ∨ (operatorAt? c.rest).isSome then unexpected fuel
    phrase fuel g.groups .bare

/-- The complaint about the next token. -/
def unexpected {α : Type} (fuel : Nat) : Parse α := do
  match fuel with
  | 0 => unexpectedEnd
  | fuel + 1 =>
    blanks
    let c ← get
    match c.rest with
    | [] => unexpectedEnd
    | '\n' :: _ => unexpectedToken "newline"
    | rest =>
      match operatorAt? rest with
      | some op => unexpectedToken op
      | none => unexpectedToken (String.ofList (← phrase fuel g.groups .bare).source)

/-- Takes the word `s`. -/
def keyword (fuel : Nat) (s : String) : Parse Unit := do
  match fuel with
  | 0 => unexpectedEnd
  | fuel + 1 =>
    if (← nextWord?) = some s then take s else unexpected fuel

/-- The subscript of an element or of an assignment, if it has one. -/
def subscript (fuel : Nat) : Parse (Index Word) := do
  match fuel with
  | 0 => return .whole
  | fuel + 1 =>
    if (← get).rest.head? ≠ some '[' then return .whole
    let start := (← get).line
    modify Cursor.step
    let key ← Lexer.beginning start "]" (phrase fuel g.groups (.subscript false 0))
    modify Cursor.step
    return .element key

/-- The values between parentheses, up to the closing one. -/
def elements (fuel : Nat) (done : List (Element Word)) : Parse (List (Element Word)) := do
  match fuel with
  | 0 => unexpectedEnd
  | fuel + 1 =>
    newlines
    match (← get).rest with
    | [] => Lexer.unclosed (← get).line ")"
    | ')' :: _ =>
      modify Cursor.step
      return done.reverse
    | '[' :: _ =>
      let c ← get
      let key ← subscript fuel
      match (← get).rest with
      | '=' :: _ =>
        modify Cursor.step
        elements fuel (⟨key, false, ← phrase fuel g.groups .bare⟩ :: done)
      | '+' :: '=' :: _ =>
        Lexer.advance 2
        elements fuel (⟨key, true, ← phrase fuel g.groups .bare⟩ :: done)
      | _ =>
        set c
        elements fuel (⟨.whole, false, ← word fuel⟩ :: done)
    | _ => elements fuel (⟨.whole, false, ← word fuel⟩ :: done)

/-- An assignment, if one stands next. -/
def assignment? (fuel : Nat) : Parse (Option (Assignment Word)) := do
  match fuel with
  | 0 => return none
  | fuel + 1 =>
    let c ← get
    let name := Lexer.leadingName c.rest
    if name = [] then return none
    Lexer.advance name.length
    let key ← subscript fuel
    let appends := (← get).rest.head? = some '+'
    if appends then modify Cursor.step
    if (← get).rest.head? ≠ some '=' then
      set c
      return none
    modify Cursor.step
    let content ←
      if (← get).rest.head? = some '(' then do
        modify Cursor.step
        pure (.elements (← Lexer.beginning c.line ")" (elements fuel [])))
      else pure (.text (← phrase fuel g.groups .bare))
    return some ⟨String.ofList name, key, appends, content⟩

/-- A redirection, if one stands next. -/
def redirect? (fuel : Nat) : Parse (Option (Redirect Word)) := do
  match fuel with
  | 0 => return none
  | fuel + 1 =>
    blanks
    let c ← get
    let target := target? c.rest
    let size := (target.map Prod.snd).getD 0
    match operatorAt? (c.rest.drop size) with
    | none => return none
    | some op =>
      match redirectKind? op with
      | none => return none
      | some (kind, standard) =>
        Lexer.advance (size + op.length)
        let operand ← word fuel
        let target := (target.map Prod.fst).getD (.number standard)
        if kind ≠ .document then return some ⟨target, kind, operand⟩
        let (ends, quoted) := unquoted operand
        let (line, text) ← takeDocument (op = "<<-") ends
        if quoted then return some ⟨target, kind, ⟨operand.source, [.text text true]⟩⟩
        let outer ← get
        set (Cursor.ofText text line)
        let body ← phrase fuel g.groups .document
        set { outer with warnings := (← get).warnings ++ outer.warnings }
        return some ⟨target, kind, ⟨operand.source, body.pieces⟩⟩

/-- The redirections that stand next. -/
def redirects (fuel : Nat) (done : List (Redirect Word)) : Parse (List (Redirect Word)) := do
  match fuel with
  | 0 => return done.reverse
  | fuel + 1 =>
    match ← redirect? fuel with
    | some r => redirects fuel (r :: done)
    | none => return done.reverse

/-- A command with the redirections that follow it. -/
def behind (fuel : Nat) (command : Command) : Parse Command := do
  match fuel with
  | 0 => return command
  | fuel + 1 =>
    match ← redirects fuel [] with
    | [] => return command
    | rs => return .redirected command rs

/-- Puts the text of an alias into the place of the next word, unless it is among `used`. -/
def unalias (fuel : Nat) (used : List String) : Parse Unit := do
  match fuel with
  | 0 => return
  | fuel + 1 =>
    if g.aliases = [] then return
    match ← nextWord? with
    | none => return
    | some name =>
      match if used.contains name then none else g.aliases.lookup name with
      | none => return
      | some text =>
        modify fun c => { c with rest := text.toList ++ c.rest.drop name.length }
        unalias fuel (name :: used)

/-- The parts of a simple command, each last first; `plain` are its words as far as they are plain
text. The line of the command is that of the end of its first part or, if that is a word, of the
token behind it. -/
def parts (fuel line : Nat) (plain : List String) (assigns : List (Assignment Word))
    (words : List (Argument Word)) (rs : List (Redirect Word)) : Parse Command := do
  match fuel with
  | 0 => unexpectedEnd
  | fuel + 1 =>
    let count := words.length + assigns.length + rs.length
    blanks
    let here := (← get).line
    let placed (soon : Bool) : Parse Nat := do
      let now := (← get).line
      if count = 0 then return now
      if count = 1 ∧ !words.isEmpty then return (if soon then here else now)
      return line
    match ← redirect? fuel with
    | some r => parts fuel (← placed (count = 1)) plain assigns words (r :: rs)
    | none =>
      let c ← get
      let ends := c.rest = [] ∨ c.rest.head? = some '\n' ∨ (operatorAt? c.rest).isSome
      if ends then
        return .simple (← placed true) assigns.reverse words.reverse rs.reverse
      if words.isEmpty then
        match ← assignment? fuel with
        | some a => parts fuel (← placed false) plain (a :: assigns) words rs
        | none =>
          let w ← word fuel
          parts fuel (← placed false) w.plain?.toList assigns [.word w] rs
      else
        let found ← if isDeclaring plain then assignment? fuel else pure none
        match found with
        | some a => parts fuel (← placed false) plain assigns (.assignment a :: words) rs
        | none =>
          let w ← word fuel
          let plain := if plain.length = words.length then plain ++ w.plain?.toList else plain
          parts fuel (← placed false) plain assigns (.word w :: words) rs

/-- Commands up to what ends a list. -/
def list (fuel : Nat) (mayBeEmpty : Bool) (done : List Command) : Parse Command := do
  match fuel with
  | 0 => unexpectedEnd
  | fuel + 1 =>
    newlines
    let c ← get
    let op := operatorAt? c.rest
    let ends := c.rest = [] ∨ op = some ")" ∨ op = some ";;" ∨ op = some ";&" ∨ op = some ";;&" ∨
      ((plainWord? c.rest).map closers.contains).getD false
    if ends then
      if done.isEmpty ∧ !mayBeEmpty then unexpected fuel
      return .sequence done.reverse
    let command ← andOr fuel
    match ← nextOperator? with
    | some ";" =>
      take ";"
      list fuel mayBeEmpty (command :: done)
    | some "&" =>
      take "&"
      list fuel mayBeEmpty (.background command :: done)
    | _ =>
      if (← get).rest.head? = some '\n' then list fuel mayBeEmpty (command :: done)
      else return .sequence (command :: done).reverse

/-- The commands of a line. -/
def line (fuel : Nat) (done : List Command) : Parse Command := do
  match fuel with
  | 0 => unexpectedEnd
  | fuel + 1 =>
    let command ← andOr fuel
    let ended : Parse Bool := do
      blanks
      let rest := (← get).rest
      return rest = [] || rest.head? == some '\n'
    let continue_ (command : Command) : Parse Command := do
      if ← ended then return .sequence (command :: done).reverse
      else line fuel (command :: done)
    match ← nextOperator? with
    | some ";" =>
      take ";"
      continue_ command
    | some "&" =>
      take "&"
      continue_ (.background command)
    | _ =>
      if ← ended then return .sequence (command :: done).reverse
      else unexpected fuel

/-- Pipelines joined by `&&` and `||`. -/
def andOr (fuel : Nat) : Parse Command := do
  match fuel with
  | 0 => unexpectedEnd
  | fuel + 1 => andOrRest fuel (← pipeline fuel)

/-- What is joined to `first`. -/
def andOrRest (fuel : Nat) (first : Command) : Parse Command := do
  match fuel with
  | 0 => unexpectedEnd
  | fuel + 1 =>
    match ← nextOperator? with
    | some "&&" =>
      take "&&"
      newlines
      andOrRest fuel (.both first (← pipeline fuel))
    | some "||" =>
      take "||"
      newlines
      andOrRest fuel (.either first (← pipeline fuel))
    | _ => return first

def pipeline (fuel : Nat) : Parse Command := do
  match fuel with
  | 0 => unexpectedEnd
  | fuel + 1 =>
    let next ← nextWord?
    let nothing : Parse Bool := do
      blanks
      let c ← get
      let op := operatorAt? c.rest
      return c.rest = [] || c.rest.head? == some '\n' || op = some ";" || op = some "&"
    if next = some "!" then
      take "!"
      if ← nothing then return .negate .nothing
      return .negate (← pipeline fuel)
    else if next = some "time" then
      take "time"
      if (← nextWord?) = some "-p" then take "-p"
      if ← nothing then return .timed .nothing
      return .timed (← pipeline fuel)
    else
      match ← stages fuel with
      | [only] => return only
      | stages => return .pipeline stages

/-- Commands joined by bars. -/
def stages (fuel : Nat) : Parse (List Command) := do
  match fuel with
  | 0 => unexpectedEnd
  | fuel + 1 =>
    let first ← command fuel
    match ← nextOperator? with
    | some "|" =>
      take "|"
      newlines
      return first :: (← stages fuel)
    | some "|&" =>
      take "|&"
      newlines
      return first.addRedirect errorsToo :: (← stages fuel)
    | _ => return [first]

/-- The branches of a choice, behind its first word, up to its last. -/
def branches (fuel : Nat) : Parse (List (Command × Command) × Option Command) := do
  match fuel with
  | 0 => unexpectedEnd
  | fuel + 1 =>
    let condition ← list fuel false []
    keyword fuel "then"
    let body ← list fuel false []
    match ← nextWord? with
    | some "elif" =>
      take "elif"
      let (rest, otherwise) ← branches fuel
      return ((condition, body) :: rest, otherwise)
    | some "else" =>
      take "else"
      let otherwise ← list fuel false []
      keyword fuel "fi"
      return ([(condition, body)], some otherwise)
    | _ =>
      keyword fuel "fi"
      return ([(condition, body)], none)

/-- Patterns with bars between them, up to the closing parenthesis. -/
def patterns (fuel : Nat) (done : List Word) : Parse (List Word) := do
  match fuel with
  | 0 => unexpectedEnd
  | fuel + 1 =>
    let w ← word fuel
    match ← nextOperator? with
    | some "|" =>
      take "|"
      patterns fuel (w :: done)
    | some ")" =>
      take ")"
      return (w :: done).reverse
    | _ => unexpected fuel

/-- The arms of a selection, up to its last word. -/
def arms (fuel : Nat) (done : List (Arm Word Command)) : Parse (List (Arm Word Command)) := do
  match fuel with
  | 0 => unexpectedEnd
  | fuel + 1 =>
    newlines
    if (← nextWord?) = some "esac" then
      take "esac"
      return done.reverse
    if (← nextOperator?) = some "(" then take "("
    let patterns ← patterns fuel []
    let body ← list fuel true []
    let more (op : String) (ends : ArmEnd) : Parse (List (Arm Word Command)) := do
      take op
      arms fuel (⟨patterns, body, ends⟩ :: done)
    match ← nextOperator? with
    | some ";;" => more ";;" .leave
    | some ";&" => more ";&" .fall
    | some ";;&" => more ";;&" .resume
    | _ =>
      keyword fuel "esac"
      return (⟨patterns, body, .leave⟩ :: done).reverse

/-- The body of a loop, between its words or, if it `mayBeGroup`, between braces. -/
def loopBody (fuel : Nat) (mayBeGroup : Bool) : Parse Command := do
  match fuel with
  | 0 => unexpectedEnd
  | fuel + 1 =>
    if mayBeGroup ∧ (← nextWord?) = some "\x7b" then
      take "\x7b"
      let body ← list fuel false []
      keyword fuel "\x7d"
      return body
    keyword fuel "do"
    let body ← list fuel false []
    keyword fuel "done"
    return body

/-- Words up to the end of a line or a semicolon. -/
def words (fuel : Nat) (done : List Word) : Parse (List Word) := do
  match fuel with
  | 0 => unexpectedEnd
  | fuel + 1 =>
    blanks
    let c ← get
    match c.rest, operatorAt? c.rest with
    | '\n' :: _, _ => return done.reverse
    | _, some ";" =>
      take ";"
      return done.reverse
    | _, _ => words fuel ((← word fuel) :: done)

/-- The name, the words and the body of a loop over words. -/
def overWords (fuel : Nat) : Parse (List Char × Option (List Word) × Command) := do
  match fuel with
  | 0 => unexpectedEnd
  | fuel + 1 =>
    let name ← word fuel
    if (← nextOperator?) = some ";" then
      take ";"
      newlines
      return (name.source, none, ← loopBody fuel true)
    newlines
    if (← nextWord?) = some "in" then
      take "in"
      let ws ← words fuel []
      newlines
      return (name.source, some ws, ← loopBody fuel true)
    return (name.source, none, ← loopBody fuel true)

/-- Text up to two closing parentheses, which are taken too; `none` if they do not close it. -/
def expression? (fuel : Nat) : Parse (Option Word) := do
  match fuel with
  | 0 => return none
  | fuel + 1 =>
    let c ← get
    let body ← Lexer.beginning c.line ")" (phrase fuel g.groups (.arithmetic 0))
    match (← get).rest with
    | ')' :: ')' :: _ =>
      Lexer.advance 2
      return some body
    | _ =>
      set c
      return none

/-- One of the three expressions of a counting loop, whose text is `source`. -/
def part (fuel line : Nat) (source : List Char) : Parse Word := do
  match fuel with
  | 0 => unexpectedEnd
  | fuel + 1 =>
    let outer ← get
    set (Cursor.ofText (source ++ [')']) line)
    let w ← phrase fuel g.groups (.arithmetic 0)
    set outer
    return w

/-- A function behind its name. -/
def function (fuel : Nat) (name : List Char) : Parse Command := do
  match fuel with
  | 0 => unexpectedEnd
  | fuel + 1 =>
    newlines
    let isCompound : Bool := match ← nextOperator?, ← nextWord? with
      | some "(", _ => true
      | _, some s => ["\x7b", "if", "while", "until", "for", "select", "case", "[["].contains s
      | _, _ => false
    if !isCompound then unexpected fuel
    return .define (← get).line name (← command fuel)

/-- The complaint about a condition near the token that ends at the cursor. -/
def wrongCondition {α : Type} (fuel : Nat) (messages : List String) (near : List Char) :
    Parse α := do
  match fuel with
  | 0 => unexpectedEnd
  | _ + 1 =>
    let c ← get
    fail c.line (messages ++ ["syntax error near " ++ quoteToken (String.ofList near),
      quoteToken c.lineText])

/-- The next token of a condition, if it is no word, or its text. -/
def conditionToken (fuel : Nat) : Parse (String × Bool) := do
  match fuel with
  | 0 => unexpectedEnd
  | fuel + 1 =>
    blanks
    let c ← get
    match c.rest, operatorAt? c.rest with
    | '\n' :: _, _ | [], _ => return ("newline", false)
    | _, some op => return (op, false)
    | _, none =>
      let w ← phrase fuel g.groups .bare
      set c
      return (String.ofList w.source, w.plain? ≠ some "]]")

/-- The operand of an operator, of the given kind. -/
def conditionOperand (fuel : Nat) (kind : String) (mode : Lexer.Mode) (before : List Char) :
    Parse Word := do
  match fuel with
  | 0 => unexpectedEnd
  | fuel + 1 =>
    blanks
    let (token, isWord) ← if mode = .bare then conditionToken fuel else pure ("", true)
    if isWord then phrase fuel true mode
    else
      wrongCondition fuel
        ["unexpected argument " ++ quoteToken token ++ " to conditional " ++ kind ++ " operator"]
        (if token = "newline" then before else token.toList)

/-- A condition up to what ends it. -/
def anyOf (fuel : Nat) : Parse (Test Word) := do
  match fuel with
  | 0 => unexpectedEnd
  | fuel + 1 =>
    let first ← allOf fuel
    newlines
    if (← nextOperator?) = some "||" then
      take "||"
      return .either first (← anyOf fuel)
    return first

def allOf (fuel : Nat) : Parse (Test Word) := do
  match fuel with
  | 0 => unexpectedEnd
  | fuel + 1 =>
    let first ← test fuel
    newlines
    if (← nextOperator?) = some "&&" then
      take "&&"
      return .both first (← allOf fuel)
    return first

/-- One question of a condition. -/
def test (fuel : Nat) : Parse (Test Word) := do
  match fuel with
  | 0 => unexpectedEnd
  | fuel + 1 =>
    newlines
    let (token, isWord) ← conditionToken fuel
    if token = "(" then
      take "("
      let inside ← anyOf fuel
      newlines
      let (token, _) ← conditionToken fuel
      if token ≠ ")" then
        wrongCondition fuel ["unexpected token " ++ quoteToken token ++ ", expected \x60)'"]
          token.toList
      take ")"
      return .group inside
    if !isWord then
      if (← get).rest = [] then unexpectedEnd
      wrongCondition fuel [] token.toList
    let first ← phrase fuel g.groups .bare
    match first.plain? with
    | some "!" => return .negate (← test fuel)
    | plain =>
      let (next, nextIsWord) ← conditionToken fuel
      let isUnary := (plain.map unaryOperators.contains).getD false
      let isBinary : Bool := binaryOperators.contains next
      if isUnary ∧ ¬ (isBinary ∧ nextIsWord) then
        return .unary (plain.getD "") (← conditionOperand fuel "unary" .bare first.source)
      if isBinary then
        take next
        let mode := if next = "=~" then Lexer.Mode.regex 0 else .bare
        return .binary next first (← conditionOperand fuel "binary" mode next.toList)
      if ["]]", "&&", "||", ")"].contains next ∧ !nextIsWord then return .word first
      if nextIsWord then
        wrongCondition fuel ["conditional binary operator expected"] next.toList
      else
        wrongCondition fuel ["unexpected token " ++ quoteToken next ++
          ", conditional binary operator expected"]
          (if next = "newline" then first.source else next.toList)

/-- A subshell behind its opening parenthesis. -/
def subshell (fuel : Nat) : Parse Command := do
  match fuel with
  | 0 => unexpectedEnd
  | fuel + 1 =>
    let body ← list fuel false []
    if (← nextOperator?) ≠ some ")" then unexpected fuel
    let line := (← get).line
    take ")"
    return .subshell line body

/-- One command with its redirections. -/
def command (fuel : Nat) : Parse Command := do
  match fuel with
  | 0 => unexpectedEnd
  | fuel + 1 =>
    unalias fuel []
    blanks
    let c ← get
    let at_ := c.line
    match c.rest, operatorAt? c.rest with
    | '(' :: '(' :: _, _ =>
      Lexer.advance 2
      match ← expression? fuel with
      | some body => behind fuel (.arithmetic at_ body)
      | none =>
        set (c.skip 1)
        behind fuel (← subshell fuel)
    | _, some "(" =>
      take "("
      behind fuel (← subshell fuel)
    | _, _ =>
    match plainWord? c.rest with
    | some "\x7b" =>
      take "\x7b"
      let body ← list fuel false []
      keyword fuel "\x7d"
      behind fuel (.group body)
    | some "if" =>
      take "if"
      let (branches, otherwise) ← branches fuel
      behind fuel (.choose branches otherwise)
    | some "while" =>
      take "while"
      let condition ← list fuel false []
      behind fuel (.loop false condition (← loopBody fuel false))
    | some "until" =>
      take "until"
      let condition ← list fuel false []
      behind fuel (.loop true condition (← loopBody fuel false))
    | some "for" =>
      take "for"
      blanks
      match (← get).rest with
      | '(' :: '(' :: _ =>
        let opening ← get
        Lexer.advance 2
        match ← expression? fuel with
        | none => unexpected fuel
        | some whole =>
          match whole.source.splitOn ';' with
          | [a, b, s] =>
            let a ← part fuel at_ a
            let b ← part fuel at_ b
            let s ← part fuel at_ s
            if (← nextOperator?) = some ";" then take ";"
            newlines
            behind fuel (.count at_ a b s (← loopBody fuel true))
          | _ =>
            fail at_ ["syntax error: arithmetic expression required",
              "syntax error: " ++ quoteToken (String.ofList (opening.upTo (← get)))]
      | _ =>
        let (name, ws, body) ← overWords fuel
        behind fuel (.each at_ name ws body)
    | some "select" =>
      take "select"
      let (name, ws, body) ← overWords fuel
      behind fuel (.menu at_ name ws body)
    | some "case" =>
      take "case"
      let subject ← word fuel
      newlines
      keyword fuel "in"
      behind fuel (.select at_ subject (← arms fuel []))
    | some "[[" =>
      take "[["
      let found ← anyOf fuel
      newlines
      let (token, _) ← conditionToken fuel
      if token ≠ "]]" then
        if (← get).rest = [] then unexpectedEnd
        wrongCondition fuel [] token.toList
      take "]]"
      behind fuel (.condition at_ found)
    | some "function" =>
      take "function"
      let name ← word fuel
      if (← nextOperator?) = some "(" then
        let c ← get
        take "("
        if (← nextOperator?) = some ")" then take ")" else set c
      function fuel name.source
    | some "coproc" =>
      take "coproc"
      let c ← get
      let name ← nextWord?
      let isCompound (s : Option String) : Bool :=
        (s.map (openers.filter (· ≠ "!")).contains).getD false
      if isCompound name ∨ (← nextOperator?) = some "(" then
        return .coprocess at_ "COPROC" (← command fuel)
      match name with
      | some name =>
        take name
        if isCompound (← nextWord?) ∨ (← nextOperator?) = some "(" then
          return .coprocess at_ name (← command fuel)
        set c
        return .coprocess at_ "COPROC" (← command fuel)
      | none => return .coprocess at_ "COPROC" (← command fuel)
    | first =>
      if (first.map closers.contains).getD false then unexpected fuel
      match first with
      | some name =>
        take name
        if (← nextOperator?) = some "(" ∧ !name.contains '=' then
          take "("
          if (← nextOperator?) = some ")" then
            take ")"
            return ← function fuel name.toList
          unexpected fuel
        set c
      | none => pure ()
      match ← parts fuel at_ [] [] [] [] with
      | .simple _ [] [] [] => unexpected fuel
      | found => return found

end

end

end Parser

/-- The next line of commands, if there is one. -/
def Command.next? (g : Grammar) : Parse (Option Command) := do
  Parser.newlines
  let c ← get
  if c.rest = [] then return none
  let found ← Parser.line g (Parser.bound c) []
  if (← get).rest.head? = some '\n' then modify Cursor.step
  return some found

end PlaybookScan.Shell.Bash

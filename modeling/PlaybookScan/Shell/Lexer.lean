import PlaybookScan.Shell.Command
import PlaybookScan.Text.CharClass

/-!
# Tokens of the shell language

A script is cut into words, operators and line ends. The text of a here-document is taken from the
lines behind the one that asks for it. An error ends the tokens; what stands before it is still run.
-/

set_option autoImplicit false

namespace PlaybookScan.Shell

inductive TokenKind where
  | word (word : Word)
  /-- The descriptor in front of a redirection. -/
  | number (value : Nat)
  | operator (text : String)
  /-- The text of a here-document, in place of its delimiter. -/
  | document (body : Word)
  | newline
  | fault (message : String)
  | theEnd

structure Token where
  line : Nat
  kind : TokenKind

namespace Lexer

/-- A place in a script. -/
structure Cursor where
  rest : List Char
  line : Nat

def Cursor.advance (c : Cursor) (rest : List Char) : Cursor := { c with rest }

/-- Where the pieces of a word stand, and so what ends them. -/
inductive Mode where
  | bare
  /-- Between double quotes. -/
  | double
  /-- Behind the operator of a parameter. -/
  | braces (quoted : Bool)
  /-- In a here-document. -/
  | document
  /-- Between double parentheses; `depth` single ones are open. -/
  | arithmetic (depth : Nat)
  deriving DecidableEq

def Mode.quoted : Mode → Bool
  | .bare => false
  | .braces quoted => quoted
  | _ => true

/-- A word ends before these characters. -/
def isDelimiter (c : Char) : Bool := " \t\n;&|<>()".contains c

def isNameStart (c : Char) : Bool := c.isAlpha || c == '_'

/-- The one-character parameters. -/
def isSpecial (c : Char) : Bool := c.isDigit || "@*#?$!-".contains c

def unterminated : String := "Unterminated quoted string"

/-- Adds a character to the pieces, the last of which comes first. -/
def addChar (quoted : Bool) (c : Char) : List Piece → List Piece
  | .text cs q :: done => if q = quoted then .text (c :: cs) q :: done
      else .text [c] quoted :: .text cs q :: done
  | done => .text [c] quoted :: done

/-- Puts the characters and the pieces into their order. -/
def finish (done : List Piece) : Word :=
  done.reverse.map fun
    | .text cs quoted => .text cs.reverse quoted
    | piece => piece

/-- What a nested text is inside of. -/
inductive Nesting where
  | parens
  /-- A selection, whose patterns end in parentheses that were not opened. -/
  | arms
  | single
  | double
  deriving DecidableEq

/-- The word `word` starts a text, behind the characters `done`, and ends there. -/
def startsWord (word : List Char) (done cs : List Char) : Bool :=
  ((done.head?.map isDelimiter).getD true) &&
    match word.isPrefixOf? cs with
    | some rest => (rest.head?.map isDelimiter).getD true
    | none => false

/-- What a text is inside of behind its first character. -/
def nextNesting (open_ : List Nesting) (done cs : List Char) : List Nesting :=
  match open_ with
  | .arms :: outer =>
    if startsWord "esac".toList done cs then outer
    else if startsWord "case".toList done cs then .arms :: open_ else open_
  | .parens :: _ => if startsWord "case".toList done cs then .arms :: open_ else open_
  | _ => open_

/-- The commands of a substitution up to its closing parenthesis, in reverse onto `done`. -/
def commands (open_ : List Nesting) (done : List Char) : List Char → Option (List Char × List Char)
  | [] => none
  | '\\' :: c :: rest =>
    if open_.head? = some .single then commands open_ ('\\' :: done) (c :: rest)
    else commands open_ (c :: '\\' :: done) rest
  | '$' :: '(' :: rest =>
    if open_.head? = some .single then commands open_ ('(' :: '$' :: done) rest
    else commands (.parens :: open_) ('(' :: '$' :: done) rest
  | c :: rest =>
    match open_, c with
    | .single :: outer, '\x27' => commands outer ('\x27' :: done) rest
    | .double :: outer, '"' => commands outer ('"' :: done) rest
    | .parens :: [], ')' => some (done.reverse, rest)
    | .parens :: outer, ')' => commands outer (')' :: done) rest
    | .single :: _, c | .double :: _, c => commands open_ (c :: done) rest
    | _, '(' => commands (.parens :: open_) ('(' :: done) rest
    | _, '\x27' => commands (.single :: open_) ('\x27' :: done) rest
    | _, '"' => commands (.double :: open_) ('"' :: done) rest
    | _, c => commands (nextNesting open_ done (c :: rest)) (c :: done) rest

/-- The commands between backquotes, in reverse onto `done`. -/
def backquoted (quoted : Bool) (done : List Char) : List Char → Option (List Char × List Char)
  | [] => none
  | '\x60' :: rest => some (done.reverse, rest)
  | '\\' :: c :: rest =>
    if c = '$' ∨ c = '\x60' ∨ c = '\\' ∨ (quoted ∧ c = '"') then backquoted quoted (c :: done) rest
    else backquoted quoted (c :: '\\' :: done) rest
  | c :: rest => backquoted quoted (c :: done) rest

def newlines (cs : List Char) : Nat := cs.count '\n'

/-- The operator behind a parameter's name, and what follows. -/
def operator? : List Char → Option (ParamOp × List Char)
  | ':' :: '-' :: rest => some (.default true, rest)
  | ':' :: '=' :: rest => some (.assign true, rest)
  | ':' :: '+' :: rest => some (.alternative true, rest)
  | ':' :: '?' :: rest => some (.require true, rest)
  | '-' :: rest => some (.default false, rest)
  | '=' :: rest => some (.assign false, rest)
  | '+' :: rest => some (.alternative false, rest)
  | '?' :: rest => some (.require false, rest)
  | '#' :: '#' :: rest => some (.dropStart true, rest)
  | '#' :: rest => some (.dropStart false, rest)
  | '%' :: '%' :: rest => some (.dropEnd true, rest)
  | '%' :: rest => some (.dropEnd false, rest)
  | _ => none

/-- The name of a parameter in braces, and what follows. -/
def paramName? : List Char → Option (String × List Char)
  | [] => none
  | c :: rest =>
    if isNameStart c then
      some (String.ofList ((c :: rest).takeWhile Text.isWordChar),
        (c :: rest).dropWhile Text.isWordChar)
    else if c.isDigit then
      some (String.ofList ((c :: rest).takeWhile Char.isDigit), (c :: rest).dropWhile Char.isDigit)
    else if isSpecial c then some (String.singleton c, rest)
    else none

/-- Reads pieces up to what ends them in this mode; `fuel` bounds the number of steps. -/
def pieces (fuel : Nat) (mode : Mode) (at_ : Cursor) (done : List Piece) :
    Except String (List Piece × Cursor) :=
  match fuel with
  | 0 => .error unterminated
  | fuel + 1 =>
    let literal (c : Char) (rest : List Char) :=
      let line := if c = '\n' then at_.line + 1 else at_.line
      pieces fuel mode ⟨rest, line⟩ (addChar mode.quoted c done)
    match at_.rest with
    | [] =>
      match mode with
      | .bare | .document => .ok (done, at_)
      | .braces _ => .error "Missing '\x7d'"
      | .arithmetic _ => .error "Missing '))'"
      | .double => .error unterminated
    | '\\' :: '\n' :: rest => pieces fuel mode ⟨rest, at_.line + 1⟩ done
    | ['\\'] => literal '\\' []
    | '\\' :: c :: rest =>
      let special := c = '$' ∨ c = '\x60' ∨ c = '\\' ∨ (c = '"' ∧ mode ≠ .document) ∨
        (c = '\x7d' ∧ mode = .braces true)
      if mode.quoted ∧ ¬ special then
        pieces fuel mode (at_.advance rest) (addChar true c (addChar true '\\' done))
      else pieces fuel mode (at_.advance rest) (addChar true c done)
    | '$' :: rest =>
      match rest with
      | '(' :: '(' :: rest =>
        match pieces fuel (.arithmetic 0) (at_.advance rest) [] with
        | .error e => .error e
        | .ok (body, next) =>
          pieces fuel mode next (.arithmetic (finish body) mode.quoted :: done)
      | '(' :: rest =>
        match commands [.parens] [] rest with
        | none => .error "end of file unexpected (expecting \")\")"
        | some (source, rest) =>
          pieces fuel mode ⟨rest, at_.line + newlines source⟩
            (.output source at_.line mode.quoted :: done)
      | '\x7b' :: rest =>
        let simple := paramName? rest
        let isLength : Option (String × List Char) :=
          match rest with
          | '#' :: after => match paramName? after with
            | some (name, '\x7d' :: after) => some (name, after)
            | _ => none
          | _ => none
        match isLength, simple with
        | some (name, rest), _ =>
          pieces fuel mode (at_.advance rest) (.param name .length [] mode.quoted :: done)
        | none, some (name, '\x7d' :: rest) =>
          pieces fuel mode (at_.advance rest) (.param name .value [] mode.quoted :: done)
        | none, found =>
          let (name, rest) := found.getD ("", rest)
          match operator? rest with
          | none =>
            if rest = [] then .error (if mode = .double then unterminated else "Missing '\x7d'")
            else
            let rest := if rest.head? = some ':' then rest.drop 2 else rest
            match pieces fuel (.braces mode.quoted) (at_.advance rest) [] with
              | .error e => .error e
              | .ok (_, next) => pieces fuel mode next (.param name .invalid [] mode.quoted :: done)
          | some (op, rest) =>
            let trims := match op with
              | .dropStart _ | .dropEnd _ => true
              | _ => false
            match pieces fuel (.braces (mode.quoted && !trims)) (at_.advance rest) [] with
            | .error e => .error e
            | .ok (arg, next) =>
              pieces fuel mode next (.param name op (finish arg) mode.quoted :: done)
      | c :: after =>
        if isNameStart c then
          pieces fuel mode (at_.advance (rest.dropWhile Text.isWordChar))
            (.param (String.ofList (rest.takeWhile Text.isWordChar)) .value [] mode.quoted :: done)
        else if isSpecial c then
          pieces fuel mode (at_.advance after)
            (.param (String.singleton c) .value [] mode.quoted :: done)
        else literal '$' rest
      | [] => literal '$' []
    | '\x60' :: rest =>
      match backquoted mode.quoted [] rest with
      | none => .error "EOF in backquote substitution"
      | some (source, after) =>
        pieces fuel mode ⟨after, at_.line + newlines source⟩
          (.output source at_.line mode.quoted :: done)
    | '\x27' :: rest =>
      if mode.quoted then literal '\x27' rest
      else match rest.dropWhile (· ≠ '\x27') with
        | [] => .error unterminated
        | _ :: after =>
          let inside := rest.takeWhile (· ≠ '\x27')
          pieces fuel mode ⟨after, at_.line + newlines inside⟩ (.text inside.reverse true :: done)
    | '"' :: rest =>
      match mode with
      | .double => .ok (done, at_.advance rest)
      | .document | .arithmetic _ => literal '"' rest
      | .bare | .braces _ =>
        match pieces fuel .double (at_.advance rest) [.text [] true] with
        | .error e => .error e
        | .ok (inside, next) => pieces fuel mode next (inside ++ done)
    | c :: rest =>
      match mode with
      | .bare => if isDelimiter c then .ok (done, at_) else literal c rest
      | .braces _ => if c = '\x7d' then .ok (done, at_.advance rest) else literal c rest
      | .arithmetic depth =>
        match c, depth, rest with
        | '(', _, _ =>
          pieces fuel (.arithmetic (depth + 1)) (at_.advance rest) (addChar true c done)
        | ')', 0, ')' :: rest => .ok (done, at_.advance rest)
        | ')', _, _ =>
          pieces fuel (.arithmetic (depth - 1)) (at_.advance rest) (addChar true c done)
        | _, _, _ => literal c rest
      | .double | .document => literal c rest

/-- One word. -/
def word (at_ : Cursor) : Except String (Word × Cursor) :=
  (pieces (2 * at_.rest.length + 2) .bare at_ []).map fun (done, next) => (finish done, next)

/-- The operator that a text starts with, and what follows. -/
def sign? : List Char → Option (String × List Char)
  | '&' :: '&' :: rest => some ("&&", rest)
  | '|' :: '|' :: rest => some ("||", rest)
  | ';' :: ';' :: rest => some (";;", rest)
  | '<' :: '<' :: '-' :: rest => some ("<<-", rest)
  | '<' :: '<' :: rest => some ("<<", rest)
  | '>' :: '>' :: rest => some (">>", rest)
  | '<' :: '&' :: rest => some ("<&", rest)
  | '>' :: '&' :: rest => some (">&", rest)
  | '<' :: '>' :: rest => some ("<>", rest)
  | '>' :: '|' :: rest => some (">|", rest)
  | c :: rest =>
    if "&|;<>()".contains c then some (String.singleton c, rest) else none
  | [] => none

/-- A here-document that is still to be read. -/
structure Pending where
  delimiter : List Char
  quoted : Bool
  /-- Tabs at the start of its lines are taken away. -/
  stripTabs : Bool

def Pending.ofWord (stripTabs : Bool) (w : Word) : Pending where
  delimiter := w.flatMap fun
    | .text cs _ => cs
    | _ => []
  quoted := w.any fun
    | .text _ quoted => quoted
    | _ => false
  stripTabs := stripTabs

/-- The lines of a here-document, and the text behind its delimiter. -/
def documentLines (p : Pending) (fuel : Nat) (done : List Char) (cs : List Char) :
    List Char × List Char :=
  match fuel, cs with
  | 0, _ => (done.reverse, cs)
  | _, [] => (done.reverse, [])
  | fuel + 1, cs =>
    let line := cs.takeWhile (· ≠ '\n')
    let rest := (cs.dropWhile (· ≠ '\n')).tail
    let line := if p.stripTabs then line.dropWhile (· = '\t') else line
    if line = p.delimiter then (done.reverse, rest)
    else documentLines p fuel ('\n' :: (line.reverse ++ done)) rest

/-- Reads a here-document. -/
def document (p : Pending) (at_ : Cursor) : Except String (Word × Cursor) := do
  let (body, rest) := documentLines p at_.rest.length [] at_.rest
  let next : Cursor := ⟨rest, at_.line + (newlines at_.rest - newlines rest)⟩
  if p.quoted then return ([.text body true], next)
  let (done, _) ← pieces (2 * body.length + 2) .document ⟨body, at_.line⟩ []
  return (finish done, next)

/-- Puts the text of the first here-document that misses one into its place. The tokens come last
first, so it is the last place among them. -/
def place (body : Word) (tokens : List Token) : List Token :=
  let isOpen (t : Token) : Bool := match t.kind with
    | .document [] => true
    | _ => false
  (tokens.reverse.takeWhile (!isOpen ·) ++
    (match tokens.reverse.dropWhile (!isOpen ·) with
      | t :: later => { t with kind := .document (.text [] true :: body) } :: later
      | [] => [])).reverse

/-- Reads the here-documents behind a line. -/
def documents (tokens : List Token) (at_ : Cursor) :
    List Pending → Except String (List Token × Cursor)
  | [] => .ok (tokens, at_)
  | p :: pending => do
    let (body, next) ← document p at_
    documents (place body tokens) next pending

/-- Reads tokens, the last of which comes first in `done`. -/
def tokens (fuel : Nat) (at_ : Cursor) (pending : List Pending) (done : List Token) : List Token :=
  let stop (kind : TokenKind) := (⟨at_.line, kind⟩ :: done).reverse
  match fuel with
  | 0 => stop .theEnd
  | fuel + 1 =>
    match at_.rest with
    | [] => stop .theEnd
    | ' ' :: rest | '\t' :: rest => tokens fuel (at_.advance rest) pending done
    | '\\' :: '\n' :: rest => tokens fuel ⟨rest, at_.line + 1⟩ pending done
    | '#' :: rest => tokens fuel (at_.advance (rest.dropWhile (· ≠ '\n'))) pending done
    | '\n' :: rest =>
      match documents (⟨at_.line, .newline⟩ :: done) ⟨rest, at_.line + 1⟩ pending with
      | .ok (done, next) => tokens fuel next [] done
      | .error e => stop (.fault e)
    | cs =>
      match sign? cs with
      | some (sign, rest) =>
        let done := ⟨at_.line, .operator sign⟩ :: done
        if sign = "<<" ∨ sign = "<<-" then
          match word (at_.advance (rest.dropWhile fun c => c == ' ' || c == '\t')) with
          | .ok ([], next) => tokens fuel next pending done
          | .ok (w, next) =>
            tokens fuel next (pending ++ [.ofWord (sign = "<<-") w])
              (⟨at_.line, .document []⟩ :: done)
          | .error e => stop (.fault e)
        else tokens fuel (at_.advance rest) pending done
      | none =>
        let digits := cs.takeWhile Char.isDigit
        let after := cs.drop digits.length
        if digits ≠ [] ∧ (after.head? = some '<' ∨ after.head? = some '>') then
          tokens fuel (at_.advance after) pending
            (⟨at_.line, .number ((String.ofList digits).toNat?.getD 0)⟩ :: done)
        else match word at_ with
          | .ok (w, next) => tokens fuel next pending (⟨at_.line, .word w⟩ :: done)
          | .error e => stop (.fault e)

end Lexer

/-- The tokens of a script. -/
def Token.ofSource (source : List Char) (line : Nat) : List Token :=
  Lexer.tokens (source.length + 1) ⟨source, line⟩ [] []

end PlaybookScan.Shell

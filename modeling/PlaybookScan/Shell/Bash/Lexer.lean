import PlaybookScan.Shell.Bash.Command
import PlaybookScan.Shell.Utility.Printf

/-!
# Words of the large shell

A script is read from left to right; what a character means depends on where it stands. A word is
read with the pieces that it is made of, down to the commands whose output it takes. How commands
are read is a parameter here. The text of a here-document is taken out of the script when the word
that ends it is read.
-/

set_option autoImplicit false

namespace PlaybookScan.Shell.Bash

/-- Why a script cannot be read, in some lines. -/
structure SyntaxError where
  line : Nat
  messages : List String
  deriving Repr

/-- A place in a script. -/
structure Cursor where
  rest : List Char
  line : Nat
  /-- Lines that were taken out behind the end of this one. -/
  skipped : Nat
  /-- The script from the start of this line on. -/
  start : List Char
  /-- Warnings with their lines, the last one first. -/
  warnings : List (Nat × String)

namespace Cursor

/-- The start of a text, the first line of which is `line`. -/
def ofText (text : List Char) (line : Nat) : Cursor := ⟨text, line, 0, text, []⟩

/-- The start of a script; its last line ends in a newline. -/
def ofSource (source : List Char) (line : Nat) : Cursor :=
  ofText (if source.getLast?.all (· == '\n') then source else source ++ ['\n']) line

/-- The cursor behind the next character. -/
def step (c : Cursor) : Cursor :=
  match c.rest with
  | [] => c
  | '\n' :: rest => { c with rest, line := c.line + 1 + c.skipped, skipped := 0, start := rest }
  | _ :: rest => { c with rest }

/-- The cursor behind the next `n` characters. -/
def skip (c : Cursor) : Nat → Cursor
  | 0 => c
  | n + 1 => c.step.skip n

/-- The text from this cursor to a later one. -/
def upTo (c later : Cursor) : List Char := c.rest.take (c.rest.length - later.rest.length)

/-- The text of the line that the cursor is in. -/
def lineText (c : Cursor) : String := String.ofList (c.start.takeWhile (· ≠ '\n'))

/-- Blanks, joined lines and, where `comments` may begin, a comment up to the end of the line. -/
def skipBlanks (comments : Bool) (fuel : Nat) (c : Cursor) : Cursor :=
  match fuel with
  | 0 => c
  | fuel + 1 =>
    match c.rest with
    | ' ' :: _ | '\t' :: _ => skipBlanks true fuel c.step
    | '\\' :: '\n' :: _ => skipBlanks comments fuel c.step.step
    | '#' :: _ =>
      if comments then c.skip (c.rest.takeWhile (· ≠ '\n')).length else c
    | _ => c

end Cursor

/-- Reads a part of a script. -/
abbrev Parse (α : Type) := StateT Cursor (Except SyntaxError) α

namespace Lexer

def advance (n : Nat) : Parse Unit := modify (·.skip n)

/-- Where the pieces of a word stand, and so what ends them. -/
inductive Mode where
  | bare
  /-- Between double quotes. -/
  | double
  /-- In a here-document. -/
  | document
  /-- Behind the operator of a parameter, up to one of these characters or the closing brace. -/
  | braces (quoted : Bool) (stops : List Char)
  /-- Up to the closing bracket; `depth` brackets are open. A closing brace ends it too if it is
  `braced`. -/
  | subscript (braced : Bool) (depth : Nat)
  /-- Up to two closing parentheses or a semicolon; `depth` single ones are open. -/
  | arithmetic (depth : Nat)
  /-- In a group of patterns, up to the parenthesis that closes it. -/
  | group (depth : Nat)
  /-- A regular expression; `depth` parentheses are open. -/
  | regex (depth : Nat)
  deriving DecidableEq

def Mode.quoted : Mode → Bool
  | .double | .document | .arithmetic _ => true
  | .braces quoted _ => quoted
  | _ => false

/-- A word ends before these characters. -/
def isDelimiter (c : Char) : Bool := " \t\n;&|<>()".contains c

def isNameStart (c : Char) : Bool := c.isAlpha || c == '_'

def isNameChar (c : Char) : Bool := c.isAlphanum || c == '_'

/-- The one-character parameters. -/
def isSpecial (c : Char) : Bool := c.isDigit || "@*#?$!-".contains c

/-- The name that a text starts with. -/
def leadingName (cs : List Char) : List Char :=
  if (cs.head?.map isNameStart).getD false then cs.takeWhile isNameChar else []

/-- Adds a character to the pieces, the last of which comes first. -/
def addChar (quoted : Bool) (c : Char) : List Piece → List Piece
  | .text cs q :: done => if q = quoted then .text (c :: cs) q :: done
      else .text [c] quoted :: .text cs q :: done
  | done => .text [c] quoted :: done

/-- Puts the characters and the pieces into their order. -/
def finish (done : List Piece) : List Piece :=
  done.reverse.map fun
    | .text cs quoted => .text cs.reverse quoted
    | piece => piece

/-- A piece of a text that is expanded as a whole, so that a fault in the piece tells `source`. -/
def faultIn (source : List Char) (quoted : Bool) : Piece → Piece
  | .param indirect name index .invalid words own q =>
    .param indirect name index .invalid words (if q = quoted then source else own) q
  | piece => piece

/-- The phrase of a text and the pieces that were read from it, the last of which comes first. -/
def phraseOf (mode : Mode) (source : List Char) (done : List Piece) : Word :=
  ⟨source, (finish done).map (faultIn source mode.quoted)⟩

/-- The complaint of a text that ends before it is closed. -/
def unclosed {α : Type} (line : Nat) (closer : String) : Parse α :=
  throw ⟨line, ["unexpected EOF while looking for matching \x60" ++ closer ++ "'"]⟩

/-- Reads something that begins in the line `line`, which is where its end is missed. -/
def beginning {α : Type} (line : Nat) (closer : String) (act : Parse α) : Parse α := fun c =>
  match act c with
  | .ok found => .ok found
  | .error e => match unclosed line closer c with
    | .error missed => .error (if e.messages = missed.messages then missed else e)
    | .ok found => .ok found

/-- The characters that escapes between `$'` and a quote stand for, in reverse onto `done`, and what
follows the quote; `fuel` is the length of the text. -/
def escapes (fuel : Nat) (done : List Char) (cs : List Char) : Option (List Char × List Char) :=
  match fuel, cs with
  | _, [] | 0, _ => none
  | _, '\x27' :: rest => some (done, rest)
  | fuel + 1, '\\' :: 'c' :: c :: rest =>
    let control := if c = '?' then '\x7f' else Char.ofNat (c.toUpper.toNat % 32)
    escapes fuel (control :: done) rest
  | fuel + 1, '\\' :: rest =>
    match Printf.formatEscape .bash rest with
    | (.text ['\x00'], after) => some (done, (after.dropWhile (· ≠ '\x27')).drop 1)
    | (.text text, after) => escapes fuel (text.reverse ++ done) after
    | _ => escapes fuel ('\\' :: done) rest
  | fuel + 1, c :: rest => escapes fuel (c :: done) rest

/-- The commands between backquotes, in reverse onto `done`. -/
def backquoted (quoted : Bool) (done : List Char) : List Char → Option (List Char)
  | [] => none
  | '\x60' :: _ => some done.reverse
  | '\\' :: c :: rest =>
    if c = '$' ∨ c = '\x60' ∨ c = '\\' ∨ (quoted ∧ c = '"') then backquoted quoted (c :: done) rest
    else backquoted quoted (c :: '\\' :: done) rest
  | c :: rest => backquoted quoted (c :: done) rest

/-- Number of characters up to the backquote that ends the commands, if there is one. -/
def backquotedLength (n : Nat) : List Char → Option Nat
  | [] => none
  | '\x60' :: _ => some n
  | '\\' :: _ :: rest => backquotedLength (n + 2) rest
  | _ :: rest => backquotedLength (n + 1) rest

/-- The operator behind a parameter's name, its length, the characters that end its first word, and
whether its words keep the quotes that the parameter stands between. -/
def operator? : List Char → Option (Operation × Nat × List Char × Bool)
  | ':' :: '-' :: _ => some (.default true, 2, [], true)
  | ':' :: '=' :: _ => some (.assign true, 2, [], true)
  | ':' :: '+' :: _ => some (.alternative true, 2, [], true)
  | ':' :: '?' :: _ => some (.require true, 2, [], true)
  | '-' :: _ => some (.default false, 1, [], true)
  | '=' :: _ => some (.assign false, 1, [], true)
  | '+' :: _ => some (.alternative false, 1, [], true)
  | '?' :: _ => some (.require false, 1, [], true)
  | '#' :: '#' :: _ => some (.dropStart true, 2, [], false)
  | '#' :: _ => some (.dropStart false, 1, [], false)
  | '%' :: '%' :: _ => some (.dropEnd true, 2, [], false)
  | '%' :: _ => some (.dropEnd false, 1, [], false)
  | '/' :: '/' :: _ => some (.replace .all, 2, ['/'], false)
  | '/' :: '#' :: _ => some (.replace .atStart, 2, ['/'], false)
  | '/' :: '%' :: _ => some (.replace .atEnd, 2, ['/'], false)
  | '/' :: _ => some (.replace .first, 1, ['/'], false)
  | '^' :: '^' :: _ => some (.change .upper true, 2, [], false)
  | '^' :: _ => some (.change .upper false, 1, [], false)
  | ',' :: ',' :: _ => some (.change .lower true, 2, [], false)
  | ',' :: _ => some (.change .lower false, 1, [], false)
  | '~' :: '~' :: _ => some (.change .swap true, 2, [], false)
  | '~' :: _ => some (.change .swap false, 1, [], false)
  | '@' :: c :: '\x7d' :: _ => some (.transform c, 2, [], false)
  | '@' :: _ => some (.transform '@', 1, [], false)
  | ':' :: _ => some (.slice, 1, [':'], true)
  | _ => none

/-- The name of a parameter that a text starts with. -/
def paramName? : List Char → Option (List Char)
  | [] => none
  | c :: rest =>
    if isNameStart c then some ((c :: rest).takeWhile isNameChar)
    else if c.isDigit then some ((c :: rest).takeWhile Char.isDigit)
    else if isSpecial c then some [c]
    else none

section

-- `inner` reads commands up to a closing parenthesis, which it takes too, with the line in which
-- they begin; `groups` says that groups of patterns may stand in every word.
variable (inner : Parse (Nat × Command)) (groups : Bool)

mutual

/-- Reads pieces up to what ends them in this mode; `fuel` bounds the number of steps. -/
def pieces (fuel : Nat) (mode : Mode) (done : List Piece) : Parse (List Piece) := do
  match fuel with
  | 0 => unclosed 0 ""
  | fuel + 1 =>
    let c ← get
    let literal : Parse (List Piece) := do
      modify Cursor.step
      pieces fuel mode (addChar mode.quoted (c.rest.headD ' ') done)
    match c.rest with
    | [] =>
      match mode with
      | .bare | .document => return done
      | .regex depth => if depth = 0 then return done else unclosed c.line ")"
      | .braces .. => unclosed c.line "\x7d"
      | .arithmetic _ | .group _ => unclosed c.line ")"
      | .subscript .. => unclosed c.line "]"
      | .double => unclosed c.line "\""
    | '\\' :: '\n' :: _ =>
      advance 2
      pieces fuel mode done
    | ['\\'] => literal
    | '\\' :: d :: _ =>
      let special := d = '$' ∨ d = '\x60' ∨ d = '\\' ∨ (d = '"' ∧ mode ≠ .document) ∨
        (d = '\x7d' ∧ mode matches .braces true _)
      advance 2
      if mode.quoted ∧ ¬ special then pieces fuel mode (addChar true d (addChar true '\\' done))
      else pieces fuel mode (addChar true d done)
    | '$' :: _ =>
      match ← dollar fuel mode with
      | some found => pieces fuel mode (found ++ done)
      | none => literal
    | '\x60' :: rest =>
      match backquotedLength 0 rest, backquoted mode.quoted [] rest with
      | some n, some source =>
        advance (n + 2)
        pieces fuel mode (.backquoted source mode.quoted :: done)
      | _, _ => unclosed c.line "\x60"
    | '\x27' :: rest =>
      if mode.quoted then literal
      else
        let inside := rest.takeWhile (· ≠ '\x27')
        if inside.length = rest.length then unclosed c.line "'"
        advance (inside.length + 2)
        pieces fuel mode (.text inside.reverse true :: done)
    | '"' :: _ =>
      match mode with
      | .double => return done
      | .document => literal
      | .arithmetic _ =>
        advance 1
        pieces fuel mode done
      | _ =>
        advance 1
        let inside ← quotedPieces fuel c.line
        pieces fuel mode (inside ++ done)
    | d :: rest =>
      match mode with
      | .double | .document => literal
      | .braces _ stops =>
        if d = '\x7d' ∨ stops.contains d then return done else literal
      | .subscript braced depth =>
        if d = '[' then
          modify Cursor.step
          pieces fuel (.subscript braced (depth + 1)) (addChar false d done)
        else if d = ']' then
          if depth = 0 then return done
          modify Cursor.step
          pieces fuel (.subscript braced (depth - 1)) (addChar false d done)
        else if braced ∧ d = '\x7d' then return done
        else literal
      | .arithmetic depth =>
        if d = '(' then
          modify Cursor.step
          pieces fuel (.arithmetic (depth + 1)) (addChar true d done)
        else if d = ')' then
          if depth = 0 then return done
          modify Cursor.step
          pieces fuel (.arithmetic (depth - 1)) (addChar true d done)
        else literal
      | .group depth =>
        if d = '(' then
          modify Cursor.step
          pieces fuel (.group (depth + 1)) (addChar false d done)
        else if d = ')' then
          if depth = 0 then return done
          modify Cursor.step
          pieces fuel (.group (depth - 1)) (addChar false d done)
        else literal
      | .regex depth =>
        if d = '(' then
          modify Cursor.step
          beginning c.line ")" (pieces fuel (.regex (depth + 1)) (addChar false d done))
        else if d = ')' ∧ depth ≠ 0 then
          modify Cursor.step
          pieces fuel (.regex (depth - 1)) (addChar false d done)
        else if depth = 0 ∧ d ≠ '|' ∧ isDelimiter d then return done
        else literal
      | .bare =>
        if groups ∧ "?*+@!".contains d ∧ rest.head? = some '(' then
          advance 2
          let before := addChar false '(' (addChar false d done)
          let inside ← beginning c.line ")" (pieces fuel (.group 0) before)
          modify Cursor.step
          pieces fuel mode (addChar false ')' inside)
        else if (d = '<' ∨ d = '>') ∧ rest.head? = some '(' then
          advance 2
          let (line, command) ← inner
          pieces fuel mode (.channel (d == '>') line command :: done)
        else if isDelimiter d then return done
        else literal

/-- The pieces between double quotes, behind the first of them, which is in the line `line`. -/
def quotedPieces (fuel : Nat) (line : Nat) : Parse (List Piece) := do
  match fuel with
  | 0 => unclosed line "\""
  | fuel + 1 =>
    let c ← get
    let inside ← beginning line "\"" (pieces fuel .double [.text [] true])
    let source := c.upTo (← get)
    modify Cursor.step
    return inside.map (faultIn source true)

/-- What a dollar sign begins, if it does not stand for itself. -/
def dollar (fuel : Nat) (mode : Mode) : Parse (Option (List Piece)) := do
  match fuel with
  | 0 => return none
  | fuel + 1 =>
    let c ← get
    let quoted := mode.quoted
    match c.rest.tail with
    | '(' :: '(' :: _ =>
      advance 3
      let body ← beginning c.line ")" (pieces fuel (.arithmetic 0) [])
      let source := (c.skip 3).upTo (← get)
      match (← get).rest with
      | ')' :: ')' :: _ =>
        advance 2
        return some [.arithmetic (phraseOf (.arithmetic 0) source body).pieces quoted]
      | _ =>
        set (c.skip 2)
        let (line, command) ← beginning c.line ")" inner
        return some [.output line command quoted]
    | '(' :: _ =>
      advance 2
      let (line, command) ← inner
      return some [.output line command quoted]
    | '[' :: _ =>
      advance 2
      let body ← beginning c.line "]" (pieces fuel (.subscript false 0) [])
      modify Cursor.step
      return some [.arithmetic (finish body) quoted]
    | '\x7b' :: _ =>
      advance 2
      let p ← beginning c.line "\x7d" (parameter fuel quoted c)
      return some [p]
    | '\x27' :: rest =>
      if quoted then return none
      match escapes rest.length [] rest with
      | none => unclosed c.line "'"
      | some (cs, after) =>
        advance (2 + rest.length - after.length)
        return some [.text cs true]
    | '"' :: _ =>
      if quoted then return none
      advance 2
      return some (← quotedPieces fuel c.line)
    | d :: rest =>
      if isNameStart d then
        let name := (d :: rest).takeWhile isNameChar
        advance (1 + name.length)
        return some [.param false (String.ofList name) .whole .value [] ('$' :: name) quoted]
      else if isSpecial d then
        advance 2
        return some [.param false (String.singleton d) .whole .value [] ['$', d] quoted]
      else return none
    | [] => return none

/-- A parameter behind its opening brace; `start` is where it begins. -/
def parameter (fuel : Nat) (quoted : Bool) (start : Cursor) : Parse Piece := do
  match fuel with
  | 0 => unclosed start.line "\x7d"
  | fuel + 1 =>
    let c ← get
    let close (name : List Char) (index : Index Word) (op : Operation) : Parse Piece := do
      modify Cursor.step
      return .param false (String.ofList name) index op [] (start.upTo (← get)) quoted
    match c.rest with
    | '#' :: '\x7d' :: _ =>
      modify Cursor.step
      close ['#'] .whole .value
    | '#' :: rest =>
      match paramName? rest with
      | some name =>
        advance (1 + name.length)
        let index ← subscript fuel name
        if (← get).rest.head? = some '\x7d' then close name index .length
        else
          set c.step
          operation fuel quoted start false ['#'] .whole
      | none =>
        set c.step
        operation fuel quoted start false ['#'] .whole
    | '!' :: rest =>
      match leadingName rest, paramName? rest with
      | [], none =>
        modify Cursor.step
        if rest.head? = some '\x7d' then close ['!'] .whole .value
        else operation fuel quoted start false ['!'] .whole
      | [], some name =>
        advance (1 + name.length)
        operation fuel quoted start true name .whole
      | name, _ =>
        advance (1 + name.length)
        let index ← subscript fuel name
        match index, (← get).rest with
        | .every star, '\x7d' :: _ => close name (.every star) .keys
        | .whole, '*' :: '\x7d' :: _ =>
          modify Cursor.step
          close name .whole (.names true)
        | .whole, '@' :: '\x7d' :: _ =>
          modify Cursor.step
          close name .whole (.names false)
        | index, _ => operation fuel quoted start true name index
    | rest =>
      match paramName? rest with
      | none => operation fuel quoted start false [] .whole
      | some name =>
        advance name.length
        let index ← subscript fuel name
        operation fuel quoted start false name index

/-- The operator of a parameter whose name has been read. -/
def operation (fuel : Nat) (quoted : Bool) (start : Cursor) (indirect : Bool) (name : List Char)
    (index : Index Word) : Parse Piece := do
  match fuel with
  | 0 => unclosed start.line "\x7d"
  | fuel + 1 =>
    let close (op : Operation) (words : List Word) : Parse Piece := do
      modify Cursor.step
      return .param indirect (String.ofList name) index op words (start.upTo (← get)) quoted
    let word (quoted : Bool) (stops : List Char) : Parse Word := do
      let c ← get
      let body ← pieces fuel (.braces quoted stops) []
      let source := c.upTo (← get)
      return { phraseOf (.braces quoted stops) (source.filter fun d => !quoted || d != '"') body with
        source }
    let rest := (← get).rest
    match if name = [] then none else operator? rest with
    | none =>
      if name ≠ [] ∧ rest.head? = some '\x7d' then close .value []
      else
        discard <| word quoted []
        close .invalid []
    | some (op, size, stops, keeps) =>
      advance size
      let first ← word (quoted && keeps) stops
      if stops ≠ [] ∧ (← get).rest.head? ≠ some '\x7d' then
        modify Cursor.step
        let second ← word (quoted && keeps) []
        close op [first, second]
      else close op [first]

/-- The subscript behind the name of a parameter, if there is one. -/
def subscript (fuel : Nat) (name : List Char) : Parse (Index Word) := do
  match fuel with
  | 0 => return .whole
  | fuel + 1 =>
    if leadingName name = [] then return .whole
    match (← get).rest with
    | '[' :: '@' :: ']' :: _ =>
      advance 3
      return .every false
    | '[' :: '*' :: ']' :: _ =>
      advance 3
      return .every true
    | '[' :: _ =>
      let before ← get
      modify Cursor.step
      let c ← get
      let body ← beginning c.line "]" (pieces fuel (.subscript true 0) [])
      let key := phraseOf (.subscript true 0) (c.upTo (← get)) body
      if (← get).rest.head? = some ']' then
        modify Cursor.step
        return .element key
      set before
      return .whole
    | _ => return .whole

end

end

end Lexer

end PlaybookScan.Shell.Bash

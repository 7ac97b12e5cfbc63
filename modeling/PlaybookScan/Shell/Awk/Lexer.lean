import PlaybookScan.Shell.Awk.Value
import PlaybookScan.Shell.Regex.Posix

/-!
# Words of record programs

The text of a program is cut into words. A slash begins a regular expression unless it stands behind
an operand.
-/

set_option autoImplicit false

namespace PlaybookScan.Shell.Awk

inductive Word where
  | number (x : Float) (shown : String)
  | text (s : String)
  /-- The text of a regular expression. -/
  | pattern (s : String)
  /-- A name; `called` says that a parenthesis follows at once. -/
  | name (s : String) (called : Bool)
  | builtin (s : String)
  | keyword (s : String)
  | sign (s : String)
  | newline
  | theEnd
  deriving Inhabited

/-- A word with the line that it stands in. -/
structure Token where
  line : Nat
  word : Word
  deriving Inhabited

/-- A complaint about a line; some tell of it in other words. -/
structure Complaint where
  line : Nat
  message : String
  /-- It is about a character. -/
  bare : Bool

def keywords : List String :=
  ["BEGIN", "END", "function", "if", "else", "while", "for", "do", "break", "continue", "next",
    "nextfile", "exit", "return", "delete", "in", "getline", "print", "printf"]

/-- The functions that every program has, and how many arguments each one gets. -/
def builtins : List (String × Nat × Nat) :=
  [("length", 0, 1), ("substr", 2, 3), ("index", 2, 2), ("split", 2, 3), ("sub", 2, 3),
    ("gsub", 2, 3), ("match", 2, 2), ("sprintf", 1, 255), ("sin", 1, 1), ("cos", 1, 1),
    ("atan2", 2, 2), ("exp", 1, 1), ("log", 1, 1), ("sqrt", 1, 1), ("int", 1, 1), ("rand", 0, 0),
    ("srand", 0, 1), ("tolower", 1, 1), ("toupper", 1, 1), ("system", 1, 1), ("close", 1, 1),
    ("fflush", 0, 1), ("systime", 0, 0), ("mktime", 1, 1), ("strftime", 0, 3)]

namespace Word

/-- How a complaint names the word. -/
def shown : Word → String
  | number _ s => s
  | text s => s
  | pattern s => "/" ++ s ++ "/"
  | name s _ | builtin s | keyword s | sign s => s
  | newline => "end of line"
  | theEnd => "end of file"

/-- A slash behind the word is a division. -/
def isOperand : Word → Bool
  | number .. | text _ | pattern _ | name .. => true
  | keyword s => s == "getline"
  | sign s => [")", "]", "$", "++", "--"].contains s
  | _ => false

end Word

namespace Lexer

/-- A character by its number in octal or hexadecimal digits behind a backslash, or one with a
letter, and what follows. -/
def escape? (cs : List Char) : Option (Char × List Char) :=
  match cs with
  | 'x' :: rest =>
    match (rest.take 2).takeWhile fun c => Binary.digitOf c < 16 with
    | [] => none
    | ds => some (Char.ofNat (Binary.valueOf 16 ds), rest.drop ds.length)
  | c :: rest =>
    match c with
    | 'a' => some ('\x07', rest)
    | 'b' => some ('\x08', rest)
    | 'f' => some ('\x0c', rest)
    | 'n' => some ('\n', rest)
    | 'r' => some ('\x0d', rest)
    | 't' => some ('\t', rest)
    | 'v' => some ('\x0b', rest)
    | c =>
      if '0' ≤ c ∧ c ≤ '7' then
        let ds := ((c :: rest).take 3).takeWhile fun c => '0' ≤ c ∧ c ≤ '7'
        some (Char.ofNat (Binary.valueOf 8 ds % 256), (c :: rest).drop ds.length)
      else none
  | [] => none

/-- Resolves the backslashes of a text; `fuel` is its length. -/
def unescape (fuel : Nat) (cs : List Char) : List Char :=
  match fuel, cs with
  | 0, _ => cs
  | _, [] => []
  | fuel + 1, '\\' :: rest =>
    match rest with
    | '"' :: rest => '"' :: unescape fuel rest
    | '\\' :: rest => '\\' :: unescape fuel rest
    | '\n' :: rest => unescape fuel rest
    | rest => match escape? rest with
      | some (c, rest) => c :: unescape fuel rest
      | none => '\\' :: unescape fuel rest
  | fuel + 1, c :: rest => c :: unescape fuel rest

/-- The text between quotes up to the closing one, as it stands, and what follows. -/
def quotedText : List Char → Option (List Char × List Char)
  | [] => none
  | '"' :: rest => some ([], rest)
  | '\\' :: c :: rest => (quotedText rest).map fun (cs, rest) => ('\\' :: c :: cs, rest)
  | c :: rest =>
    if c = '\n' then none else (quotedText rest).map fun (cs, rest) => (c :: cs, rest)

/-- The text of a regular expression up to its slash; within brackets a slash is one like others.
`start` says that a closing bracket would be the first member. -/
def patternText (inBrackets start : Bool) : List Char → Option (List Char × List Char)
  | [] => none
  | '\\' :: '/' :: rest =>
    (patternText inBrackets false rest).map fun (cs, rest) => ('/' :: cs, rest)
  | '\\' :: c :: rest =>
    (patternText inBrackets false rest).map fun (cs, rest) => ('\\' :: c :: cs, rest)
  | c :: rest =>
    let go (inBrackets start : Bool) := (patternText inBrackets start rest).map fun (cs, rest) =>
      (c :: cs, rest)
    if c = '\n' then none
    else if c = '/' ∧ !inBrackets then some ([], rest)
    else if inBrackets then
      if c = ']' ∧ !start then go false false else go true (start && c == '^')
    else go (c == '[') (c == '[')

/-- A number in the text of a program, and what follows. -/
def numberText? (cs : List Char) : Option (Float × List Char × List Char) :=
  let whole := cs.takeWhile Char.isDigit
  let rest := cs.drop whole.length
  let (fraction, rest) : List Char × List Char := match rest with
    | '.' :: rest => (rest.takeWhile Char.isDigit, rest.dropWhile Char.isDigit)
    | rest => ([], rest)
  if whole = [] ∧ fraction = [] then none
  else
    let rest := ((Binary.exponent? 'e' rest).map Prod.snd).getD rest
    let shown := cs.take (cs.length - rest.length)
    (Binary.digits? .double false 10 'e' 10 shown).map fun r => (r.value.toFloat, shown, rest)

/-- Signs, the longer ones first. -/
def signs : List String :=
  ["&&", "||", "++", "--", "+=", "-=", "*=", "/=", "%=", "^=", "==", "<=", ">=", "!=", "!~", ">>",
    "\x7b", "\x7d", "(", ")", "[", "]", ";", ",", "+", "-", "*", "/", "%", "^", "!", ">", "<", "|",
    "?", ":", "~", "$", "="]

/-- The words of a text from a line on, behind the word `last`; `fuel` is its length. -/
def words (fuel line : Nat) (last : Word) (cs : List Char) : Except Complaint (List Token) :=
  match fuel, cs with
  | 0, _ | _, [] => .ok [⟨line, .newline⟩, ⟨line + 1, .theEnd⟩]
  | fuel + 1, c :: rest =>
    let put (word : Word) (line : Nat) (rest : List Char) : Except Complaint (List Token) :=
      (words fuel line word rest).map (⟨line, word⟩ :: ·)
    let newlines (cs : List Char) : Nat := cs.count '\n'
    let bad (message : String) : Except Complaint (List Token) := .error ⟨line, message, false⟩
    let runaway (what : String) : Except Complaint (List Token) :=
      bad ("runaway " ++ what ++ " " ++ String.ofList (cs.take 11) ++ " ...")
    if c = ' ' ∨ c = '\t' ∨ c = '\x0d' ∨ c = '\x0b' ∨ c = '\x0c' then words fuel line last rest
    else if c = '#' then words fuel line last (rest.dropWhile (· ≠ '\n'))
    else if c = '\n' then (words fuel (line + 1) .newline rest).map (⟨line, .newline⟩ :: ·)
    else if c = '\\' ∧ rest.head? = some '\n' then words fuel (line + 1) last rest.tail
    else if c = '\\' ∧ rest.take 2 = ['\x0d', '\n'] then words fuel (line + 1) last (rest.drop 2)
    else if c = '"' then
      match quotedText rest with
      | none => runaway "string constant"
      | some (body, rest) =>
        put (.text (String.ofList (unescape body.length body))) (line + newlines body) rest
    else if c = '/' ∧ !last.isOperand then
      match patternText false false rest with
      | none => runaway "regular expression"
      | some (body, rest) => put (.pattern (String.ofList body)) line rest
    else if c.isAlpha ∨ c = '_' then
      let name := cs.takeWhile Text.isWordChar
      let rest := cs.drop name.length
      let word := String.ofList name
      let word : Word :=
        if keywords.contains word then .keyword word
        else if (builtins.lookup word).isSome then .builtin word
        else .name word (rest.head? == some '(')
      put word line rest
    else match numberText? cs with
      | some (x, shown, rest) => put (.number x (String.ofList shown)) line rest
      | none =>
        match signs.find? fun s => s.toList.isPrefixOf cs with
        | some s => put (.sign s) line (cs.drop s.length)
        | none =>
          .error ⟨line, "unexpected character '" ++ String.singleton c ++ "'", true⟩

end Lexer

/-! ## Regular expressions -/

/-- The text of a regular expression with its characters in the place of their numbers. -/
def plainPattern (fuel : Nat) (cs : List Char) : List Char :=
  match fuel, cs with
  | 0, _ => cs
  | _, [] => []
  | fuel + 1, '\\' :: rest =>
    match rest with
    | [] => ['\\', '\\']
    | c :: more => match Lexer.escape? rest with
      | some (d, rest) => '\\' :: d :: plainPattern fuel rest
      | none => '\\' :: c :: plainPattern fuel more
  | fuel + 1, c :: rest => c :: plainPattern fuel rest

/-- Reads a regular expression. -/
def finder? (pattern : String) : Except String Regex.Finder :=
  let rules : Regex.Rules := ⟨.awk, true, false, false⟩
  if pattern = "" then .ok ⟨.empty, true⟩
  else (rules.finder (plainPattern pattern.length pattern.toList)).mapError fun message =>
    "regular expression compile failed (" ++
      (if message.startsWith "Unmatched (" then "missing ')'"
        else if message.startsWith "Unmatched [" ∨ message.startsWith "Invalid char" then
          "bad class -- [], [^] or ["
        else message) ++ ")\n" ++ pattern

end PlaybookScan.Shell.Awk

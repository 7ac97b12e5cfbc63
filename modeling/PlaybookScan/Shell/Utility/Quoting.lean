/-!
# Quoted words

How programs show the words that their messages are about.
-/

set_option autoImplicit false

namespace PlaybookScan.Shell.Quoting

/-- Three digits of base 8. -/
def octal (c : Char) : List Char :=
  let ds := Nat.toDigits 8 c.toNat
  List.replicate (3 - ds.length) '0' ++ ds

def isPrintable (c : Char) : Bool := ' ' ≤ c && c ≤ '~'

/-- A character that is not printable, as an escape. -/
def escaped (c : Char) : List Char :=
  match c with
  | '\x07' => ['\\', 'a']
  | '\x08' => ['\\', 'b']
  | '\x0c' => ['\\', 'f']
  | '\n' => ['\\', 'n']
  | '\r' => ['\\', 'r']
  | '\t' => ['\\', 't']
  | '\x0b' => ['\\', 'v']
  | c => '\\' :: octal c

/-- In quotes, where backslashes and quotes are escaped. -/
def plain (word : String) : String :=
  let shown (c : Char) : List Char :=
    if c = '\\' ∨ c = '\x27' then ['\\', c] else if isPrintable c then [c] else escaped c
  "'" ++ String.ofList (word.toList.flatMap shown) ++ "'"

/-- The rest of a quoted word with other quotes around what cannot be printed; `escaping` is within
those. -/
def runs (escaping : Bool) : List Char → List Char
  | [] => ['\x27']
  | c :: cs =>
    if isPrintable c then
      let lead := if escaping then ['\x27', '\x27'] else []
      lead ++ (if c = '\x27' then ['\x27', '\\', '\x27', '\x27'] else [c]) ++ runs false cs
    else (if escaping then [] else ['\x27', '$', '\x27']) ++ escaped c ++ runs true cs

/-- A character that stands for itself also between double quotes. -/
def isTame (c : Char) : Bool := c.isAlphanum || "%+,-./:]_ '#~\x7b\x7d".contains c

/-- In the quotes in which a shell would read the word. -/
def always (word : String) : String :=
  let cs := word.toList
  if cs.contains '\x27' ∧ cs.all isTame then "\"" ++ word ++ "\""
  else if cs.all isPrintable then "'" ++ word.replace "'" "'\\''" ++ "'"
  else String.ofList ('\x27' :: runs false cs)

/-- A shell would not read the word as it is. -/
def isNeeded (word : String) : Bool :=
  match word.toList with
  | [] => true
  | c :: cs =>
    c == '#' || c == '~' || (cs.isEmpty && (c == '\x7b' || c == '\x7d')) ||
      (c :: cs).any fun d => !isPrintable d || " !\"$&()*;<=>[^\x60|'?\\".contains d

/-- In quotes where they are needed. -/
def ifNeeded (word : String) : String := if isNeeded word then always word else word

/-- With backslashes in front of the characters that a shell would not read as they are, or between
quotes that allow all escapes. -/
def backslashed (word : String) : String :=
  let cs := word.toList
  if cs = [] then "''"
  else if !cs.all isPrintable then
    let shown (c : Char) : List Char :=
      if c = '\x1b' then ['\\', 'E']
      else if c = '\\' ∨ c = '\x27' then ['\\', c]
      else if isPrintable c then [c] else escaped c
    "$'" ++ String.ofList (cs.flatMap shown) ++ "'"
  else
    let special (c : Char) : Bool := " '\"\\|&;()<>!\x7b\x7d*[]?^$\x60,".contains c
    let shown := fun ((before, c) : Option Char × Char) =>
      let leads := match before with
        | none => c == '#' || c == '~'
        | some b => c == '~' && (b == '=' || b == ':')
      if special c || leads then ['\\', c] else [c]
    String.ofList (((none :: cs.map some).zip cs).flatMap shown)

end PlaybookScan.Shell.Quoting

import PlaybookScan.Text.CharClass

/-!
# Escapes in patterns

A log filter may ask for the value of a field by a regular expression. Only its form matters here:
whether it is one, how deep it nests, and whether its parts may stand where they do. A reader takes
the text that is still to be read and answers what is left, or nothing if the pattern is malformed.
-/

set_option autoImplicit false

namespace PlaybookScan.Log.Pattern

/-- How a pattern is read, which groups of flags can change. -/
structure Mode where
  /-- Blanks and comments between the parts are passed over. -/
  verbose : Bool
  /-- The pattern is about characters; else it is about bytes, and still may not match a part of a
  character. -/
  unicode : Bool
  deriving DecidableEq, Repr

/-- Passes over blanks and comments; a comment goes on to the end of its line. -/
def skipBlanks (inComment : Bool) : List Char → List Char
  | [] => []
  | c :: cs =>
    if inComment then skipBlanks (c != '\n') cs
    else if Text.isBlank c then skipBlanks false cs
    else if c == '#' then skipBlanks true cs
    else c :: cs

namespace Mode

def skip (m : Mode) (cs : List Char) : List Char := if m.verbose then skipBlanks false cs else cs

/-- What is left, if it is something. -/
def more? (m : Mode) (cs : List Char) : Option (List Char) :=
  match m.skip cs with
  | [] => none
  | c :: cs => some (c :: cs)

/-- The next character behind blanks. The sign of one comment is passed over, its text is not. -/
def peek? (m : Mode) (cs : List Char) : Option Char :=
  if m.verbose then
    let rest := match cs.dropWhile Text.isBlank with
      | '#' :: rest => rest.dropWhile Text.isBlank
      | rest => rest
    rest.head? <|> cs.head?
  else cs.head?

end Mode

/-- What an escape stands for. -/
inductive Escape where
  /-- `isByte`: the character was given by two hexadecimal digits. -/
  | literal (c : Char) (isByte : Bool)
  /-- A class such as digits or blanks. -/
  | shorthand (negated : Bool)
  /-- The characters of a Unicode category. -/
  | category
  /-- An edge of a word, or a place that is none. -/
  | wordBoundary
  /-- The start or the end of the text. -/
  | anchor
  deriving DecidableEq, Repr

namespace Escape

/-- The escape may stand outside a class. -/
def fits (m : Mode) : Escape → Bool
  | literal c isByte => m.unicode || !isByte || c.toNat < 0x80
  | shorthand negated => m.unicode || !negated
  | category => m.unicode
  | wordBoundary | anchor => true

/-- The escape may stand inside a class. -/
def fitsClass (m : Mode) : Escape → Bool
  | literal c _ => m.unicode || c.toNat < 0x80
  | shorthand negated => m.unicode || !negated
  | category => m.unicode
  | wordBoundary | anchor => false

end Escape

def hexValue? (c : Char) : Option Nat :=
  if c.isDigit then some (c.toNat - 48)
  else if 'a' ≤ c ∧ c ≤ 'f' then some (c.toNat - 87)
  else if 'A' ≤ c ∧ c ≤ 'F' then some (c.toNat - 55)
  else none

/-- Reads `n` hexadecimal digits behind those of `value`. -/
def hexDigits? (m : Mode) (value : Nat) : Nat → List Char → Option (Nat × List Char)
  | 0, cs => some (value, cs)
  | _ + 1, [] => none
  | n + 1, c :: cs => do
    let d ← hexValue? c
    hexDigits? m (16 * value + d) n (m.skip cs)

/-- Reads the number of a character in `n` hexadecimal digits. -/
def numbered? (m : Mode) (n : Nat) (cs : List Char) : Option (Escape × List Char) := do
  let (value, rest) ← hexDigits? m 0 n (m.skip cs)
  if value.isValidChar then some (.literal (Char.ofNat value) (n == 2), rest) else none

/-- The first letters of the Unicode categories. -/
def isCategory (c : Char) : Bool := "CLMNPSZclmnpsz".toList.contains c

/-- The characters that stand for themselves behind a backslash. -/
def isEscapable (c : Char) : Bool := c.toNat < 0x80 && !c.isAlphanum && c != '<' && c != '>'

/-- Reads what stands behind a backslash. -/
def escape? (m : Mode) : List Char → Option (Escape × List Char)
  | [] => none
  | c :: cs =>
    match c with
    | 'x' => numbered? m 2 cs
    | 'u' => numbered? m 4 cs
    | 'U' => numbered? m 8 cs
    | 'p' | 'P' =>
      match m.skip cs with
      | letter :: rest => if isCategory letter then some (.category, m.skip rest) else none
      | [] => none
    | 'd' | 's' | 'w' => some (.shorthand false, cs)
    | 'D' | 'S' | 'W' => some (.shorthand true, cs)
    | 'a' => some (.literal '\x07' false, cs)
    | 'f' => some (.literal '\x0c' false, cs)
    | 't' => some (.literal '\t' false, cs)
    | 'n' => some (.literal '\n' false, cs)
    | 'r' => some (.literal '\r' false, cs)
    | 'v' => some (.literal '\x0b' false, cs)
    | 'A' | 'z' => some (.anchor, cs)
    | 'b' | 'B' | '<' | '>' => some (.wordBoundary, cs)
    | c => if isEscapable c then some (.literal c false, cs) else none

end PlaybookScan.Log.Pattern

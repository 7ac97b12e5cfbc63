import PlaybookScan.Shell.Lexer

/-!
# Patterns

A pattern matches whole texts: `*` any text, `?` any character, brackets one character of a set.
Characters that were quoted stand for themselves.
-/

set_option autoImplicit false

namespace PlaybookScan.Shell

/-- A character of a pattern; it can only have a special meaning if it is active. -/
structure Mark where
  char : Char
  active : Bool
  deriving DecidableEq

/-- A set of characters. -/
inductive CharSet where
  | range (low high : Char)
  | named (name : String)

def CharSet.contains : CharSet → Char → Bool
  | range low high, c => low ≤ c && c ≤ high
  | named "alpha", c => c.isAlpha
  | named "digit", c => c.isDigit
  | named "alnum", c => c.isAlphanum
  | named "upper", c => c.isUpper
  | named "lower", c => c.isLower
  | named "space", c => c == ' ' || ('\t' ≤ c && c ≤ '\r')
  | named "blank", c => c == ' ' || c == '\t'
  | named "punct", c => '!' ≤ c && c ≤ '~' && !c.isAlphanum
  | named "print", c => ' ' ≤ c && c ≤ '~'
  | named "graph", c => '!' ≤ c && c ≤ '~'
  | named "cntrl", c => c < ' ' || c == '\x7f'
  | named "xdigit", c => c.isDigit || ('a' ≤ c && c ≤ 'f') || ('A' ≤ c && c ≤ 'F')
  | named _, _ => false

inductive PatternItem where
  | anyText
  | anyChar
  | char (c : Char)
  | set (negated : Bool) (members : List CharSet)

abbrev Pattern := List PatternItem

namespace Pattern

/-- The members of a set and what follows its closing bracket, which cannot be the first member;
`fuel` is the number of characters. -/
def members (fuel : Nat) (first : Bool) (done : List CharSet) (ms : List Mark) :
    Option (List CharSet × List Mark) :=
  match fuel, ms with
  | 0, _ => none
  | _, [] => none
  | fuel + 1, ⟨low, active⟩ :: rest =>
    if low = ']' ∧ active ∧ ¬ first then some (done.reverse, rest)
    else match low, rest with
      | '[', ⟨':', _⟩ :: inner =>
        let name := inner.takeWhile (·.char ≠ ':')
        match inner.drop name.length with
        | _ :: ⟨']', _⟩ :: after =>
          members fuel false (.named (String.ofList (name.map Mark.char)) :: done) after
        | _ => members fuel false (.range low low :: done) rest
      | _, ⟨'-', true⟩ :: ⟨high, highActive⟩ :: after =>
        if high = ']' ∧ highActive then members fuel false (.range low low :: done) rest
        else members fuel false (.range low high :: done) after
      | _, _ => members fuel false (.range low low :: done) rest

/-- The pattern that marked characters form. A set is negated if it begins with one of `negators`;
`fuel` is the number of characters. -/
def ofMarks (negators : List Char) (fuel : Nat) (ms : List Mark) : Pattern :=
  match fuel, ms with
  | _, [] => []
  | 0, _ => []
  | fuel + 1, ⟨c, active⟩ :: rest =>
    if !active then .char c :: ofMarks negators fuel rest
    else match c with
      | '*' => .anyText :: ofMarks negators fuel rest
      | '?' => .anyChar :: ofMarks negators fuel rest
      | '[' =>
        let negated := (rest.head?.map fun m => negators.contains m.char).getD false
        match members fuel true [] (if negated then rest.tail else rest) with
        | some (sets, after) => .set negated sets :: ofMarks negators fuel after
        | none => .char '[' :: ofMarks negators fuel rest
      | '\\' => match rest with
        | ⟨c, _⟩ :: rest => .char c :: ofMarks negators fuel rest
        | [] => [.char '\\']
      | c => .char c :: ofMarks negators fuel rest

/-- The pattern of a text that was not quoted, or not. -/
def ofList (ms : List Mark) : Pattern := ofMarks ['!'] ms.length ms

/-- The pattern of a text, where a caret negates a set too. -/
def ofText (cs : List Char) : Pattern := ofMarks ['!', '^'] cs.length (cs.map (⟨·, true⟩))

/-- The whole text matches. -/
def isMatch : Pattern → List Char → Bool
  | [], cs => cs.isEmpty
  | .anyText :: ps, cs => (List.range (cs.length + 1)).any fun n => isMatch ps (cs.drop n)
  | .anyChar :: ps, _ :: cs => isMatch ps cs
  | .char p :: ps, c :: cs => p == c && isMatch ps cs
  | .set negated sets :: ps, c :: cs => (sets.any (·.contains c) != negated) && isMatch ps cs
  | _ :: _, [] => false

/-- Some character has a special meaning. -/
def isActive (ms : List Mark) : Bool :=
  ms.any fun m => m.active && (m.char == '*' || m.char == '?' || m.char == '[')

/-- The text behind the shortest or longest beginning that matches. -/
def dropStart (longest : Bool) (p : Pattern) (cs : List Char) : List Char :=
  let lengths := List.range (cs.length + 1)
  match (if longest then lengths.reverse else lengths).find? fun n => p.isMatch (cs.take n) with
  | some n => cs.drop n
  | none => cs

/-- The text before the shortest or longest end that matches. -/
def dropEnd (longest : Bool) (p : Pattern) (cs : List Char) : List Char :=
  let lengths := List.range (cs.length + 1)
  match (if longest then lengths else lengths.reverse).find? fun n => p.isMatch (cs.drop n) with
  | some n => cs.take n
  | none => cs

end Pattern

end PlaybookScan.Shell

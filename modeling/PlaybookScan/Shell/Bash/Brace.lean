import PlaybookScan.Shell.Bash.Lexer

/-!
# Alternatives in braces

A word with `{a,b}` stands for two words, one with `a` in its place and one with `b`. Two numbers or
letters with two dots between them stand for all from the one to the other.
-/

set_option autoImplicit false

namespace PlaybookScan.Shell.Bash.Brace

/-- A character of a word that is not quoted, or some other piece. -/
inductive Part where
  | char (c : Char)
  | piece (piece : Piece)

def parts (pieces : List Piece) : List Part :=
  pieces.flatMap fun
    | .text cs false => cs.map .char
    | piece => [.piece piece]

/-- Puts a parameter without braces in front of pieces. The characters of names that follow it then
belong to its name. -/
def withName : Piece → List Piece → List Piece
  | .param false name .whole .value [] ('$' :: c :: source) false, .text cs false :: more =>
    let longer := cs.takeWhile Lexer.isNameChar
    if Lexer.isNameStart c ∧ longer ≠ [] then
      .param false (name ++ String.ofList longer) .whole .value [] ('$' :: c :: source ++ longer)
        false :: .text (cs.drop longer.length) false :: more
    else .param false name .whole .value [] ('$' :: c :: source) false :: .text cs false :: more
  | p, more => p :: more

def pieces : List Part → List Piece
  | [] => []
  | .piece p :: ps => withName p (pieces ps)
  | .char c :: ps =>
    match pieces ps with
    | .text cs false :: more => .text (c :: cs) false :: more
    | more => .text [c] false :: more

/-- Number of parts before the brace that closes what stands in front; `level` braces are open, and
`chosen` says that there is a comma or two dots outside them. -/
def closing? (level : Int) (chosen : Bool) (n : Nat) : List Part → Option Nat
  | [] => none
  | .char '\x7d' :: ps =>
    if level = 0 ∧ chosen then some n else closing? (level - 1) chosen (n + 1) ps
  | .char '\x7b' :: ps => closing? (level + 1) chosen (n + 1) ps
  | .char ',' :: ps => closing? level (chosen || level == 0) (n + 1) ps
  | .char '.' :: .char '.' :: .char c :: ps =>
    closing? level (chosen || (level == 0 && c != '\x7d')) (n + 1) (.char '.' :: .char c :: ps)
  | _ :: ps => closing? level chosen (n + 1) ps

/-- Cuts parts at the commas outside of braces; `part` is in reverse. -/
def choices (level : Int) (part : List Part) : List Part → List (List Part)
  | [] => [part.reverse]
  | .char ',' :: ps =>
    if level = 0 then part.reverse :: choices level [] ps
    else choices level (.char ',' :: part) ps
  | .char '\x7b' :: ps => choices (level + 1) (.char '\x7b' :: part) ps
  | .char '\x7d' :: ps => choices (level - 1) (.char '\x7d' :: part) ps
  | p :: ps => choices level (p :: part) ps

/-- A whole number with an optional sign. -/
def integer? (cs : List Char) : Option Int :=
  let (negative, digits) := match cs with
    | '-' :: ds => (true, ds)
    | '+' :: ds => (false, ds)
    | ds => (false, ds)
  if digits = [] ∨ !digits.all Char.isDigit then none
  else
    let n : Int := Printf.number 10 digits
    some (if negative then -n else n)

/-- The numbers from one to another in steps; `count` bounds them. -/
def steps (step last : Int) : Nat → Int → List Int
  | 0, _ => []
  | count + 1, n =>
    if (0 ≤ step ∧ last < n) ∨ (step < 0 ∧ n < last) then []
    else n :: steps step last count (n + step)

/-- A number with zeros up to a width. -/
def padded (width : Nat) (n : Int) : List Char :=
  let digits := (toString n.natAbs).toList
  let sign := if n < 0 then ['-'] else []
  sign ++ List.replicate (width - digits.length - sign.length) '0' ++ digits

/-- The texts that a range stands for. -/
def range? (cs : List Char) : Option (List (List Char)) := do
  let (first, last, step) ← match (String.ofList cs).splitOn ".." with
    | [a, b] => some (a.toList, b.toList, some 1)
    | [a, b, c] => some (a.toList, b.toList, integer? c.toList)
    | _ => none
  let step ← step
  let size := if step = 0 then 1 else step.natAbs
  match integer? first, integer? last with
  | some a, some b =>
    let zeros (ds : List Char) : Bool := match ds with
      | '-' :: '0' :: _ :: _ | '0' :: _ :: _ => true
      | _ => false
    let width := if zeros first || zeros last then max first.length last.length else 0
    let count := (b - a).natAbs / size + 1
    return (steps (if a ≤ b then size else -size) b count a).map (padded width)
  | none, none =>
    match first, last with
    | [a], [b] =>
      if !a.isAlpha ∨ !b.isAlpha then none
      else
        let (a, b) : Int × Int := (a.toNat, b.toNat)
        let count := (b - a).natAbs / size + 1
        return (steps (if a ≤ b then size else -size) b count a).map fun n => [Char.ofNat n.toNat]
    | _, _ => none
  | _, _ => none

/-- The characters of parts, if there is nothing else. -/
def plain? (ps : List Part) : Option (List Char) :=
  ps.mapM fun
    | .char c => some c
    | .piece _ => none

/-- The words that parts stand for; `done` stands before them, in reverse, and `fuel` is their
number. -/
def words (fuel : Nat) (done : List Part) (ps : List Part) : List (List Part) :=
  match fuel, ps with
  | 0, ps => [done.reverse ++ ps]
  | _, [] => [done.reverse]
  | fuel + 1, .char '\x7b' :: ps =>
    let literal := words fuel (.char '\x7b' :: done) ps
    let isEmpty : Bool := match done, ps with
      | [], .char '\x7d' :: _ => true
      | _, _ => false
    if isEmpty then literal
    else match closing? 0 false 0 ps with
      | none => literal
      | some n =>
        let inside := ps.take n
        let after := ps.drop (n + 1)
        let chosen : Option (List (List Part)) := match choices 0 [] inside with
          | [only] =>
            ((plain? only).bind range?).map fun texts => texts.map fun cs =>
              if cs = ['\\'] then [.piece (.text [] true)] else cs.map Part.char
          | choices => some (choices.flatMap fun c => words fuel [] c)
        match chosen with
        | some chosen =>
          let behind := words fuel [] after
          chosen.flatMap fun c => behind.map fun b => done.reverse ++ c ++ b
        | none => words fuel (.char '\x7d' :: inside.reverse ++ .char '\x7b' :: done) after
  | fuel + 1, p :: ps => words fuel (p :: done) ps

/-- The words that the pieces of a word stand for. -/
def expand (ps : List Piece) : List (List Piece) :=
  let all := parts ps
  let opens : Bool := all.any fun
    | .char c => c == '\x7b'
    | .piece _ => false
  if opens then (words (all.length + 1) [] all).map pieces else [ps]

end PlaybookScan.Shell.Bash.Brace

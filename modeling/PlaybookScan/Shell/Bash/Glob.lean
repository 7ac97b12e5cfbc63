import PlaybookScan.Shell.Pattern

/-!
# Patterns with groups

The patterns of the large shell: those of the small one, with groups of alternatives. A letter in
front of a group says how often it may match: `?(a|b)` at most once, `*(a|b)` any number of times,
`+(a|b)` at least once, `@(a|b)` once, and `!(a|b)` matches what no alternative does.
-/

set_option autoImplicit false

namespace PlaybookScan.Shell.Bash

inductive Glob where
  | anyText
  | anyChar
  | char (c : Char)
  | set (negated : Bool) (members : List CharSet)
  | group (kind : Char) (alternatives : List (List Glob))

namespace Glob

/-- Cuts the text of a group into its alternatives, up to the parenthesis that closes it; `depth`
groups are open in it, and `done` and `part` are in reverse. -/
def alternatives (depth : Nat) (done : List (List Mark)) (part : List Mark) :
    List Mark → Option (List (List Mark) × List Mark)
  | [] => none
  | m :: ms =>
    if !m.active then alternatives depth done (m :: part) ms
    else if m.char = '(' then alternatives (depth + 1) done (m :: part) ms
    else if m.char = ')' then
      if depth = 0 then some ((part.reverse :: done).reverse, ms)
      else alternatives (depth - 1) done (m :: part) ms
    else if m.char = '|' ∧ depth = 0 then alternatives depth (part.reverse :: done) [] ms
    else alternatives depth done (m :: part) ms

/-- The pattern that marked characters form, which may have groups; `fuel` is their number. -/
def ofMarks (groups : Bool) (fuel : Nat) (ms : List Mark) : List Glob :=
  match fuel, ms with
  | _, [] | 0, _ => []
  | fuel + 1, ⟨c, active⟩ :: rest =>
    if !active then .char c :: ofMarks groups fuel rest
    else
      let group : Option (List (List Mark) × List Mark) := match rest with
        | ⟨'(', true⟩ :: inside =>
          if groups && "?*+@!".contains c then alternatives 0 [] [] inside else none
        | _ => none
      match group, c with
      | some (parts, after), c =>
        .group c (parts.map (ofMarks groups fuel)) :: ofMarks groups fuel after
      | none, '*' => .anyText :: ofMarks groups fuel rest
      | none, '?' => .anyChar :: ofMarks groups fuel rest
      | none, '[' =>
        let negated := (rest.head?.map fun m => m.char == '!' || m.char == '^').getD false
        match Pattern.members fuel true [] (if negated then rest.tail else rest) with
        | some (sets, after) => .set negated sets :: ofMarks groups fuel after
        | none => .char '[' :: ofMarks groups fuel rest
      | none, '\\' => match rest with
        | ⟨c, _⟩ :: rest => .char c :: ofMarks groups fuel rest
        | [] => [.char '\\']
      | none, c => .char c :: ofMarks groups fuel rest

mutual

/-- Number of parts of a pattern. -/
def size : Glob → Nat
  | .group _ alternatives => 1 + sizeAlternatives alternatives
  | _ => 1

def sizeAll : List Glob → Nat
  | [] => 0
  | g :: gs => size g + sizeAll gs

def sizeAlternatives : List (List Glob) → Nat
  | [] => 0
  | a :: as => sizeAll a + sizeAlternatives as

end

/-- The whole text matches; `fuel` bounds the depth of the search. -/
def isMatchWithin (fuel : Nat) (gs : List Glob) (cs : List Char) : Bool :=
  match fuel with
  | 0 => false
  | fuel + 1 =>
    match gs, cs with
    | [], cs => cs.isEmpty
    | [.anyText], _ => true
    | .anyText :: gs, cs =>
      (List.range (cs.length + 1)).any fun n => isMatchWithin fuel gs (cs.drop n)
    | .group kind alternatives :: gs, cs =>
      let lengths := List.range (cs.length + 1)
      let one (text : List Char) : Bool := alternatives.any fun a => isMatchWithin fuel a text
      match kind with
      | '@' => alternatives.any fun a => isMatchWithin fuel (a ++ gs) cs
      | '?' => isMatchWithin fuel gs cs || alternatives.any fun a => isMatchWithin fuel (a ++ gs) cs
      | '!' => lengths.any fun n => isMatchWithin fuel gs (cs.drop n) && !one (cs.take n)
      | kind =>
        let again := Glob.group '*' alternatives :: gs
        let more := lengths.tail.any fun n =>
          one (cs.take n) && isMatchWithin fuel again (cs.drop n)
        let none_ := (kind == '*' || one []) && isMatchWithin fuel gs cs
        none_ || more
    | .anyChar :: gs, _ :: cs => isMatchWithin fuel gs cs
    | .char p :: gs, c :: cs => p == c && isMatchWithin fuel gs cs
    | .set negated sets :: gs, c :: cs =>
      (sets.any (·.contains c) != negated) && isMatchWithin fuel gs cs
    | _ :: _, [] => false

/-- The whole text matches. -/
def isMatch (gs : List Glob) (cs : List Char) : Bool :=
  isMatchWithin ((cs.length + 2) * (sizeAll gs + 2)) gs cs

/-- Some character has a special meaning. -/
def isActive (groups : Bool) (ms : List Mark) : Bool :=
  ms.any fun m => m.active &&
    (m.char == '*' || m.char == '?' || m.char == '[' || (groups && m.char == '('))

/-- The length of the shortest or longest beginning that matches. -/
def beginning? (longest : Bool) (gs : List Glob) (cs : List Char) : Option Nat :=
  let lengths := List.range (cs.length + 1)
  (if longest then lengths.reverse else lengths).find? fun n => isMatch gs (cs.take n)

/-- The length of what stands before the shortest or longest end that matches. -/
def beforeEnd? (longest : Bool) (gs : List Glob) (cs : List Char) : Option Nat :=
  let lengths := List.range (cs.length + 1)
  (if longest then lengths else lengths.reverse).find? fun n => isMatch gs (cs.drop n)

/-- Replaces the longest texts that match, the first one or all; `fuel` is the length. -/
def replaced (gs : List Glob) (all : Bool) (new : List Char → List Char) (fuel : Nat)
    (cs : List Char) : List Char :=
  match fuel, cs with
  | _, [] | 0, _ => cs
  | fuel + 1, c :: rest =>
    match beginning? true gs (c :: rest) with
    | none => c :: replaced gs all new fuel rest
    | some 0 =>
      let behind := if all then replaced gs all new fuel rest else rest
      new [] ++ c :: behind
    | some n =>
      let behind := (c :: rest).drop n
      new ((c :: rest).take n) ++ if all then replaced gs all new fuel behind else behind

end Glob

end PlaybookScan.Shell.Bash

import PlaybookScan.Shell.Regex.Posix

/-!
# The rich notation of regular expressions

A notation in which the first way to match counts. It has repetitions that take as little or as much
as they can, looks at what stands around a place, and groups with names.
-/

set_option autoImplicit false

namespace PlaybookScan.Shell.Regex.Rich

/-- An expression under way. -/
structure Reading where
  folded : Bool
  /-- The point also stands for a newline. -/
  dotAll : Bool
  multiline : Bool
  /-- Blanks and comments are left out. -/
  spaced : Bool
  groups : Nat
  names : List (String × Nat)
  /-- The largest number of a group that is referred to. -/
  largest : Nat
  rest : List Char

abbrev Reader (α : Type) := Reading → Except String (α × Reading)

def spaceSet : List CharSet := [.named "space"]

def digitSet : List CharSet := [.named "digit"]

def blankSet : List CharSet := [.named "blank"]

def verticalSet : List CharSet := [.range '\n' '\r']

/-- The sets that letters behind backslashes stand for; the upper letter is for all else. -/
def set? (c : Char) : Option (Bool × List CharSet) :=
  match c with
  | 'd' => some (false, digitSet)
  | 'D' => some (true, digitSet)
  | 'w' => some (false, wordSet)
  | 'W' => some (true, wordSet)
  | 's' => some (false, spaceSet)
  | 'S' => some (true, spaceSet)
  | 'h' => some (false, blankSet)
  | 'H' => some (true, blankSet)
  | 'v' => some (false, verticalSet)
  | 'V' => some (true, verticalSet)
  | 'N' => some (true, [.range '\n' '\n'])
  | _ => none

/-- The sets of properties. -/
def property? (name : String) : Option (List CharSet) :=
  match name with
  | "L" | "Letter" => some [.named "alpha"]
  | "Lu" => some [.named "upper"]
  | "Ll" => some [.named "lower"]
  | "N" | "Nd" => some digitSet
  | "P" => some [.named "punct"]
  | "Z" | "Zs" => some [.range ' ' ' ']
  | "Xan" => some [.named "alnum"]
  | "Xwd" => some wordSet
  | "Xsp" | "Xps" => some spaceSet
  | _ => none

def unknownEscape : String := "unrecognized character follows \\"

/-- The character that an escape stands for, and what follows. -/
def escaped (cs : List Char) : Except String (Char × List Char) :=
  let number (base most : Nat) (cs : List Char) : Char × List Char :=
    let ds := (cs.take most).takeWhile fun c => Arithmetic.digitValue c < base
    (Char.ofNat (Printf.number base ds % 256), cs.drop ds.length)
  let braced (base : Nat) (cs : List Char) : Char × List Char :=
    let ds := cs.takeWhile (· != '\x7d')
    (Char.ofNat (Printf.number base ds % 256), cs.drop (ds.length + 1))
  match cs with
  | [] => .error "\\ at end of pattern"
  | 'x' :: '\x7b' :: rest => .ok (braced 16 rest)
  | 'o' :: '\x7b' :: rest => .ok (braced 8 rest)
  | 'x' :: rest => .ok (number 16 2 rest)
  | 'c' :: c :: rest => .ok (Char.ofNat (c.toUpper.toNat ^^^ 64), rest)
  | '0' :: rest => .ok (number 8 2 rest)
  | c :: rest =>
    match c with
    | 'a' => .ok ('\x07', rest)
    | 'e' => .ok ('\x1b', rest)
    | 'f' => .ok ('\x0c', rest)
    | 'n' => .ok ('\n', rest)
    | 'r' => .ok ('\r', rest)
    | 't' => .ok ('\t', rest)
    | c =>
      if c.isDigit then .ok (number 8 3 cs)
      else if "FLlUu".toList.contains c then
        .error "PCRE2 does not support \\F, \\L, \\l, \\N\x7bname\x7d, \\U, or \\u"
      else if c.isAlpha then .error unknownEscape
      else .ok (c, rest)

/-- The sets that stand for the characters of `sets` or, if `negated`, for all others. -/
def setsOf (negated : Bool) (sets : List CharSet) : List CharSet :=
  if !negated then sets
  else
    let holds (n : Nat) : Bool := sets.any (·.contains (Char.ofNat n))
    ((List.range 256).filter (!holds ·)).map fun n => .range (Char.ofNat n) (Char.ofNat n)

/-- One member of a set: a character, or sets. -/
def member (cs : List Char) : Except String ((Char ⊕ List CharSet) × List Char) :=
  match cs with
  | [] => .error "missing terminating ] for character class"
  | '[' :: ':' :: rest =>
    match Rules.between ':' rest with
    | some (name, after) =>
      let negated : Bool := name.head? == some '^'
      let title := String.ofList (if negated then name.tail else name)
      if title = "word" then .ok (.inr (setsOf negated wordSet), after)
      else if Rules.classNames.contains title then
        .ok (.inr (setsOf negated [.named title]), after)
      else .error "unknown POSIX class name"
    | none => .ok (.inl '[', ':' :: rest)
  | '\\' :: 'b' :: rest => .ok (.inl '\x08', rest)
  | '\\' :: c :: rest =>
    match set? c with
    | some (negated, sets) => .ok (.inr (setsOf negated sets), rest)
    | none => (escaped (c :: rest)).map fun (c, rest) => (.inl c, rest)
  | c :: rest => .ok (.inl c, rest)

/-- The members of a set up to its closing bracket; `fuel` bounds their number. -/
def members : Nat → Bool → List Char → Except String (List CharSet × List Char)
  | 0, _, _ => .error "missing terminating ] for character class"
  | fuel + 1, first, cs => do
    match first, cs with
    | false, ']' :: rest => return ([], rest)
    | _, cs =>
      let (low, rest) ← member cs
      let (sets, rest) ← match low, rest with
        | .inl a, '-' :: c :: rest =>
          if c = ']' then pure ([CharSet.range a a], '-' :: c :: rest)
          else match ← member (c :: rest) with
            | (.inl b, rest) =>
              if b < a then throw "range out of order in character class"
              pure ([.range a b], rest)
            | (.inr _, _) => throw "invalid range in character class"
        | .inr _, '-' :: c :: rest =>
          if c = ']' then pure (ofMember low, '-' :: c :: rest)
          else throw "invalid range in character class"
        | low, rest => pure (ofMember low, rest)
      let (more, rest) ← members fuel false rest
      return (sets ++ more, rest)
where
  ofMember : Char ⊕ List CharSet → List CharSet
    | .inl c => [.range c c]
    | .inr sets => sets

/-- The number of characters that an expression matches, if it is always the same. -/
def width? : Regex → Option Nat
  | .one _ => some 1
  | .seq a b => do return (← width? a) + (← width? b)
  | .either a b => do
    let n ← width? a
    if (← width? b) = n then some n else none
  | .many _ body least most => do
    let n ← width? body
    if most = some least then some (n * least) else none
  | .group _ body | .atomic body => width? body
  | .back .. => none
  | _ => some 0

/-- Each of the alternatives matches a number of characters that is always the same. -/
def isFixed : Regex → Bool
  | .either a b => isFixed a && isFixed b
  | r => (width? r).isSome

/-- The numbers in the braces of a repetition, and what follows; `none` if they are not one. -/
def bounds? (cs : List Char) : Option (Nat × Option Nat × List Char) :=
  let low := cs.takeWhile Char.isDigit
  let rest := cs.drop low.length
  let n := Printf.number 10 low
  match low, rest with
  | [], _ => none
  | _, '\x7d' :: rest => some (n, some n, rest)
  | _, ',' :: rest =>
    let high := rest.takeWhile Char.isDigit
    match rest.drop high.length with
    | '\x7d' :: rest => some (n, if high = [] then none else some (Printf.number 10 high), rest)
    | _ => none
  | _, _ => none

/-- The repetition behind a piece, if there is one. -/
def repetition (body : Regex) (cs : List Char) : Except String (Regex × List Char) :=
  let many (least : Nat) (most : Option Nat) (rest : List Char) :
      Except String (Regex × List Char) :=
    match rest with
    | '?' :: rest => .ok (.many true body least most, rest)
    | '+' :: rest => .ok (.atomic (.many false body least most), rest)
    | rest => .ok (.many false body least most, rest)
  match cs with
  | '*' :: rest => many 0 none rest
  | '+' :: rest => many 1 none rest
  | '?' :: rest => many 0 (some 1) rest
  | '\x7b' :: rest => match bounds? rest with
    | some (least, most, rest) =>
      if most.any (· < least) then .error "numbers out of order in \x7b\x7d quantifier"
      else many least most rest
    | none => .ok (body, cs)
  | cs => .ok (body, cs)

/-- Switches the options that letters name. -/
def switch (s : Reading) (on : Bool) : List Char → Option Reading
  | [] => some s
  | '-' :: cs => switch s false cs
  | 'i' :: cs => switch { s with folded := on } on cs
  | 's' :: cs => switch { s with dotAll := on } on cs
  | 'm' :: cs => switch { s with multiline := on } on cs
  | 'x' :: cs => switch { s with spaced := on } on cs
  | _ => none

def unclosed : String := "missing closing parenthesis"

def missingGroup : String := "reference to non-existent subpattern"

/-- Refers to a group by its number. -/
def refer (s : Reading) (n : Nat) (rest : List Char) : Except String (Regex × Reading) :=
  .ok (.back s.folded n, { s with largest := max s.largest n, rest })

/-- Refers to a group by the name up to a mark. -/
def referByName (s : Reading) (mark : Char) (cs : List Char) : Except String (Regex × Reading) :=
  let name := cs.takeWhile (· != mark)
  match s.names.lookup (String.ofList name) with
  | some n => refer s n (cs.drop (name.length + 1))
  | none => .error missingGroup

mutual

/-- Alternatives up to a closing parenthesis or the end. -/
def branches (fuel : Nat) : Reader Regex := fun s => do
  match fuel with
  | 0 => return (.empty, s)
  | fuel + 1 =>
    let (first, s) ← pieces fuel s
    match s.rest with
    | '|' :: rest =>
      let (second, s) ← branches fuel { s with rest }
      return (.either first second, s)
    | _ => return (first, s)

def pieces (fuel : Nat) : Reader Regex := fun s => do
  match fuel with
  | 0 => return (.empty, s)
  | fuel + 1 =>
    match s.rest with
    | [] | '|' :: _ | ')' :: _ => return (.empty, s)
    | c :: rest =>
      if s.spaced ∧ (Arithmetic.isSpace c ∨ c = '#') then
        let rest := if c = '#' then (rest.dropWhile (· != '\n')).drop 1 else rest
        pieces fuel { s with rest }
      else
        let (first, s) ← atom fuel s
        let (body, rest) ← match first with
          | .empty => pure (first, s.rest)
          | first => repetition first s.rest
        let (others, s) ← pieces fuel { s with rest }
        return (.seq body others, s)

def atom (fuel : Nat) : Reader Regex := fun s => do
  match fuel with
  | 0 => return (.empty, s)
  | fuel + 1 =>
    -- the options that are switched inside hold up to the closing parenthesis
    let close (s : Reading) (wrap : Regex → Regex) (rest : List Char) :
        Except String (Regex × Reading) := do
      let (body, t) ← branches fuel { s with rest }
      match t.rest with
      | ')' :: rest =>
        return (wrap body, { t with
          rest
          folded := s.folded
          dotAll := s.dotAll
          multiline := s.multiline
          spaced := s.spaced })
      | _ => throw unclosed
    let capture (s : Reading) (rest : List Char) : Except String (Regex × Reading) :=
      close { s with groups := s.groups + 1 } (.group (s.groups + 1)) rest
    let named (stop : Char) (cs : List Char) : Except String (Regex × Reading) :=
      let name := cs.takeWhile (· != stop)
      let s := { s with names := (String.ofList name, s.groups + 1) :: s.names }
      capture s (cs.drop (name.length + 1))
    let looked (ahead negated : Bool) (rest : List Char) : Except String (Regex × Reading) := do
      let (found, t) ← close s id rest
      if !ahead && !isFixed found then throw "lookbehind assertion is not fixed length"
      return (.look ahead negated found, t)
    let literal (c : Char) (rest : List Char) : Except String (Regex × Reading) :=
      .ok (Regex.exactly s.folded c, { s with rest })
    let anchor (a : Anchor) (rest : List Char) : Except String (Regex × Reading) :=
      .ok (.anchor a, { s with rest })
    match s.rest with
    | [] => return (.empty, s)
    | '(' :: '?' :: rest =>
      match rest with
      | [] => throw unclosed
      | ':' :: rest => close s id rest
      | '|' :: rest => close s id rest
      | '>' :: rest => close s .atomic rest
      | '=' :: rest => looked true false rest
      | '!' :: rest => looked true true rest
      | '<' :: '=' :: rest => looked false false rest
      | '<' :: '!' :: rest => looked false true rest
      | '#' :: rest => return (.empty, { s with rest := (rest.dropWhile (· != ')')).drop 1 })
      | '<' :: rest | 'P' :: '<' :: rest => named '>' rest
      | '\x27' :: rest => named '\x27' rest
      | 'P' :: '=' :: rest => referByName s ')' rest
      | rest =>
        let letters := rest.takeWhile fun c => c.isAlpha || c == '-'
        match switch s true letters, rest.drop letters.length with
        | some t, ')' :: rest => return (.empty, { t with rest })
        | some t, ':' :: rest => do
          let (body, u) ← close t id rest
          return (body, { u with
            folded := s.folded
            dotAll := s.dotAll
            multiline := s.multiline
            spaced := s.spaced })
        | _, _ => throw "unrecognized character after (? or (?-"
    | '(' :: rest => capture s rest
    | '[' :: rest =>
      let negated : Bool := rest.head? == some '^'
      let (sets, rest) ← members (rest.length + 1) true (if negated then rest.tail else rest)
      return (.one ⟨negated, s.folded, sets⟩, { s with rest })
    | '.' :: rest =>
      return (.one ⟨true, false, if s.dotAll then [] else [.range '\n' '\n']⟩, { s with rest })
    | '^' :: rest => anchor (if s.multiline then .lineStart else .textStart) rest
    | '$' :: rest => anchor (if s.multiline then .lineEnd else .textEndLine) rest
    | '\\' :: 'Q' :: rest =>
      let rec split : List Char → List Char × List Char
        | '\\' :: 'E' :: rest => ([], rest)
        | c :: rest => ((split rest).1.cons c, (split rest).2)
        | [] => ([], [])
      let (text, rest) := split rest
      return (ofText s.folded text, { s with rest })
    | '\\' :: 'E' :: rest => return (.empty, { s with rest })
    | '\\' :: 'K' :: rest => return (.keep, { s with rest })
    | '\\' :: 'b' :: rest => anchor .wordEdge rest
    | '\\' :: 'B' :: rest => anchor .noWordEdge rest
    | '\\' :: 'A' :: rest => anchor .textStart rest
    | '\\' :: 'z' :: rest => anchor .textEnd rest
    | '\\' :: 'Z' :: rest => anchor .textEndLine rest
    | '\\' :: 'R' :: rest => return (ofSets false verticalSet, { s with rest })
    | '\\' :: 'g' :: '\x7b' :: rest =>
      let name := rest.takeWhile (· != '\x7d')
      let after := rest.drop (name.length + 1)
      match name with
      | '-' :: ds => refer s (s.groups + 1 - Printf.number 10 ds) after
      | name =>
        if name.all Char.isDigit then refer s (Printf.number 10 name) after
        else referByName s '\x7d' rest
    | '\\' :: 'g' :: rest =>
      let ds := rest.takeWhile Char.isDigit
      refer s (Printf.number 10 ds) (rest.drop ds.length)
    | '\\' :: 'k' :: '<' :: rest => referByName s '>' rest
    | '\\' :: 'k' :: '\x7b' :: rest => referByName s '\x7d' rest
    | '\\' :: 'k' :: '\x27' :: rest => referByName s '\x27' rest
    | '\\' :: 'p' :: '\x7b' :: rest | '\\' :: 'P' :: '\x7b' :: rest =>
      let name := rest.takeWhile (· != '\x7d')
      let negated : Bool := (s.rest.drop 1).head? == some 'P'
      match property? (String.ofList name) with
      | some sets =>
        return (.one ⟨negated, s.folded, sets⟩, { s with rest := rest.drop (name.length + 1) })
      | none => throw "unknown property after \\P or \\p"
    | '\\' :: c :: rest =>
      if '1' ≤ c ∧ c ≤ '9' ∧
          (!(rest.head?.map Char.isDigit).getD false ∨ c = '8' ∨ c = '9') then
        let ds := (c :: rest).takeWhile Char.isDigit
        refer s (Printf.number 10 ds) ((c :: rest).drop ds.length)
      else match set? c with
        | some (negated, sets) => return (.one ⟨negated, s.folded, sets⟩, { s with rest })
        | none =>
          let (c, rest) ← escaped (c :: rest)
          literal c rest
    | ['\\'] => throw "\\ at end of pattern"
    | '\x7b' :: rest =>
      if (bounds? rest).isSome then throw "quantifier does not follow a repeatable item"
      literal '\x7b' rest
    | c :: rest =>
      if "*+?".toList.contains c then throw "quantifier does not follow a repeatable item"
      literal c rest

end

/-- Reads an expression, of whose matches the first counts. -/
def finder (folded : Bool) (text : List Char) : Except String Finder := do
  let start : Reading := ⟨folded, false, false, false, 0, [], 0, text⟩
  let (regex, s) ← branches (4 * text.length + 4) start
  match s.rest with
  | [] =>
    if s.groups < s.largest then throw missingGroup
    return ⟨regex, false⟩
  | _ => throw "unmatched closing parenthesis"

end PlaybookScan.Shell.Regex.Rich

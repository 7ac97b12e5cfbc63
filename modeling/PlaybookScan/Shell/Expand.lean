import PlaybookScan.Shell.Arithmetic
import PlaybookScan.Shell.Parser
import PlaybookScan.Shell.Pattern
import PlaybookScan.Shell.State

/-!
# Expansion of words

The pieces of a word give atoms: characters, of which only some may split the word or stand for
others, and marks. Atoms are then cut into fields, and fields that are patterns become the paths
that match. How the output of commands is found is a parameter.
-/

set_option autoImplicit false

namespace PlaybookScan.Shell

inductive Atom where
  /-- A character; an active one may be part of a pattern, a splitting one may end a field. -/
  | char (c : Char) (active splits : Bool)
  /-- A field ends here. -/
  | cut
  /-- There is a field here, even an empty one. -/
  | hold
  /-- There is no field here unless something else makes one. -/
  | vanish

/-- Why there is no expansion of a word. -/
inductive Fault where
  | told (message : String)
  /-- The shell gets a signal instead. -/
  | killed (signal : Nat)

/-- Expansions change the state. -/
abbrev Expansion (α : Type) := ExceptT Fault (StateM State) α

/-- What a change of the state comes to, which may be refused with a message. -/
def Expansion.lift {α : Type} (found : Except String α) : Expansion α :=
  match found with
  | .ok a => pure a
  | .error message => throw (.told message)

/-- Runs commands and answers their output. -/
abbrev Capture := List Char → State → List Char × State

namespace Expand

def chars (active splits : Bool) (s : String) : List Atom :=
  s.toList.map fun c => .char c active splits

/-- The text of atoms. -/
def text (atoms : List Atom) : String :=
  String.ofList (atoms.filterMap fun
    | .char c _ _ => some c
    | .cut => some ' '
    | .hold | .vanish => none)

def marks (atoms : List Atom) : List Mark :=
  atoms.filterMap fun
    | .char c active _ => some ⟨c, active⟩
    | .cut => some ⟨' ', false⟩
    | .hold | .vanish => none

/-- The value of a parameter, if it has one. -/
def parameter? (s : State) (name : String) : Option String :=
  match name with
  | "#" => some (toString s.args.length)
  | "?" => some (toString s.status)
  | "$" => some (toString s.pid)
  | "!" => s.background.map fun pid => toString pid
  | "-" => some (String.ofList s.activeLetters)
  | "@" | "*" => if s.args = [] then none else some (" ".intercalate s.args)
  | name =>
    if name.toList.all Char.isDigit then match name.toNat?.getD 0 with
      | 0 => some s.name
      | n + 1 => s.args[n]?
    else s.valueOf? name

/-- The characters that end fields. -/
def separators (s : State) : List Char := ((s.valueOf? "IFS").getD " \t\n").toList

/-- A value in its place. -/
def valueAtoms (quoted : Bool) (s : String) : List Atom :=
  if quoted then .hold :: chars false false s else chars true true s

/-- All arguments in their place. -/
def allAtoms (name : String) (quoted : Bool) (s : State) : List Atom :=
  if quoted && name == "*" then
    let between := match separators s with
      | c :: _ => if s.valueOf? "IFS" = some "" then "" else String.singleton c
      | [] => ""
    .hold :: chars false false (between.intercalate s.args)
  else if s.args = [] then [.vanish]
  else (s.args.map (valueAtoms quoted)).intersperse [.cut] |>.flatten

/-- The value of a name in arithmetic. -/
def number (s : State) (name : String) : Except Arithmetic.Fault Int :=
  match s.valueOf? name with
  | none | some "" => .ok 0
  | some v => match Arithmetic.ofText? v with
    | some n => .ok n
    | none => .error (.illegal v)

/-- Evaluates the text of an arithmetic expansion. -/
def arithmetic (source : String) : Expansion Int := do
  let s ← get
  match Arithmetic.parse source.toList >>= Arithmetic.eval (number s) [] with
  | .ok (n, assigned) =>
    set (← Expansion.lift (assigned.reverse.foldlM (fun s (x, m) => s.assign? x (toString m)) s))
    return n
  | .error .overflow => throw (.killed 8)
  | .error (.illegal text) => throw (.told ("Illegal number: " ++ text))
  | .error fault =>
    throw (.told ("arithmetic expression: " ++ fault.message ++ ": \"" ++ source ++ "\""))

/-- The home directories of the system's users. -/
def homes : List (String × String) :=
  [("root", "/root"), ("daemon", "/usr/sbin"), ("bin", "/bin"), ("sys", "/dev"), ("sync", "/bin"),
    ("games", "/usr/games"), ("man", "/var/cache/man"), ("lp", "/var/spool/lpd"),
    ("mail", "/var/mail"), ("news", "/var/spool/news"), ("uucp", "/var/spool/uucp"),
    ("proxy", "/bin"), ("www-data", "/var/www"), ("backup", "/var/backups"),
    ("list", "/var/list"), ("irc", "/run/ircd"), ("_apt", "/nonexistent"),
    ("nobody", "/nonexistent")]

/-- The home directory of a user, or of the one without a name. -/
def home? (s : State) (user : String) : Option String :=
  if user = "" then s.valueOf? "HOME" else homes.lookup user

/-- Puts a home directory into the place of a tilde that the text starts with. The name of the user
goes up to a character of `stops`; `last` says that nothing follows the text. -/
def homeText (s : State) (stops : List Char) (last : Bool) (cs : List Char) : List Piece :=
  match cs with
  | '~' :: rest =>
    let user := rest.takeWhile (!stops.contains ·)
    let after := rest.drop user.length
    match if after = [] ∧ !last then none else home? s (String.ofList user) with
    | some dir => [.text dir.toList true, .text after false]
    | none => [.text cs false]
  | cs => [.text cs false]

/-- Puts home directories into the places of tildes in the value of an assignment: at its start and
behind colons. -/
def homesBehindColons (s : State) (atStart : Bool) : Word → Word
  | [] => []
  | .text cs false :: w =>
    let parts := cs.splitOn ':'
    let place := fun ((i, part) : Nat × List Char) =>
      let colon : List Piece := if i = 0 then [] else [.text [':'] false]
      colon ++ if i = 0 ∧ !atStart then [.text part false]
        else homeText s ['/'] (i + 1 != parts.length || w.isEmpty) part
    ((List.range parts.length).zip parts).flatMap place ++ homesBehindColons s false w
  | p :: w => p :: homesBehindColons s false w

/-- `cs` without the newlines at its end. -/
def dropNewlines (cs : List Char) : List Char :=
  (cs.reverse.dropWhile (· == '\n')).reverse

/-- The atoms of a text, which may split if it is not quoted. -/
def textAtoms (splits : Bool) (cs : List Char) (quoted : Bool) : List Atom :=
  if quoted then .hold :: cs.map (.char · false false) else cs.map (.char · true splits)

mutual

/-- The atoms of a piece. Plain text behind a parameter's operator may split. -/
def piece (capture : Capture) (splits : Bool) : Piece → Expansion (List Atom)
  | .text cs quoted => return textAtoms splits cs quoted
  | .output source line quoted => do
    let s ← get
    let (out, t) := capture source { s with line }
    set { t with line := s.line, status := s.status }
    return valueAtoms quoted (String.ofList ((dropNewlines out).filter (· != '\x00')))
  | .arithmetic body quoted => do
    let source := text (← pieces capture false false body)
    return valueAtoms quoted (toString (← arithmetic source))
  | .param name op arg quoted => do
    let s ← get
    let value := parameter? s name
    let missing (colon : Bool) : Bool := value.isNone || (colon && value == some "")
    let plain : List Atom :=
      if name == "@" || name == "*" then allAtoms name quoted s
      else valueAtoms quoted (value.getD "")
    match op with
    | .invalid => throw (.told "Bad substitution")
    | .value =>
      if value.isNone && s.options.contains 'u' && name != "@" && name != "*" then
        throw (.told (name ++ ": parameter not set"))
      return plain
    | .length => return valueAtoms quoted (toString (value.getD "").length)
    | .default colon =>
      if missing colon then pieces capture (!quoted) (!quoted) arg
      else return plain
    | .alternative colon =>
      if missing colon then return if quoted then [.hold] else []
      pieces capture (!quoted) (!quoted) arg
    | .assign colon =>
      if missing colon then
        let new := text (← pieces capture (!quoted) (!quoted) arg)
        set (← Expansion.lift ((← get).assign? name new))
        return valueAtoms quoted new
      else return plain
    | .require colon =>
      if missing colon then
        let message := text (← pieces capture false (!quoted) arg)
        let usual := if colon then "parameter not set or null" else "parameter not set"
        throw (.told (name ++ ": " ++ if message = "" then usual else message))
      return plain
    | .dropStart longest =>
      let pattern := Pattern.ofList (marks (← pieces capture false (!quoted) arg))
      return valueAtoms quoted
        (String.ofList (Pattern.dropStart longest pattern (value.getD "").toList))
    | .dropEnd longest =>
      let pattern := Pattern.ofList (marks (← pieces capture false (!quoted) arg))
      return valueAtoms quoted
        (String.ofList (Pattern.dropEnd longest pattern (value.getD "").toList))

/-- The atoms of pieces. If `home`, a tilde at the start is the home directory. -/
def pieces (capture : Capture) (splits home : Bool) : List Piece → Expansion (List Atom)
  | [] => return []
  | p :: ps => do
    let first ← match p with
      | .text cs false =>
        if home then
          let found := homeText (← get) ['/'] ps.isEmpty cs
          pure (found.flatMap fun
            | .text cs quoted => textAtoms splits cs quoted
            | _ => [])
        else pure (textAtoms splits cs false)
      | p => piece capture splits p
    return first ++ (← pieces capture splits false ps)

end

/-- A field under way, its characters in reverse. -/
structure Open where
  marks : List Mark
  held : Bool
  vanishing : Bool
  /-- A blank ended the field before it, and nothing has followed. -/
  afterBlank : Bool

def Open.start (afterBlank : Bool) : Open := ⟨[], false, false, afterBlank⟩

def Open.isField (o : Open) : Bool := !o.marks.isEmpty || (o.held && !o.vanishing)

/-- Cuts atoms into fields; `done` holds the finished ones in reverse. -/
def fields (separators : List Char) (o : Open) (done : List (List Mark)) :
    List Atom → List (List Mark)
  | [] => (if o.isField then o.marks.reverse :: done else done).reverse
  | .cut :: atoms =>
    fields separators (.start false) (if o.isField then o.marks.reverse :: done else done) atoms
  | .hold :: atoms => fields separators { o with held := true, afterBlank := false } done atoms
  | .vanish :: atoms => fields separators { o with vanishing := true } done atoms
  | .char c active splits :: atoms =>
    if splits && separators.contains c then
      if c == ' ' || c == '\t' || c == '\n' then
        if o.isField then fields separators (.start true) (o.marks.reverse :: done) atoms
        else fields separators o done atoms
      else if o.afterBlank && !o.isField then fields separators (.start false) done atoms
      else fields separators (.start false) (o.marks.reverse :: done) atoms
    else
      let o := { o with marks := ⟨c, active⟩ :: o.marks, afterBlank := false }
      fields separators o done atoms

def unmark (ms : List Mark) : String := String.ofList (ms.map Mark.char)

/-- The order of the bytes of names. -/
def before (a b : String) : Bool := a.toList ≤ b.toList

/-- The paths that match, below the directory `dir`; the text `done` leads there. -/
def matching (s : State) (dir : Path) (done : String) : List (List Mark) → List String
  | [] => [done]
  | segment :: segments =>
    let lead := fun (name : String) => if segments = [] then done ++ name else done ++ name ++ "/"
    if !Pattern.isActive segment then
      let name := unmark segment
      let next := dir.join (State.path name)
      if segments = [] then
        if name = "" then [done]
        else match s.disk.locate false s.cwd next with
          | .ok (_, some _) => [lead name]
          | _ => []
      else matching s (if name = "" then dir else next) (lead name) segments
    else
      let names : List String := match s.disk.node s.cwd dir with
        | .ok (.directory entries) =>
          "." :: ".." :: entries.map fun (name, _) => Octets.ofText name
        | _ => []
      let pattern := Pattern.ofList segment
      let hidden := (segment.head?.map Mark.char) = some '.'
      let found := names.filter fun name =>
        (hidden || name.toList.head? != some '.') && pattern.isMatch name.toList
      (found.mergeSort before).flatMap fun name =>
        let next := dir.join (State.path name)
        if segments ≠ [] ∧ ¬ s.disk.isDirectory s.cwd next then []
        else matching s next (lead name) segments

/-- The paths that a field stands for, or its own text if there are none. -/
def paths (s : State) (field : List Mark) : List String :=
  if !Pattern.isActive field || s.options.contains 'f' then [unmark field]
  else
    let (dir, done, segments) := match field.splitOnP (·.char == '/') with
      | [] :: segments => (⟨"/"⟩, "/", segments)
      | segments => ((⟨"."⟩ : Path), "", segments)
    match matching s dir done segments with
    | [] => [unmark field]
    | found => found

/-- The fields of a word. -/
def word (capture : Capture) (w : Word) : Expansion (List String) := do
  let atoms ← pieces capture false true w
  let s ← get
  return (fields (separators s) (.start false) [] atoms).flatMap (paths s)

/-- The text of a word where it is not split. -/
def whole (capture : Capture) (w : Word) : Expansion String := do
  return text (← pieces capture false true w)

/-- The text of the value of an assignment. -/
def value (capture : Capture) (w : Word) : Expansion String := do
  return text (← pieces capture false false (homesBehindColons (← get) true w))

/-- The fields of words behind the fields `done`; where `declares` holds of those, an assignment is
not split. -/
def wordsOnto (capture : Capture) (declares : List String → Bool) (done : List String) :
    List Word → Expansion (List String)
  | [] => return done
  | w :: ws => do
    let fields ← match if declares done then Parser.assignment? w else none with
      | some (name, w) => pure [name ++ "=" ++ (← value capture w)]
      | none => word capture w
    wordsOnto capture declares (done ++ fields) ws

/-- The fields of words. -/
def words (capture : Capture) (ws : List Word) : Expansion (List String) :=
  wordsOnto capture (fun _ => false) [] ws

/-- The pattern of a word. -/
def pattern (capture : Capture) (w : Word) : Expansion Pattern := do
  return Pattern.ofList (marks (← pieces capture false true w))

end Expand

end PlaybookScan.Shell

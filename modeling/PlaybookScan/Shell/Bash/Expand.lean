import PlaybookScan.Shell.Bash.Arithmetic
import PlaybookScan.Shell.Bash.Brace
import PlaybookScan.Shell.Bash.Glob
import PlaybookScan.Shell.Expand

/-!
# Expansion of words in the large shell

A word is first cut into the alternatives in its braces. The pieces of each give atoms, as in the
small shell; atoms are cut into fields, and fields that are patterns become the paths that match.
How commands are run is a parameter.
-/

set_option autoImplicit false

namespace PlaybookScan.Shell.Bash

/-- How an expansion runs commands. -/
structure Runner where
  /-- The output of a command that begins in this line of the script. -/
  output : Nat → Command → Act (List Char)
  /-- The output of the commands of a text. -/
  backquoted : List Char → Act (List Char)
  /-- The path of a pipe that a command writes into, or reads if it is `written`. -/
  channel : Bool → Nat → Command → Act String

/-- What a parameter gives. -/
inductive Found where
  | missing
  | text (text : String)
  /-- Several texts; with a `star`, they are one where they are quoted. -/
  | list (items : List String) (star : Bool)

namespace Found

def map (f : List Char → List Char) : Found → Found
  | missing => missing
  | text s => text (String.ofList (f s.toList))
  | list items star => list (items.map fun s => String.ofList (f s.toList)) star

/-- There is no text; with `colon`, an empty one counts as none. -/
def isMissing (colon : Bool) : Found → Bool
  | missing => true
  | text s => colon && s == ""
  | list items _ => items.isEmpty || (colon && items == [""])

end Found

namespace Expand

/-- The characters that end fields. -/
def separators (s : Session) : List Char := ((s.text? "IFS").getD " \t\n").toList

/-- What stands between texts that become one. -/
def joint (s : Session) : String :=
  match s.text? "IFS" with
  | none => " "
  | some ifs => String.ofList (ifs.toList.take 1)

/-- The value of a special parameter or an argument, if the name is that of one. -/
def special? (s : Session) (name : String) : Option (Option String) :=
  match name with
  | "#" => some (some (toString s.args.length))
  | "?" => some (some (toString s.status))
  | "$" => some (some (toString s.pid))
  | "!" => some (s.background.map fun pid => toString pid)
  | "-" => some (some (String.ofList s.activeLetters))
  | name =>
    if name ≠ "" ∧ name.toList.all Char.isDigit then match name.toNat?.getD 0 with
      | 0 => some (some s.name)
      | n + 1 => some s.args[n]?
    else none

/-- The atoms of what a parameter gives. Where a word is not `single`, each text of several is a
field of its own. -/
def foundAtoms (s : Session) (single quoted : Bool) : Found → List Atom
  | .missing => Shell.Expand.valueAtoms quoted ""
  | .text text => Shell.Expand.valueAtoms quoted text
  | .list items star =>
    if star && (quoted || single) then
      Shell.Expand.valueAtoms quoted ((joint s).intercalate items)
    else if items = [] then [.vanish]
    else (items.map (Shell.Expand.valueAtoms quoted)).intersperse [.cut] |>.flatten

/-- Puts a home directory into the place of a tilde that the text starts with; `last` says that
nothing follows the text. -/
def homeText (s : Session) (last : Bool) (cs : List Char) : List Piece :=
  match cs with
  | '~' :: rest =>
    let user := rest.takeWhile (· ≠ '/')
    let after := rest.drop user.length
    let dir := match String.ofList user with
      | "+" => s.text? "PWD"
      | "-" => s.text? "OLDPWD"
      | "" => (s.text? "HOME").orElse fun _ => Shell.Expand.homes.lookup "root"
      | user => Shell.Expand.homes.lookup user
    match if after = [] ∧ !last then none else dir with
    | some dir => [.text dir.toList true, .text after false]
    | none => [.text cs false]
  | cs => [.text cs false]

/-- Puts home directories into the places of tildes in the value of an assignment: at its start and
behind colons. -/
def homesBehindColons (s : Session) (atStart : Bool) : List Piece → List Piece
  | [] => []
  | .text cs false :: w =>
    let parts := cs.splitOn ':'
    let place := fun ((i, part) : Nat × List Char) =>
      let colon : List Piece := if i = 0 then [] else [.text [':'] false]
      colon ++ if i = 0 ∧ !atStart then [.text part false]
        else homeText s (i + 1 != parts.length || w.isEmpty) part
    ((List.range parts.length).zip parts).flatMap place ++ homesBehindColons s false w
  | p :: w => p :: homesBehindColons s false w

/-- Puts home directories into the places of tildes in a word, which may look like an assignment. -/
def homes (s : Session) : List Piece → List Piece
  | .text cs false :: w =>
    let name := Lexer.leadingName cs
    match name, cs.drop name.length with
    | _ :: _, '=' :: value =>
      .text (name ++ ['=']) false :: homesBehindColons s true (.text value false :: w)
    | _, _ => homeText s w.isEmpty cs ++ w
  | w => w

/-- The text in quotes that a shell reads as the text. -/
def reusable (text : String) : String :=
  if text.toList.all Quoting.isPrintable then "'" ++ text.replace "'" "'\\''" ++ "'"
  else Quoting.backslashed text

/-- The text between double quotes, as declarations show it. -/
def doubleQuoted (text : String) : String :=
  if text.toList.all Quoting.isPrintable then
    let shown (c : Char) : List Char := if "\"\\$\x60".contains c then ['\\', c] else [c]
    "\"" ++ String.ofList (text.toList.flatMap shown) ++ "\""
  else Quoting.backslashed text

/-- The key of an element as it is shown between brackets. -/
def shownKey (key : String) : String :=
  let tame (c : Char) : Bool := c.isAlphanum || "_-./:+,%@^=".contains c
  if key.toList.all tame ∧ key ≠ "" then key else doubleQuoted key

/-- The elements of a variable between parentheses. -/
def shownElements (v : Shell.Variable) : String :=
  let shown := (Variable.elements v).map fun (key, text) =>
    "[" ++ shownKey key ++ "]=" ++ doubleQuoted text
  match v.items with
  | .keyed _ => "(" ++ String.join (shown.map (· ++ " ")) ++ ")"
  | _ => "(" ++ " ".intercalate shown ++ ")"

/-- The letters of the properties of a variable. -/
def propertyLetters (v : Shell.Variable) : String :=
  let on (c : Char) : Bool := match c with
    | 'a' => (v.items matches .indexed _)
    | 'A' => Variable.isKeyed v
    | 'r' => v.readOnly
    | 'x' => v.exported
    | c => Variable.has v c
  String.ofList ("aAilnrtuxc".toList.filter on)

/-- The command that makes a variable what it is. -/
def declaration (name : String) (v : Shell.Variable) : String :=
  let letters := propertyLetters v
  let lead := "declare -" ++ (if letters = "" then "-" else letters) ++ " " ++ name
  match v.items with
  | .none => lead ++ (v.value.map fun text => "=" ++ doubleQuoted text).getD ""
  | .indexed [] | .keyed [] => lead ++ if v.value.isSome then "=()" else ""
  | _ => lead ++ "=" ++ shownElements v

/-- A text in which the escapes between `$'` and a quote are resolved. -/
def unescaped (text : String) : String :=
  let cs := text.toList.filter (· ≠ '\x27')
  match Lexer.escapes (cs.length + 1) [] (cs ++ ['\x27']) with
  | some (done, _) => String.ofList done.reverse
  | none => text

/-- A letter in another case. -/
def changed (change : Change) (c : Char) : Char :=
  match change with
  | .upper => c.toUpper
  | .lower => c.toLower
  | .swap => if c.isUpper then c.toLower else c.toUpper

/-- The text behind a pattern is replaced by, with what matched in the place of `&`. -/
def replacement (ampersand : Bool) (ms : List Mark) (found : List Char) : List Char :=
  match ms with
  | [] => []
  | ⟨'\\', true⟩ :: ⟨'&', true⟩ :: ms => '&' :: replacement ampersand ms found
  | ⟨'\\', true⟩ :: ⟨'\\', true⟩ :: ms => '\\' :: replacement ampersand ms found
  | ⟨c, active⟩ :: ms =>
    (if active && ampersand && c == '&' then found else [c]) ++ replacement ampersand ms found

/-- What is left of a text from an offset on, with a length, or why there is nothing. -/
def slice (offset : Int) (length : Option Int) (cs : List Char) : Option (List Char) :=
  let size : Int := cs.length
  let first := if offset < 0 then offset + size else offset
  if first < 0 ∨ size < first then some []
  else match length with
    | none => some (cs.drop first.toNat)
    | some n =>
      let last := if n < 0 then size + n else min size (first + n)
      if last < first then none else some ((cs.drop first.toNat).take (last - first).toNat)

section

variable (r : Runner)

mutual

/-- The atoms of a piece. Plain text behind a parameter's operator may split; where a word is
`single`, nothing does. -/
def piece (fuel : Nat) (single splits : Bool) (p : Piece) : Act (List Atom) := do
  match fuel with
  | 0 => throw .stalled
  | fuel + 1 =>
    let output (text : List Char) (quoted : Bool) : List Atom :=
      Shell.Expand.valueAtoms quoted
        (String.ofList ((Shell.Expand.dropNewlines (text.filter (· != '\x00')))))
    match p with
    | .text cs quoted => return Shell.Expand.textAtoms splits cs quoted
    | .output line command quoted => return output (← r.output line command) quoted
    | .backquoted source quoted => return output (← r.backquoted source) quoted
    | .arithmetic body quoted =>
      let n ← calculate "" (← text fuel body).toList
      return Shell.Expand.valueAtoms quoted (toString n)
    | .channel written line command =>
      return Shell.Expand.valueAtoms true (← r.channel written line command)
    | .param indirect name index op words source quoted =>
      parameter fuel single indirect name index op words source quoted

/-- The atoms of pieces. -/
def pieces (fuel : Nat) (single splits : Bool) (ps : List Piece) : Act (List Atom) := do
  match fuel with
  | 0 => throw .stalled
  | fuel + 1 =>
    match ps with
    | [] => return []
    | p :: ps =>
      let first ← piece fuel single splits p
      return first ++ (← pieces fuel single splits ps)

/-- The text of pieces that are not split. -/
def text (fuel : Nat) (ps : List Piece) : Act String := do
  match fuel with
  | 0 => throw .stalled
  | fuel + 1 => return Shell.Expand.text (← pieces fuel true false ps)

/-- The element that a subscript means, of the variable `name`. -/
def key (fuel : Nat) (name : String) (index : Index Word) : Act (Option Key) := do
  match fuel with
  | 0 => throw .stalled
  | fuel + 1 =>
    match index with
    | .element word =>
      let v := ((← get).lookup? name).getD .blank
      let text ← text fuel (homes (← get) word.pieces)
      if Variable.isKeyed v then return some (.name text)
      let n ← subscriptOf text.toList
      let size : Int := match v.items with
        | .indexed items => (items.getLast?.map fun (m, _) => (m : Int) + 1).getD 0
        | _ => if v.value.isSome then 1 else 0
      let n := if n < 0 then n + size else n
      return if n < 0 then none else some (.number n.toNat)
    | _ => return some .none

/-- What a parameter gives by its name and subscript. -/
def found (fuel : Nat) (name : String) (index : Index Word) : Act Found := do
  match fuel with
  | 0 => throw .stalled
  | fuel + 1 =>
    if name = "@" ∨ name = "*" then return .list (← get).args (name = "*")
    match special? (← get) name with
    | some value => return (value.map Found.text).getD .missing
    | none =>
      let full := (← get).resolve 8 name
      let index ← match full.toList.dropWhile (· ≠ '['), index with
        | '[' :: rest, .whole =>
          let inside := rest.takeWhile (· ≠ ']')
          pure (if inside = ['@'] then .every false else if inside = ['*'] then .every true
            else .element ⟨inside, [.text inside true]⟩)
        | _, index => pure index
      match index with
      | .every star =>
        let v ← readVariable name
        return .list ((v.map Variable.elements).getD [] |>.map Prod.snd) star
      | index =>
        match ← key fuel name index with
        | none =>
          report (name ++ ": bad array subscript")
          return .missing
        | some key =>
          let v ← readVariable name
          return ((v.bind (Variable.text? · key)).map Found.text).getD .missing

/-- The pattern of a word. -/
def globOf (fuel : Nat) (groups : Bool) (w : Word) : Act (List Glob) := do
  match fuel with
  | 0 => throw .stalled
  | fuel + 1 =>
    let ms := Shell.Expand.marks (← pieces fuel true false (homes (← get) w.pieces))
    return Glob.ofMarks (groups || (← get).enables "extglob") ms.length ms

/-- The number that a word is; complaints tell the parameter `name`. -/
def number (fuel : Nat) (name : String) (w : Word) : Act Int := do
  match fuel with
  | 0 => throw .stalled
  | fuel + 1 => calculate (name ++ ": ") (← text fuel w.pieces).toList

/-- A part of what a parameter gives. -/
def sliced (fuel : Nat) (name : String) (words : List Word) (value : Found) : Act Found := do
  match fuel with
  | 0 => throw .stalled
  | fuel + 1 =>
    let offset ← match words with
      | w :: _ => number fuel name w
      | [] => pure 0
    let count ← match words with
      | [_, w] => do pure (some (← number fuel name w))
      | _ => pure none
    let negative {α : Type} : Act α := do
      let shown := match words with
        | [_, w] => String.ofList w.source
        | _ => ""
      refuse (shown ++ ": substring expression < 0")
    match value with
    | .missing => return .missing
    | .text s =>
      match slice offset count s.toList with
      | some cs => return .text (String.ofList cs)
      | none => negative
    | .list items star =>
      if (count.getD 0) < 0 then negative
      let s ← get
      let numbered : List (Int × String) :=
        if name = "@" ∨ name = "*" then
          ((List.range (s.args.length + 1)).zip (s.name :: s.args)).map fun (n, x) => (n, x)
        else match (s.lookup? name).map Shell.Variable.items with
          | some (.indexed items) => items.map fun (n, x) => (n, x)
          | _ => ((List.range items.length).zip items).map fun (n, x) => (n, x)
      let size := (numbered.getLast?.map fun (n, _) => n + 1).getD 0
      let first := if offset < 0 then offset + size else offset
      if first < 0 then return .list [] star
      let chosen := (numbered.dropWhile fun (n, _) => n < first).map Prod.snd
      return .list (match count with
        | some n => chosen.take n.toNat
        | none => chosen) star

/-- The atoms of a parameter. -/
def parameter (fuel : Nat) (single indirect : Bool) (name : String) (index : Index Word)
    (op : Operation) (words : List Word) (source : List Char) (quoted : Bool) :
    Act (List Atom) := do
  match fuel with
  | 0 => throw .stalled
  | fuel + 1 =>
    let word : Word := words.headD ⟨[], []⟩
    match op with
    | .invalid => refuse (String.ofList source ++ ": bad substitution")
    | .names star =>
      let s ← get
      let names := s.variableNames.filter (·.startsWith name)
      return foundAtoms s single quoted (.list names star)
    | .keys =>
      let v ← readVariable name
      let keys := (v.map Variable.elements).getD [] |>.map Prod.fst
      return foundAtoms (← get) single quoted (.list keys (index matches .every true))
    | op =>
    if indirect then
      let s ← get
      let v := s.bindings.lookup name
      if (v.map (Variable.has · 'n')).getD false && op == .value then
        return foundAtoms s single quoted (.text (s.resolve 8 name))
      let referred ← match ← found fuel name index with
        | .text t => pure t
        | .list items _ => pure (" ".intercalate items)
        | .missing => refuse (name ++ ": invalid indirect expansion")
      let base := referred.toList.takeWhile (· ≠ '[')
      let isName := Lexer.leadingName base = base ∨ base.all Char.isDigit ∨
        (base.length = 1 ∧ base.all Lexer.isSpecial)
      if !isName ∨ base = [] then refuse (referred ++ ": invalid variable name")
      let inside := ((referred.toList.drop (base.length + 1)).takeWhile (· ≠ ']'))
      let index : Index Word :=
        if base.length = referred.length then .whole
        else if inside = ['@'] then .every false
        else if inside = ['*'] then .every true
        else .element ⟨inside, [.text inside true]⟩
      parameter fuel single false (String.ofList base) index op words source quoted
    else
    let label : String := match index with
      | .element w => name ++ "[" ++ String.ofList w.source ++ "]"
      | .every star => name ++ (if star then "[*]" else "[@]")
      | .whole => if source.head? = some '$' ∧ source.length = 2 ∧ Lexer.leadingName source.tail = []
          then String.ofList source else name
    let value ← found fuel name index
    let isBare : Bool := match value with
      | .missing => true
      | _ => false
    let demand : Act Unit := do
      if isBare && (← get).has 'u' then
        report (label ++ ": unbound variable")
        abort
    let give (value : Found) : Act (List Atom) := do
      return foundAtoms (← get) single quoted value
    match op with
    | .value =>
      demand
      give value
    | .length =>
      demand
      match value with
      | .list items _ =>
        if (← get).has 'u' && name != "@" && name != "*" && ((← get).lookup? name).isNone then
          refuse (name ++ ": unbound variable")
        give (.text (toString items.length))
      | .text s => give (.text (toString s.length))
      | .missing => give (.text "0")
    | .default colon =>
      if value.isMissing colon then pieces fuel single (!quoted) (homes (← get) word.pieces)
      else give value
    | .alternative colon =>
      if value.isMissing colon then
        return match value with
          | .list _ false => [.vanish]
          | _ => if quoted then [.hold] else []
      else pieces fuel single (!quoted) (homes (← get) word.pieces)
    | .assign colon =>
      if !value.isMissing colon then give value
      else
        let new ← text fuel (homes (← get) word.pieces)
        if Lexer.leadingName name.toList = [] then
          refuse ("$" ++ name ++ ": cannot assign in this way")
        if index matches .every _ then refuse (label ++ ": bad array subscript")
        match ← key fuel name index with
        | none => refuse (label ++ ": bad array subscript")
        | some key =>
          if !(← store name key new) then drop
          give (.text ((((← get).lookup? name).bind (Variable.text? · key)).getD new))
    | .require colon =>
      if !value.isMissing colon then give value
      else
        let message ← text fuel word.pieces
        let usual := if colon then "parameter null or not set" else "parameter not set"
        report (label ++ ": " ++ if words.all (·.source = []) then usual else message)
        abort
    | .dropStart longest =>
      demand
      let glob ← globOf fuel false word
      give (value.map fun cs => cs.drop ((Glob.beginning? longest glob cs).getD 0))
    | .dropEnd longest =>
      demand
      let glob ← globOf fuel false word
      give (value.map fun cs => cs.take ((Glob.beforeEnd? longest glob cs).getD cs.length))
    | .replace place =>
      demand
      let glob ← globOf fuel false word
      let new ← match words with
        | [_, w] => pieces fuel true false (homes (← get) w.pieces)
        | _ => pure []
      let new := replacement ((← get).enables "patsub_replacement") (Shell.Expand.marks new)
      give (value.map fun cs =>
        match place with
        | .first => if glob.isEmpty then cs else Glob.replaced glob false new (cs.length + 1) cs
        | .all => if glob.isEmpty then cs else Glob.replaced glob true new (cs.length + 1) cs
        | .atStart => match Glob.beginning? true glob cs with
          | some n => new (cs.take n) ++ cs.drop n
          | none => cs
        | .atEnd => match Glob.beforeEnd? true glob cs with
          | some n => cs.take n ++ new (cs.drop n)
          | none => cs)
    | .slice =>
      demand
      if isBare then give value else give (← sliced fuel name words value)
    | .change change every =>
      demand
      let glob ← globOf fuel false word
      let fits (c : Char) : Bool := word.pieces.isEmpty || Glob.isMatch glob [c]
      let one (c : Char) : Char := if fits c then changed change c else c
      give (value.map fun cs => if every then cs.map one else (cs.take 1).map one ++ cs.drop 1)
    | .transform letter =>
      demand
      transformed fuel single name index letter value quoted source
    | .invalid | .names _ | .keys => return []

/-- The atoms of a parameter in another form. -/
def transformed (fuel : Nat) (single : Bool) (name : String) (index : Index Word) (letter : Char)
    (value : Found) (quoted : Bool) (source : List Char) : Act (List Atom) := do
  match fuel with
  | 0 => throw .stalled
  | _ + 1 =>
    let s ← get
    let give (value : Found) : Act (List Atom) := return foundAtoms s single quoted value
    let each (f : String → String) : Act (List Atom) :=
      give (value.map fun cs => (f (String.ofList cs)).toList)
    let v := s.lookup? name
    let all : Bool := index matches .every _
    match letter with
    | 'Q' => each reusable
    | 'E' => each unescaped
    | 'P' => each fun text => text
    | 'U' => give (value.map fun cs => cs.map Char.toUpper)
    | 'L' => give (value.map fun cs => cs.map Char.toLower)
    | 'u' => give (value.map fun cs => (cs.take 1).map Char.toUpper ++ cs.drop 1)
    | 'a' =>
      let letters := (v.map propertyLetters).getD ""
      match value with
      | .list items star => give (.list (items.map fun _ => letters) star)
      | _ => give (.text letters)
    | 'A' =>
      match v with
      | none => give value
      | some v =>
        if all && Variable.isArray v then give (.text (declaration name v))
        else match value with
          | .text text =>
            let letters := propertyLetters v
            let lead := if letters = "" then "" else "declare -" ++ letters ++ " "
            give (.text (lead ++ name ++ "=" ++ reusable text))
          | .list items _ =>
            give (.text ("set -- " ++ " ".intercalate (items.map reusable)))
          | .missing => give value
    | 'K' | 'k' =>
      match v with
      | some v =>
        if all && Variable.isArray v then
          let pairs := Variable.elements v
          if letter = 'K' then
            let shown := pairs.map fun (key, text) => shownKey key ++ " " ++ doubleQuoted text
            give (.text (" ".intercalate shown ++ if Variable.isKeyed v then " " else ""))
          else give (.list (pairs.flatMap fun (key, text) => [key, text])
            (index matches .every true))
        else each reusable
      | none => each reusable
    | _ =>
      match value with
      | .missing => give value
      | _ => refuse (String.ofList source ++ ": bad substitution")

end

/-! ## Paths -/

/-- The names in a directory, without the two for itself and the one above. -/
def namesIn (s : Session) (dir : Path) : List String :=
  match s.disk.node s.cwd dir with
  | .ok (.directory entries) => entries.map fun (name, _) => Octets.ofText name
  | _ => []

/-- The directories below a directory, each with the text that leads there; links are not followed,
and `fuel` bounds the depth. -/
def below (s : Session) (fuel : Nat) (dir : Path) (done : String) : List (Path × String) :=
  match fuel with
  | 0 => []
  | fuel + 1 =>
    let names := (namesIn s dir).filter fun name =>
      s.enables "dotglob" || !name.startsWith "."
    (names.mergeSort Shell.Expand.before).flatMap fun name =>
      let next := dir.join (State.path name)
      match s.disk.locate false s.cwd next with
      | .ok (_, some (.directory _)) =>
        (next, done ++ name ++ "/") :: below s fuel next (done ++ name ++ "/")
      | _ => []

/-- The paths that match, below the directory `dir`; the text `done` leads there. `fuel` bounds the
depth of the tree. -/
def matching (s : Session) (fuel : Nat) (dir : Path) (done : String) :
    List (List Mark) → List String
  | [] => [done]
  | segment :: segments =>
    let isLast := segments.isEmpty
    let lead := fun (name : String) => if isLast then done ++ name else done ++ name ++ "/"
    let groups := s.enables "extglob"
    if s.enables "globstar" ∧ segment = [⟨'*', true⟩, ⟨'*', true⟩] then
      let places := (dir, done) :: below s fuel dir done
      if isLast then
        places.flatMap fun (place, text) =>
          let names := ((namesIn s place).filter fun name =>
            s.enables "dotglob" || !name.startsWith ".").mergeSort Shell.Expand.before
          (if text = done ∧ done ≠ "" then [text] else []) ++ names.map (text ++ ·)
      else places.flatMap fun (place, text) => matching s fuel place text segments
    else if !Glob.isActive groups segment then
      let name := Shell.Expand.unmark segment
      let next := dir.join (State.path name)
      if isLast then
        if name = "" then [done]
        else match s.disk.locate false s.cwd next with
          | .ok (_, some _) => [lead name]
          | _ => []
      else matching s fuel (if name = "" then dir else next) (lead name) segments
    else
      let fold (cs : List Char) : List Char :=
        if s.enables "nocaseglob" then cs.map Char.toLower else cs
      let glob := Glob.ofMarks groups segment.length
        (segment.map fun m => ⟨if s.enables "nocaseglob" then m.char.toLower else m.char, m.active⟩)
      let hidden := (segment.head?.map Mark.char) = some '.' || s.enables "dotglob"
      let found := (namesIn s dir).filter fun name =>
        (hidden || name.toList.head? != some '.') && Glob.isMatch glob (fold name.toList)
      (found.mergeSort Shell.Expand.before).flatMap fun name =>
        let next := dir.join (State.path name)
        if !isLast && !s.disk.isDirectory s.cwd next then []
        else matching s fuel next (lead name) segments

/-- Directories within each other at most that a path can match. -/
def maxDepth : Nat := 64

/-- The paths that a field stands for, or its own text if there are none. -/
def paths (field : List Mark) : Act (List String) := do
  let s ← get
  let own := Shell.Expand.unmark field
  if !Glob.isActive (s.enables "extglob") field || s.has 'f' then return [own]
  let (dir, done, segments) := match field.splitOnP (·.char == '/') with
    | [] :: segments => (⟨"/"⟩, "/", segments)
    | segments => ((⟨"."⟩ : Path), "", segments)
  match (matching s maxDepth dir done segments).mergeSort Shell.Expand.before with
  | [] =>
    if s.enables "failglob" then refuse ("no match: " ++ own)
    else return if s.enables "nullglob" then [] else [own]
  | found => return found

/-! ## Words -/

/-- The depth of words within each other at most. -/
def depth : Nat := 100000

/-- The fields of a word without alternatives in braces. -/
def fields (ps : List Piece) : Act (List String) := do
  let atoms ← pieces r depth false false (homes (← get) ps)
  let s ← get
  let found := Shell.Expand.fields (separators s) (.start false) [] atoms
  return (← found.mapM paths).flatten

/-- The fields of a word. -/
def word (w : Word) : Act (List String) := do
  let alternatives := if (← get).has 'B' then Brace.expand w.pieces else [w.pieces]
  return (← alternatives.mapM (fields r)).flatten

def words (ws : List Word) : Act (List String) := do
  return (← ws.mapM (word r)).flatten

/-- The text of a word where it is not split. -/
def whole (w : Word) : Act String := do text r depth (homes (← get) w.pieces)

/-- The text of the value of an assignment. -/
def value (w : Word) : Act String := do
  text r depth (homesBehindColons (← get) true w.pieces)

/-- The characters of a word, marked if they have a special meaning in a pattern. -/
def marksOf (w : Word) : Act (List Mark) := do
  return Shell.Expand.marks (← pieces r depth true false (homes (← get) w.pieces))

end

end Expand

end PlaybookScan.Shell.Bash

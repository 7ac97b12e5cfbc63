import PlaybookScan.Shell.Builtin.Options
import PlaybookScan.Shell.Expand

/-!
# Commands on variables
-/

set_option autoImplicit false

namespace PlaybookScan.Shell.Builtin

/-- Goes through arguments as long as they are in order. -/
def forEach (name : String) (act : State → String → Except String State) : Builtin := fun args s =>
  match args.foldlM act s with
  | .ok s => done 0 s
  | .error message => fail name message s

/-- Assigns a value in a command, or says why that cannot be. -/
def giveValue (s : State) (name : String) (value : Option String) : Except String State :=
  if !Parser.isName name then .error (name ++ ": bad variable name")
  else match value with
    | some value => s.assign? name value
    | none => .ok s

/-- Gives variables a property; without arguments, lists those that have it. -/
def declare (name : String) (shown : Variable → Bool) (change : Variable → Variable) : Builtin :=
  withOptions name "p" fun options args s =>
    if args = [] ∨ options ≠ [] then done 0 (listVariables (name ++ " ") shown s)
    else forEach name (fun s arg => do
      let (x, value) := binding arg
      return (← giveValue s x value).alter x change) args s

def export_ : Builtin := declare "export" Variable.exported fun v => { v with exported := true }

def readonly : Builtin := declare "readonly" Variable.readOnly fun v => { v with readOnly := true }

/-- Keeps the old value of variables until the function is left. -/
def local_ : Builtin := fun args s =>
  if s.saved.isNone then fail "local" "not in a function" s
  else forEach "local" (fun s arg => do
    let (x, value) := binding arg
    if x = "-" ∧ value.isNone then return s
    if !Parser.isName x then throw (x ++ ": bad variable name")
    let s := { s with saved := s.saved.map ((x, s.bindings.lookup x) :: ·) }
    giveValue s x value) args s

def unset : Builtin := withOptions "unset" "vf" fun options args s =>
  if options.getLast? = some 'f' then
    done 0 { s with functions := s.functions.filter fun f => !args.contains f.1 }
  else forEach "unset" (fun s arg => do
    let x := (binding arg).1
    if !Parser.isName x then throw (x ++ ": bad variable name")
    if s.isReadOnly x then throw (x ++ ": is read only")
    return s.unset x) args s

/-! ## Reading a line -/

/-- A character that was read, and whether it may separate words. -/
abbrev Read := Char × Bool

/-- What was read of the input. -/
structure ReadLine where
  text : List Read
  /-- A newline ended it. -/
  ended : Bool
  /-- A backslash joins the next line to it. -/
  joined : Bool

/-- Reads a line. -/
def readOne (raw : Bool) (s : State) : Option ReadLine × State :=
  match s.readLine 0 with
  | (none, s) => (none, s)
  | (some (line, ended), s) =>
    let line := line.filter (· != '\x00')
    if raw then (some ⟨line.map (·, true), ended, false⟩, s)
    else
      let (cs, open_) := line.foldl (fun ((done, escaped) : List Read × Bool) c =>
        if escaped then ((c, false) :: done, false)
        else if c = '\\' then (done, true)
        else ((c, true) :: done, false)) ([], false)
      (some ⟨cs.reverse, ended, open_ && ended⟩, s)

/-- Reads the lines that backslashes join to a line; `fuel` bounds their number. -/
def readJoined (fuel : Nat) (line : ReadLine) (s : State) : ReadLine × State :=
  match fuel with
  | 0 => (line, s)
  | fuel + 1 =>
    if line.joined then
      match readOne false s with
      | (some more, s) => readJoined fuel { more with text := line.text ++ more.text } s
      | (none, s) => ({ line with ended := false }, s)
    else (line, s)

/-- A line under way that is given to names. -/
structure Distribution where
  /-- Names that still get a word; the last one gets all that is left. -/
  left : Nat
  /-- A blank has just ended a word. -/
  spaced : Bool
  /-- The word under way, in reverse. -/
  word : List Char
  /-- How much of the word stays if nothing else comes. -/
  cut : Option Nat
  done : List String

/-- One more character. Blanks around a separator belong to it. -/
def Distribution.step (separators : List Char) (d : Distribution) : Read → Distribution
  | (c, false) => { d with spaced := false, word := c :: d.word }
  | (c, true) =>
    let separates := separators.contains c
    let blank := separates && (c == ' ' || c == '\t' || c == '\n')
    if d.left = 0 then
      if blank then { d with cut := d.cut <|> some d.word.length, word := c :: d.word }
      else { d with
        cut := if separates && d.spaced then d.cut else none
        spaced := false
        word := c :: d.word }
    else if d.spaced then
      if blank then { d with word := [] }
      else if separates then { d with word := [], spaced := false }
      else { d with word := [c], spaced := false }
    else if !separates then { d with word := c :: d.word }
    else if blank && d.word.isEmpty then d
    else if d.left = 1 then
      { d with left := 0, cut := some d.word.length, word := c :: d.word, spaced := blank }
    else
      { d with
        left := d.left - 1
        spaced := blank
        word := []
        done := String.ofList d.word.reverse :: d.done }

/-- The words of a line for `count` names. -/
def distribute (separators : List Char) (count : Nat) (line : List Read) : List String :=
  let d := line.foldl (Distribution.step separators) ⟨count, false, [], none, []⟩
  let last := (d.word.reverse).take (d.cut.getD d.word.length)
  ((if last = [] then [] else [String.ofList last]) ++ d.done).reverse

def read : Builtin := withOptions "read" "p:r" fun options names s =>
  if names = [] then fail "read" "arg count" s
  else match readOne (options.contains 'r') s with
    | (none, s) => done 1 s
    | (some line, s) =>
      let (line, s) := if line.joined then readJoined (s.readable 0 + 1) line s else (line, s)
      let words := distribute (Expand.separators s) names.length line.text
      let pairs := (List.range names.length).zip names
      match pairs.foldlM (fun s (i, x) => giveValue s x (some (words.getD i ""))) s with
      | .ok s => done (if line.ended then 0 else 1) s
      | .error message => fail "read" message s

/-! ## Options of a script -/

/-- What stands behind an option's letter in the list of options. -/
def behindLetter? (c : Char) : List Char → Option (List Char)
  | [] => none
  | q :: rest =>
    if q = c then some rest
    else match rest with
      | ':' :: rest => behindLetter? c rest
      | rest => behindLetter? c rest

/-- What is wrong with an option of a script. -/
inductive OptionFault where
  | unknown (letter : Char)
  /-- It has no argument. -/
  | lacking (letter : Char)

def OptionFault.message : OptionFault → String
  | unknown c => illegalOption (String.singleton c)
  | lacking c => "No arg for -" ++ String.singleton c ++ " option"

/-- What a step of the scan finds: the letter, an argument for `OPTARG` or none, and a complaint. -/
structure FoundOption where
  letter : Char
  argument : Option String
  complaint : Option OptionFault
  scan : OptionScan

/-- The next option of `params` among those of `allowed`, or where the scan ends. -/
def nextOption (allowed : List Char) (params : List String) (scan : OptionScan) :
    Except OptionScan FoundOption := do
  let quiet := allowed.head? = some ':'
  let inside := match scan.offset with
    | some offset =>
      if scan.next ≤ 1 then [] else ((params.getD (scan.next - 2) "").toList).drop offset
    | none => []
  let (cs, next) ← match inside with
    | c :: cs => pure (c :: cs, scan.next)
    | [] => match ((params[scan.next - 1]?).getD "").toList with
      | ['-', '-'] => throw ⟨scan.next + 1, none⟩
      | '-' :: c :: cs => pure (c :: cs, scan.next + 1)
      | _ => throw ⟨scan.next, none⟩
  let c := cs.headD '?'
  let rest := cs.tail
  let offset := ((params.getD (next - 2) "").length) - rest.length
  let going : OptionScan := ⟨next, some offset⟩
  match behindLetter? c allowed with
  | none =>
    if quiet then return ⟨'?', some (String.singleton c), none, going⟩
    else return ⟨'?', none, some (.unknown c), going⟩
  | some (':' :: _) =>
    if rest ≠ [] then return ⟨c, some (String.ofList rest), none, ⟨next, none⟩⟩
    else match params[next - 1]? with
      | some arg => return ⟨c, some arg, none, ⟨next + 1, none⟩⟩
      | none =>
        if quiet then return ⟨':', some (String.singleton c), none, ⟨next, none⟩⟩
        else return ⟨'?', none, some (.lacking c), ⟨next, none⟩⟩
  | some _ => return ⟨c, some "", none, going⟩

def getopts : Builtin := withOptions "getopts" "" fun _ args s =>
  match args with
  | allowed :: x :: given =>
    let params := if given = [] then s.args else given
    let scan := if params.length + 1 < s.scan.next then ⟨1, none⟩ else s.scan
    let (letter, s, scan, status) : Char × State × OptionScan × Nat :=
      match nextOption allowed.toList params scan with
      | .error scan => ('?', s, scan, 1)
      | .ok found =>
        let s := match found.argument with
          | some value => s.assign "OPTARG" value
          | none => s.unset "OPTARG"
        let s := match found.complaint with
          | some complaint => s.complain complaint.message
          | none => s
        (found.letter, s, found.scan, 0)
    let s := { s.assign "OPTIND" (toString scan.next) with scan }
    match giveValue s x (some (String.singleton letter)) with
    | .ok s => done status s
    | .error message => fail "getopts" message s
  | _ => fail "getopts" "Usage: getopts optstring var [arg...]" s

end PlaybookScan.Shell.Builtin

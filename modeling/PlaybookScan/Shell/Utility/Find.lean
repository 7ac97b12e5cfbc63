import PlaybookScan.Shell.Find.Expression
import PlaybookScan.Shell.Utility.PathName

/-!
# Walking through directories

The walk goes through directories from the top, or from the bottom, and asks for each file what the
expression says of it.
-/

set_option autoImplicit false

namespace PlaybookScan.Shell.Find

open Utility

/-- A file on the way. -/
structure Item where
  path : String
  /-- The operand at which the walk began. -/
  start : String
  depth : Nat
  node : Node

/-- How a walk stands. -/
structure Walk where
  failed : Bool
  /-- It was asked to end. -/
  ended : Bool
  /-- The directory is not to be entered. -/
  pruned : Bool
  /-- Commands for all files, each with the directory and the files that it is to be run for, of
  which the last comes first. -/
  pending : List (Nat × Order × String × List String)

abbrev Visit := StateT Walk (StateM State)

/-- How a walk is made. -/
structure Manner where
  host : Host
  settings : Settings

def act {α : Type} (x : StateM State α) : Visit α := StateT.lift x

def fail (message : String) : Visit Unit := do
  act (complain message)
  modify fun w => { w with failed := true }

/-! ## Names -/

/-- The name of a file in its directory. -/
def Item.baseName (i : Item) : String := lastName "" i.path

/-- What stands before the last slash. -/
def Item.parent (i : Item) : String :=
  let cs := i.path.toList
  if cs.contains '/' then String.ofList ((cs.reverse.dropWhile (· != '/')).drop 1).reverse else "."

/-- What stands behind the last slash that does not end the path. -/
def Item.title (i : Item) : String :=
  let cs := i.path.toList
  let trailing := (cs.reverse.takeWhile (· == '/')).reverse
  let body := cs.take (cs.length - trailing.length)
  if body = [] then "/"
  else String.ofList ((body.reverse.takeWhile (· != '/')).reverse ++ trailing)

/-- The path behind the operand at which the walk began. -/
def Item.tail (i : Item) : String :=
  let rest := i.path.toList.drop i.start.length
  String.ofList (if rest.head? = some '/' then rest.tail else rest)

/-! ## Output -/

def put (target : Target) (text : List Char) : Visit Unit :=
  act (match target with
    | .output => write text
    | .file name => do
      match ← openOutput true name with
      | .ok n => modify fun s => (s.write n text).2
      | .error _ => pure ())

/-- The letter of a kind as tests name it. -/
def letterOf (node : Node) : Char :=
  match kindLetter node with
  | '-' => 'f'
  | c => c

/-- The letter of what a link leads to. -/
def letterThrough (s : State) (i : Item) : Char :=
  match i.node with
  | .link _ => match s.disk.node s.cwd (State.path i.path) with
    | .ok node => letterOf node
    | .error .tooManyLinks => 'L'
    | .error _ => 'N'
  | node => letterOf node

def linkText (node : Node) : String :=
  match node with
  | .link target => Octets.ofText target
  | _ => ""

/-- What a letter of a format stands for. -/
def Item.property (s : State) (i : Item) (alternative : Bool) (c : Char) : List Char :=
  let moment := Calendar.Moment.ofSeconds Calendar.beginning 0
  let described (letter : Char) : String := (property? i.path i.node letter).getD ""
  let text : String := match c with
    | 'p' => i.path
    | 'f' => i.title
    | 'h' => i.parent
    | 'H' => i.start
    | 'P' => i.tail
    | 'd' => toString i.depth
    | 's' => toString (Utility.sizeOf i.node)
    | 'm' => (if alternative then "0" else "") ++ described 'a'
    | 'M' => described 'A'
    | 'y' => String.singleton (letterOf i.node)
    | 'Y' => String.singleton (letterThrough s i)
    | 'l' => linkText i.node
    | 'u' | 'g' => "root"
    | 'U' | 'G' => "0"
    | 'k' => toString ((((property? i.path i.node 'b').bind String.toNat?).getD 0 + 1) / 2)
    | 'b' => described 'b'
    | 'n' | 'i' => "1"
    | 'D' => described 'd'
    | 'F' => "ext4"
    | 'S' => if Utility.sizeOf i.node = 0 then "1" else described 's'
    | 'a' | 'c' | 't' => moment.show_ "%a %b %e %H:%M:%S.%N0 %Y"
    | _ => ""
  text.toList

/-- What the letter behind that for a time stands for. -/
def timePart (c : Char) : List Char :=
  let moment := Calendar.Moment.ofSeconds Calendar.beginning 0
  (match c with
    | '@' => moment.show_ "%s.%N0"
    | '+' => moment.show_ "%Y-%m-%d+%H:%M:%S.%N0"
    | 'S' => moment.show_ "%S.%N0"
    | 'T' => moment.show_ "%H:%M:%S.%N0"
    | c => moment.show_ ("%" ++ String.singleton c)).toList

/-- A file by a format; `fuel` is the number of characters. -/
def Item.format (s : State) (i : Item) : Nat → List Char → List Char
  | 0, cs => cs
  | _, [] => []
  | fuel + 1, '\\' :: rest =>
    match rest with
    | [] => ['\\']
    | c :: after =>
      if c = 'c' then []
      else if '0' ≤ c ∧ c ≤ '7' then
        let ds := (rest.take 3).takeWhile Printf.isOctal
        Printf.byte (Printf.number 8 ds) :: i.format s fuel (rest.drop ds.length)
      else match if c = '\\' then some '\\' else if c = 'e' then none else Printf.letter? c with
        | some d => d :: i.format s fuel after
        | none => '\\' :: c :: i.format s fuel after
  | fuel + 1, '%' :: rest =>
    let flags := rest.takeWhile "-+ #0".toList.contains
    let after := rest.drop flags.length
    let width := after.takeWhile Char.isDigit
    let after := after.drop width.length
    let (places, after) := match after with
      | '.' :: after => (some (after.takeWhile Char.isDigit), after.dropWhile Char.isDigit)
      | after => (none, after)
    let padded (c : Char) (text : List Char) : List Char :=
      let text := match places with
        | some ds => text.take (Printf.number 10 ds)
        | none => text
      let zeros : Bool := flags.contains '0' && !flags.contains '-' && "dm".toList.contains c
      Printf.pad (flags.contains '-') (if zeros then '0' else ' ') (Printf.number 10 width) text
    match after with
    | [] => ['%']
    | '%' :: after => '%' :: i.format s fuel after
    | c :: after =>
      if formatLetters.contains c then
        padded c (i.property s (flags.contains '#') c) ++ i.format s fuel after
      else if "ABCT".toList.contains c then
        match after with
        | d :: after => padded c (timePart d) ++ i.format s fuel after
        | [] => []
      else '%' :: (rest.take (rest.length - after.length)) ++ i.format s fuel after
  | fuel + 1, c :: rest => c :: i.format s fuel rest

/-- A file with its attributes. -/
def Item.listed (i : Item) : List Char :=
  let right (width : Nat) (text : String) : String :=
    String.ofList (Printf.pad false ' ' width text.toList)
  let left (width : Nat) (text : String) : String :=
    String.ofList (Printf.pad true ' ' width text.toList)
  let described (letter : Char) : String := (property? i.path i.node letter).getD ""
  let blocks := (((property? i.path i.node 'b').bind String.toNat?).getD 0 + 1) / 2
  let date := (Calendar.Moment.ofSeconds Calendar.beginning 0).show_ "%b %e %H:%M"
  let arrow := match i.node with
    | .link target => " -> " ++ Octets.ofText target
    | _ => ""
  (right 9 "1" ++ " " ++ right 6 (toString blocks) ++ " " ++ described 'A' ++ " " ++ right 3 "1" ++
    " " ++ left 8 "root" ++ " " ++ left 8 "root" ++ " " ++ right 8 (described 's') ++ " " ++ date ++
    " " ++ i.path ++ arrow ++ "\n").toList

/-! ## Commands -/

/-- The directory in which a command for the file is run, and the file's name there. -/
def Item.inside (i : Item) : String × String :=
  let base := i.baseName
  if base = "/" then ("/", "/")
  else
    let parent := parentName i.path
    (if base = "." then i.path else parent, "./" ++ base)

/-- Runs a command in a directory; tells whether it succeeded. -/
def runIn (m : Manner) (directory : Option String) (args : List String) : Visit Bool := do
  let s ← act get
  match directory with
  | some d => act (modify fun s => { s with cwd := s.cwd.join (State.path d) })
  | none => pure ()
  let ending ← act (m.host args)
  act (modify fun t => { t with cwd := s.cwd })
  let name := args.headD ""
  match ending with
  | .exited n => return n == 0
  | .signalled n =>
    act (complain (quoted name ++ " terminated by signal " ++ toString n))
    return false
  | .refused e =>
    act (complain (quoted name ++ ": " ++ cause e))
    return false
  | .stalled =>
    act (modify fun t => { t with clock := t.clock + forever })
    return false

/-- Runs a command for a file. -/
def runFor (m : Manner) (o : Order) (i : Item) : Visit Bool := do
  let (directory, name) := i.inside
  let shown := if o.inside then name else i.path
  let args := o.args.map fun a => shown.intercalate (a.splitOn "\x7b\x7d")
  if o.asks then
    act (modify fun s =>
      s.writeText 2 ("< " ++ o.args.headD "" ++ " ... " ++ i.path ++ " > ? "))
    let (answer, s) := (← act get).readLine 0
    act (set s)
    let answer := (answer.map Prod.fst).getD []
    if answer.head? ≠ some 'y' ∧ answer.head? ≠ some 'Y' then return false
    let channels := s.channels
    act (modify fun s => s.open_ 0 .null)
    let found ← runIn m (if o.inside then some directory else none) args
    act (modify fun s => { s with channels })
    return found
  else runIn m (if o.inside then some directory else none) args

/-- Runs a command for all its files. -/
def runPending (m : Manner) (o : Order) (directory : String) (names : List String) :
    Visit Unit := do
  if !(← runIn m (if o.inside then some directory else none) (o.args ++ names.reverse)) then
    modify fun w => { w with failed := true }

/-- Puts a file to those that a command is to be run for. -/
def collect (m : Manner) (number : Nat) (o : Order) (i : Item) : Visit Unit := do
  let (directory, name) := i.inside
  let directory := if o.inside then directory else ""
  let name := if o.inside then name else i.path
  let w ← get
  let others := w.pending.filter (·.1 != number)
  match w.pending.lookup number with
  | some (_, here, names) =>
    if here = directory then
      set { w with pending := (number, o, here, name :: names) :: others }
    else
      runPending m o here names
      modify fun w => { w with pending := (number, o, directory, [name]) :: others }
  | none => set { w with pending := (number, o, directory, [name]) :: others }

/-! ## Expressions -/

/-- Deletes a file. -/
def erase (i : Item) : Visit Bool := do
  if i.path = "." then return true
  let s ← act get
  let p := State.path i.path
  let found := match i.node with
    | .directory _ => removeEmpty s p
    | _ => s.disk.remove s.cwd p
  match found with
  | .ok disk =>
    act (set { s with disk })
    return true
  | .error e =>
    fail ("cannot delete " ++ quotedFile i.path ++ ": " ++ cause e)
    return false

def Primary.test (m : Manner) (i : Item) : Primary → Visit Bool
  | .constant b => return b
  | .name folded p =>
    let name := if folded then i.baseName.toLower else i.baseName
    return p.isMatch name.toList
  | .path folded p =>
    let path := if folded then i.path.toLower else i.path
    return p.isMatch path.toList
  | .linkTarget folded p =>
    match i.node with
    | .link target =>
      let text := Octets.ofText target
      return p.isMatch (if folded then text.toLower else text).toList
    | _ => return false
  | .regex f => return f.matchesAll i.path.toList
  | .kind false letters => return letters.contains (letterOf i.node)
  | .kind true letters => do
    let s ← act get
    let found := if m.settings.links = 'L' then
        match s.itself i.path with
        | .ok node => letterOf node
        | .error _ => letterOf i.node
      else match letterThrough s i with
        | 'N' | 'L' => 'l'
        | c => c
    return letters.contains found
  | .size c unit => return c.holds ((Utility.sizeOf i.node + unit - 1) / unit)
  | .empty =>
    match i.node with
    | .file content _ => return content.isEmpty
    | .directory entries => return entries.isEmpty
    | _ => return false
  | .permissions p =>
    let mode := modeOf i.node
    return match p with
      | .exactly n => mode == n
      | .all n => mode &&& n == n
      | .any n => n == 0 || mode &&& n != 0
  | .links c | .identity c => return c.holds 1
  | .owner c | .days c => return c.holds 0
  | .minutes c => return minutesHold c
  | .executable => return modeOf i.node &&& 0o111 != 0
  | .same place => do
    let s ← act get
    match s.disk.locate (m.settings.links == 'L') s.cwd (State.path i.path) with
    | .ok (here, _) => return here == place
    | .error _ => return false
  | .print stop target => do
    put target (i.path.toList ++ [stop])
    return true
  | .format text target => do
    put target (i.format (← act get) (text.length + 1) text)
    return true
  | .list target => do
    put target i.listed
    return true
  | .run o => runFor m o i
  | .runAll number o => do
    collect m number o i
    return true
  | .delete => erase i
  | .prune => do
    modify fun w => { w with pruned := true }
    return true
  | .quit => do
    modify fun w => { w with ended := true }
    return true

/-- What an expression says of a file. Once the walk has ended, it says no more. -/
def Expression.test (m : Manner) (i : Item) : Expression → Visit Bool
  | .primary p => do
    if (← get).ended then return false else p.test m i
  | .not e => do return !(← e.test m i)
  | .both a b => do
    if ← a.test m i then b.test m i else return false
  | .either a b => do
    if ← a.test m i then return true else b.test m i
  | .sequence a b => do
    let _ ← a.test m i
    b.test m i

/-! ## The walk -/

/-- What is there by a name, as links are followed. -/
def nodeAt (s : State) (follows : Bool) (path : String) : Except IoError Node :=
  if follows then
    match s.disk.node s.cwd (State.path path) with
    | .ok node => .ok node
    | .error _ => s.itself path
  else s.itself path

/-- Goes through a file and all that is below it; `around` holds the directories within which it
lies. `fuel` bounds the depth. -/
def visit (m : Manner) (e : Expression) (fuel : Nat) (around : List (List String × String))
    (i : Item) : Visit Unit := do
  match fuel with
  | 0 => return ()
  | fuel + 1 =>
    if (← get).ended then return ()
    let follows : Bool := m.settings.links == 'L' || (m.settings.links == 'H' && i.depth == 0)
    let s ← act get
    let isDirectory : Bool := match i.node with
      | .directory _ | .closed true _ => true
      | _ => false
    let here := match s.disk.locate follows s.cwd (State.path i.path) with
      | .ok (place, _) => place
      | .error _ => []
    match if isDirectory then around.lookup here else none with
    | some other =>
      fail ("File system loop detected; " ++ quotedFile i.path ++
        " is part of the same file system loop as " ++ quotedFile other ++ ".")
    | none =>
      modify fun w => { w with pruned := false }
      let look : Visit Unit := do
        if m.settings.least ≤ i.depth then
          let _ ← e.test m i
      if !m.settings.depthFirst then look
      let enters : Bool := isDirectory && (m.settings.depthFirst || !(← get).pruned) &&
        m.settings.most.all (i.depth < ·) && !(← get).ended
      if enters then
        match nodeAt (← act get) follows i.path with
        | .ok (.directory entries) =>
          entries.forM fun (name, _) => do
            let name := Octets.ofText name
            let path := if i.path.endsWith "/" then i.path ++ name else i.path ++ "/" ++ name
            match nodeAt (← act get) (m.settings.links == 'L') path with
            | .ok node =>
              visit m e fuel ((here, i.path) :: around) ⟨path, i.start, i.depth + 1, node⟩
            | .error _ => pure ()
        | .ok (.closed _ e) | .error e => fail (quotedFile i.path ++ ": " ++ cause e)
        | .ok _ => pure ()
      if m.settings.depthFirst then look

/-- Depth of directories that are entered. -/
def maxDepth : Nat := 1000

/-- Walks from an operand. -/
def walkFrom (m : Manner) (e : Expression) (operand : String) : Visit Unit := do
  match nodeAt (← act get) (m.settings.links != 'P') operand with
  | .ok node => visit m e maxDepth [] ⟨operand, operand, 0, node⟩
  | .error e =>
    if !(← get).ended then fail (quotedFile operand ++ ": " ++ cause e)

end PlaybookScan.Shell.Find

namespace PlaybookScan.Shell.Utility

open Find in
/-- Looks for files. -/
def find (host : Host) : Utility := fun args => do
  let refuse (message : String) : StateM State Nat := do
    complain message
    return 1
  -- options of the walk stand before everything else
  let leading := args.takeWhile fun a =>
    ["-H", "-L", "-P", "--"].contains a || (a.startsWith "-O" && a.length > 2)
  let rest := args.drop leading.length
  let operands := rest.takeWhile fun a => !isExpression true a
  let words := rest.drop operands.length
  let links := ((leading.filter fun a => a.length == 2 && a != "--").getLast?.bind
    fun a => a.toList[1]?).getD 'P'
  if words.head? = some "-D" then
    if words.length < 2 then
      complain "Missing argument after the -D option."
      hint
      return 1
  if words.any fun w => w = "--version" ∨ w = "-version" then
    writeLine "find (GNU findutils) 4.9.0"
    return 0
  let start : Find.Reading :=
    { settings := ⟨links, 0, none, false, false, .emacs, false⟩, tokens := [], acts := false
      deletes := false, prunes := false, asksDepth := false, commands := 0, warnings := []
      last := "" }
  let s ← get
  match Find.read s (words.length + 1) start words with
  | .error message => refuse message
  | .ok r =>
    r.warnings.forM complain
    let tokens := r.tokens.reverse
    let expression := if tokens = [] then .ok (Find.Expression.primary (.print '\n' .output))
      else if r.acts then Find.expression false tokens
      else (Find.expression true tokens).map fun e => .both e (.primary (.print '\n' .output))
    match expression with
    | .error message => refuse message
    | .ok e =>
      if r.deletes ∧ r.prunes ∧ !r.asksDepth then
        return ← refuse ("The -delete action automatically turns on -depth, but -prune does " ++
          "nothing when -depth is in effect.  If you want to carry on anyway, just explicitly " ++
          "use the -depth option.")
      let files := tokens.filterMap fun
        | .primary (.print _ (.file name)) | .primary (.format _ (.file name))
        | .primary (.list (.file name)) => some name
        | _ => none
      let fault ← files.foldlM (fun fault name => do
        match fault with
        | some fault => return some fault
        | none => match ← openOutput false name with
          | .ok _ => return none
          | .error e => return some (name, e)) none
      match fault with
      | some (name, e) => refuse (quotedFile name ++ ": " ++ cause e)
      | none =>
        let m : Find.Manner := ⟨host, r.settings⟩
        let walk : Visit Unit := do
          (if operands = [] then ["."] else operands).forM (walkFrom m e)
          ((← get).pending.reverse).forM fun (_, o, directory, names) =>
            runPending m o directory names
        let (_, w) ← walk.run ⟨false, false, false, []⟩
        return if w.failed then 1 else 0

end PlaybookScan.Shell.Utility

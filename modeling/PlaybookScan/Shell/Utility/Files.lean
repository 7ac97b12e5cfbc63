import PlaybookScan.Shell.Builtin.Directory
import PlaybookScan.Shell.Utility.Calendar

/-!
# Programs on files
-/

set_option autoImplicit false

namespace PlaybookScan.Shell.Utility

/-! ## Making and removing -/

mutual

/-- What is said of all that is removed with something, the thing itself last. -/
def removals (place : String) : Node → List String
  | .directory entries =>
    removalsBelow place entries ++ ["removed directory " ++ quotedFile place]
  | _ => ["removed " ++ quotedFile place]

def removalsBelow (place : String) : List (String × Node) → List String
  | [] => []
  | (name, node) :: entries =>
    removals (place ++ "/" ++ Octets.ofText name) node ++ removalsBelow place entries

end

/-- What questions call a thing. -/
def kindOf : Node → String
  | .directory _ => "directory"
  | .link _ => "symbolic link"
  | .file [] _ => "regular empty file"
  | .device _ => "character special file"
  | _ => "regular file"

/-- Asks on the error output, and tells whether the next line of the input agrees. -/
def agreed (question : String) : StateM State Bool := do
  let s ← get
  let s := s.writeText 2 (s.name ++ ": " ++ question ++ "? ")
  let (answer, s) := s.readLine 0
  set s
  let answer := (answer.map Prod.fst).getD []
  return answer.head? = some 'y' || answer.head? = some 'Y'

/-- The slashes at the end of a name do not count. -/
def bareName (operand : String) : String :=
  let cs := operand.toList
  let bare := (cs.reverse.dropWhile (· == '/')).reverse
  if bare = [] then String.ofList (cs.take 1) else String.ofList bare

def rm : Utility :=
  withOptions (.of "fiIrRdvπν" [("force", 'f'), ("recursive", 'r'), ("dir", 'd'),
    ("verbose", 'v'), ("preserve-root", 'π'), ("no-preserve-root", 'ν')]) 1 fun a => do
    let asks := ((a.options.map Prod.fst).filter fun c => c == 'f' || c == 'i').getLast?
    let force := asks = some 'f'
    let recursive := a.has 'r' || a.has 'R'
    if a.operands = [] then
      if a.has 'f' then return 0 else misuse 1 "missing operand"
    else
      a.operands.foldlM (fun status operand => do
        let refuse (message : String) : StateM State Nat := do
          complain message
          return 1
        let s ← get
        let place := bareName operand
        let name := (place.toList.reverse).takeWhile (· != '/')
        let failed (e : IoError) : StateM State Nat :=
          if force ∧ (e = .noSuchFile ∨ e = .notADirectory) then return status
          else refuse ("cannot remove " ++ quotedFile operand ++ ": " ++ cause e)
        match s.itself operand with
        | .error e => failed e
        | .ok node =>
          let isDirectory : Bool := match node with
            | .directory _ | .closed true _ => true
            | _ => false
          if isDirectory ∧ recursive ∧ place = "/" ∧ !a.has 'ν' then
            complain "it is dangerous to operate recursively on '/'"
            return ← refuse "use --no-preserve-root to override this failsafe"
          if isDirectory ∧ recursive ∧ (name = ['.'] ∨ name = ['.', '.']) then
            return ← refuse
              ("refusing to remove '.' or '..' directory: skipping " ++ quotedFile operand)
          let isEmpty : Bool := match node with
            | .directory entries => entries.isEmpty
            | _ => true
          if isDirectory ∧ !recursive then
            if !a.has 'd' then return ← failed .isADirectory
            if !isEmpty then return ← failed (.system 39)
          if asks = some 'i' then
            if !(← agreed ("remove " ++ kindOf node ++ " " ++ quotedFile operand)) then
              return status
          match s.disk.remove s.cwd (State.path place) with
          | .error e => failed e
          | .ok disk =>
            modify fun s => { s with disk }
            if a.has 'v' then (removals place node).forM writeLine
            return status) 0

/-- The directories on the way to `p`, and `p` itself. -/
def ways (p : Path) : List Path :=
  (List.range p.components.length).map fun n => Path.ofComponents (p.components.take (n + 1))

/-- Removes an empty directory. -/
def removeEmpty (s : State) (p : Path) : Except IoError Disk := do
  match ← s.disk.locate false s.cwd p with
  | (_, some (.directory [])) => s.disk.remove s.cwd p
  | (_, some (.directory _)) => throw (.system 39)
  | (_, some _) => throw .notADirectory
  | (_, none) => throw .noSuchFile

def rmdir : Utility :=
  withOptions (.of "pvι" [("parents", 'p'), ("verbose", 'v'),
    ("ignore-fail-on-non-empty", 'ι')]) 1 fun a => do
    if a.operands = [] then return ← misuse 1 "missing operand"
    a.operands.foldlM (fun status operand => do
      let places := if a.has 'p' then
          (ways (State.path operand)).reverse.map fun p => Octets.ofText p.text
        else [operand]
      let (status, _) ← places.foldlM (fun ((status, goesOn) : Nat × Bool) place => do
        if !goesOn then return (status, false)
        if a.has 'v' then writeLine ("rmdir: removing directory, " ++ quotedFile place)
        let s ← get
        match removeEmpty s (State.path place) with
        | .ok disk => set { s with disk }; return (status, true)
        | .error e =>
          if a.has 'ι' ∧ e = .system 39 then return (status, false)
          let what := if place = operand then "" else "directory "
          complain ("failed to remove " ++ what ++ quotedFile place ++ ": " ++ cause e)
          return (1, false)) ((status, true) : Nat × Bool)
      return status) 0

/-- Permissions behind a mode that is a number or changes of `old`. -/
def modeAfter? (old : Nat) (mode : String) : Option Nat :=
  if mode ≠ "" ∧ mode.toList.all fun c => '0' ≤ c && c ≤ '7' then
    let n := Printf.number 8 mode.toList
    if n < 0o10000 then some n else none
  else Builtin.symbolicMode? old mode

def mkdir : Utility :=
  withOptions (.of "m:pvZ" [("mode", 'm'), ("parents", 'p'), ("verbose", 'v')]) 1 fun a => do
    if a.operands = [] then return ← misuse 1 "missing operand"
    match (a.value? 'm').filter fun m => (modeAfter? 0o777 m).isNone with
    | some mode => complain ("invalid mode " ++ quoted mode); return 1
    | none =>
    a.operands.foldlM (fun status operand => do
      let ways := (ways (State.path operand)).map fun p => Octets.ofText p.text
      let places := if a.has 'p' ∧ ways ≠ [] then ways else [operand]
      let (status, _) ← places.foldlM (fun ((status, goesOn) : Nat × Bool) place => do
        let s ← get
        let p := State.path place
        if !goesOn ∨ (a.has 'p' ∧ s.disk.isDirectory s.cwd p) then return (status, goesOn)
        match s.disk.putNew s.cwd (State.path (bareName place)) (.directory []) with
        | .ok disk =>
          set { s with disk }
          if a.has 'v' then writeLine ("mkdir: created directory " ++ quotedFile place)
          return (status, true)
        | .error e =>
          let e := if e = .system 17 ∧ place ≠ places.getLastD "" then .notADirectory else e
          complain ("cannot create directory " ++ quotedFile place ++ ": " ++ cause e)
          return (1, false)) ((status, true) : Nat × Bool)
      return status) 0

/-- Twelve digits of a moment, of which the year may have two or none, and the seconds behind a
point. -/
def isStamp (text : String) : Bool :=
  let cs := text.toList
  let ds := cs.takeWhile Char.isDigit
  let seconds := cs.drop ds.length
  let part (back : Nat) : Nat := Printf.number 10 ((ds.drop (ds.length - back)).take 2)
  [8, 10, 12].contains ds.length && 1 ≤ part 8 && part 8 ≤ 12 && 1 ≤ part 6 && part 6 ≤ 31 &&
    part 4 ≤ 23 && part 2 ≤ 59 && (match seconds with
      | [] => true
      | '.' :: es => es.length == 2 && es.all Char.isDigit && Printf.number 10 es ≤ 60
      | _ => false)

def touch : Utility :=
  withOptions (.of "acd:fhmr:t:τ:" [("no-create", 'c'), ("date", 'd'), ("no-dereference", 'h'),
    ("reference", 'r'), ("time", 'τ')]) 1 fun a => do
    let s ← get
    let wrong : Option String := a.options.findSome? fun (c, v) => match c with
      | 'd' => if (Calendar.moment? (Calendar.now s) v).isSome then none
        else some ("invalid date format " ++ quoted v)
      | 't' => if isStamp v then none else some ("invalid date format " ++ quoted v)
      | 'r' => match s.disk.node s.cwd (State.path v) with
        | .ok _ => none
        | .error e => some ("failed to get attributes of " ++ quotedFile v ++ ": " ++ cause e)
      | _ => none
    match wrong with
    | some message => complain message; return 1
    | none =>
    if a.operands = [] then return ← misuse 1 "missing file operand"
    a.operands.foldlM (fun status operand => do
      let s ← get
      let p := State.path operand
      let refuse (what : String) (e : IoError) : StateM State Nat := do
        complain (what ++ " " ++ quotedFile operand ++ ": " ++ cause e)
        return 1
      match s.disk.node s.cwd p with
      | .ok _ => return status
      | .error e =>
        if a.has 'c' then return status
        if e = .noSuchFile then
          if operand.endsWith "/" then return ← refuse "cannot touch" .isADirectory
          match s.disk.put s.cwd p (.file [] s.newMode) with
          | .ok disk => set { s with disk }; return status
          | .error e => refuse "cannot touch" e
        else if e = .notADirectory ∧ operand.endsWith "/" then refuse "setting times of" e
        else refuse "cannot touch" e) 0

/-- Makes a file or a directory with a new name, and writes the name. -/
def mktemp : Utility :=
  withOptions (.of "dp:qtu" [("directory", 'd'), ("tmpdir", 'p'), ("quiet", 'q')]) 1 fun a => do
    let s ← get
    let template := a.operands.headD "tmp.XXXXXXXXXX"
    let stem := (template.toList.reverse.dropWhile (· == 'X')).reverse
    let size := template.length - stem.length
    if size < 3 then
      complain ("too few X's in template " ++ quoted template)
      return 1
    let digits := Nat.toDigits 36 (s.nextPid * 1679616 + s.clock)
    let digits := (List.replicate (size - digits.length) 'k' ++ digits).drop (digits.length - size)
    let name := String.ofList (stem ++ digits.map fun c => if c = '*' then 'Z' else c)
    let place := match a.operands, a.value? 'p' with
      | [], none => "/tmp/" ++ name
      | _, some dir => dir ++ "/" ++ name
      | _, none => name
    let node := if a.has 'd' then Node.directory [] else .file [] 0o600
    match s.disk.putNew s.cwd (State.path place) node with
    | .ok disk =>
      set { s with disk, nextPid := s.nextPid + 1 }
      writeLine place
      return 0
    | .error e =>
      complain ("failed to create file via template " ++ quoted template ++ ": " ++ cause e)
      return 1

/-! ## Copying and moving -/

/-- The place for something called as the last name of `source`, in the directory `target`. -/
def within (source target : String) : String :=
  match (State.path source).components.getLast? with
  | some c => (if target.endsWith "/" then target else target ++ "/") ++ Octets.ofText c.text
  | none => target

/-- Two paths lead to the same place. -/
def samePlace (s : State) (a b : String) : Bool :=
  match s.disk.locate true s.cwd (State.path a), s.disk.locate true s.cwd (State.path b) with
  | .ok (x, some _), .ok (y, some _) => x == y
  | _, _ => false

/-- The place `b` is below the place `a`. -/
def isBelow (s : State) (a b : String) : Bool :=
  match s.disk.locate true s.cwd (State.path a), s.disk.locate true s.cwd (State.path b) with
  | .ok (x, _), .ok (y, _) => x.isPrefixOf y
  | _, _ => false

/-- Pairs of what is to be transferred and where, or a status after a complaint. `named` is the
option that names the directory, `exact` says that the last operand is no directory to put things
into. -/
def destinations (operands : List String) (directory : Option String) (exact : Bool) :
    StateM State (Except Nat (List (String × String))) := do
  let s ← get
  let isDirectory (x : String) : Bool := s.disk.isDirectory s.cwd (State.path x)
  let refused (target : String) : String := match s.disk.node s.cwd (State.path target) with
    | .ok _ => cause .notADirectory
    | .error e => cause e
  match directory, operands, operands.getLast? with
  | _, [], _ => return .error (← misuse 1 "missing file operand")
  | some target, operands, _ =>
    if exact then
      return .error (← misuse 1
        "cannot combine --target-directory (-t) and --no-target-directory (-T)")
    if isDirectory target then return .ok (operands.map fun x => (x, within x target))
    complain ("target directory " ++ quotedFile target ++ ": " ++ refused target)
    return .error 1
  | none, [only], _ =>
    return .error (← misuse 1 ("missing destination file operand after " ++ quotedFile only))
  | none, _, none => return .ok []
  | none, operands, some target =>
    if exact then
      match operands with
      | [x, y] => return .ok [(x, y)]
      | _ =>
        return .error (← misuse 1 ("extra operand " ++ quotedFile (operands.getD 2 "")))
    if isDirectory target then
      return .ok (operands.dropLast.map fun x => (x, within x target))
    if 2 < operands.length then
      complain ("target " ++ quotedFile target ++ ": " ++ refused target)
      return .error 1
    return .ok [(operands.headD "", target)]

/-- Carries out `act` on each pair. -/
def forPairs (pairs : Except Nat (List (String × String)))
    (act : String → String → StateM State Nat) : StateM State Nat :=
  match pairs with
  | .error status => return status
  | .ok pairs => pairs.foldlM (fun status (x, y) => return max status (← act x y)) 0

/-- How things are copied. -/
structure Copier where
  /-- Directories are copied with all that is in them. -/
  whole : Bool
  keepsLinks : Bool
  spares : Bool
  asks : Bool
  tells : Bool
  symbolic : Bool

/-- Says why something cannot be done with a path. -/
def because (what path : String) (e : IoError) : StateM State Nat := do
  complain (what ++ " " ++ quotedFile path ++ ": " ++ cause e)
  return 1

/-- Carries out a change, and tells of it. -/
def Copier.carryOut (k : Copier) (source target what : String) (found : Except IoError Disk) :
    StateM State Nat := do
  match found with
  | .ok disk =>
    modify fun s => { s with disk }
    if k.tells then writeLine (quotedFile source ++ " -> " ++ quotedFile target)
    return 0
  | .error e => because what target e

/-- Copies what is no directory. -/
def Copier.leaf (k : Copier) (source target : String) (node : Node) : StateM State Nat := do
  let s ← get
  let p := State.path target
  let create := k.carryOut source target "cannot create regular file"
  match s.disk.node s.cwd p, s.itself target with
  | .ok (.directory _), _ =>
    complain ("cannot overwrite directory " ++ quotedFile target ++ " with non-directory")
    return 1
  | .error .noSuchFile, .ok (.link _) =>
    complain ("not writing through dangling symlink " ++ quotedFile target)
    return 1
  | found, _ =>
    let exists_ := found.toBool
    if exists_ ∧ k.spares then return 0
    if exists_ ∧ k.asks then
      if !(← agreed ("overwrite " ++ quotedFile target)) then return 1
    let s ← get
    if k.symbolic then
      return ← k.carryOut source target "cannot create symbolic link"
        (s.disk.putNew s.cwd p (.link (State.path source).text))
    match node with
    | .file content mode =>
      if target.endsWith "/" then create (.error .notADirectory)
      else create (s.disk.writeFile s.cwd p (mode - (mode &&& s.mask)) false content)
    | .link _ =>
      let disk := match s.disk.remove s.cwd p with
        | .ok disk => disk
        | .error _ => s.disk
      k.carryOut source target "cannot create symbolic link" (disk.putNew s.cwd p node)
    | node => create (s.disk.put s.cwd p node)

mutual

/-- Copies something to a place. -/
def Copier.node (k : Copier) (source target : String) : Node → StateM State Nat
  | .directory entries => do
    let s ← get
    let p := State.path target
    match s.disk.node s.cwd p with
    | .ok (.directory _) => k.entries source target entries
    | .ok _ =>
      complain ("cannot overwrite non-directory " ++ quotedFile target ++ " with directory " ++
        quotedFile source)
      return 1
    | .error _ =>
      match ← k.carryOut source target "cannot create directory"
          (s.disk.putNew s.cwd (State.path (bareName target)) (.directory [])) with
      | 0 => k.entries source target entries
      | status => return status
  | node => k.leaf source target node

def Copier.entries (k : Copier) (source target : String) :
    List (String × Node) → StateM State Nat
  | [] => return 0
  | (name, node) :: rest => do
    let name := Octets.ofText name
    let join (dir : String) : String := if dir.endsWith "/" then dir ++ name else dir ++ "/" ++ name
    let status ← k.node (join source) (join target) node
    return max status (← k.entries source target rest)

end

def cp : Utility :=
  withOptions (.of "abdfHiLlnpPrRsS:t:Tuvxπ" [("recursive", 'r'), ("archive", 'a'),
    ("force", 'f'), ("verbose", 'v'), ("no-dereference", 'P'), ("dereference", 'L'),
    ("no-clobber", 'n'), ("interactive", 'i'), ("link", 'l'), ("symbolic-link", 's'),
    ("target-directory", 't'), ("no-target-directory", 'T'), ("update", 'u'),
    ("parents", 'π')]) 1 fun a => do
    let whole := a.has 'r' || a.has 'R' || a.has 'a'
    let keepsLinks := (whole && !a.has 'L' && !a.has 'H') || a.has 'P' || a.has 'd'
    let k : Copier :=
      ⟨whole, keepsLinks, a.has 'n' || a.has 'u', a.has 'i' && !a.has 'n', a.has 'v', a.has 's'⟩
    let pairs ← destinations a.operands (a.value? 't') (a.has 'T')
    let target := (a.value? 't').getD (a.operands.getLastD "")
    if a.has 'π' ∧ pairs.toBool ∧ !(← get).disk.isDirectory (← get).cwd (State.path target) then
      return ← misuse 1 "with --parents, the destination must be a directory"
    forPairs pairs fun source place => do
      let s ← get
      let place := if a.has 'π' then
          (if target.endsWith "/" then target else target ++ "/") ++ bareName source
        else place
      let found := if keepsLinks then s.itself source
        else s.disk.node s.cwd (State.path source)
      match found with
      | .error e => because "cannot stat" source e
      | .ok node =>
        if a.has 'π' then
          let parents := (ways (State.path place)).dropLast
          let disk := parents.foldl (fun disk q => match disk.putNew s.cwd q (.directory []) with
            | .ok disk => disk
            | .error _ => disk) s.disk
          set { s with disk }
        let isDirectory : Bool := node matches .directory _
        if isDirectory ∧ !whole then
          complain ("-r not specified; omitting directory " ++ quotedFile source)
          return 1
        if samePlace s source place ∧ !isDirectory then
          complain (quotedFile source ++ " and " ++ quotedFile place ++ " are the same file")
          return 1
        if isDirectory ∧ isBelow s source place then
          complain ("cannot copy a directory, " ++ quotedFile source ++ ", into itself, " ++
            quotedFile place)
          return 1
        k.node source place node

def mv : Utility :=
  withOptions (.of "bfinS:t:Tuv" [("force", 'f'), ("interactive", 'i'), ("verbose", 'v'),
    ("no-clobber", 'n'), ("target-directory", 't'), ("no-target-directory", 'T'),
    ("update", 'u')]) 1 fun a => do
    let asks := ((a.options.map Prod.fst).filter fun c => "fin".contains c).getLast?
    forPairs (← destinations a.operands (a.value? 't') (a.has 'T')) fun source place => do
      let s ← get
      let refuse (message : String) : StateM State Nat := do
        complain message
        return 1
      match s.itself source with
      | .error e => because "cannot stat" source e
      | .ok node =>
        let isDirectory : Bool := node matches .directory _
        let target := s.itself place
        let ontoDirectory : Bool := target matches .ok (.directory _)
        if samePlace s source place ∧ !isDirectory then
          return ← refuse
            (quotedFile source ++ " and " ++ quotedFile place ++ " are the same file")
        if isDirectory ∧ isBelow s source place then
          return ← refuse ("cannot move " ++ quotedFile source ++
            " to a subdirectory of itself, " ++ quotedFile place)
        if target.toBool then
          if asks = some 'n' ∨ a.has 'u' then return 0
          if isDirectory ∧ !ontoDirectory then
            return ← refuse ("cannot overwrite non-directory " ++ quotedFile place ++
              " with directory " ++ quotedFile source)
          if !isDirectory ∧ ontoDirectory then
            return ← refuse ("cannot overwrite directory " ++ quotedFile place ++
              " with non-directory")
          if !(target matches .ok (.directory [])) ∧ ontoDirectory then
            return ← because "cannot overwrite" place (.system 39)
          if asks = some 'i' then
            if !(← agreed ("overwrite " ++ quotedFile place)) then return 0
        let s ← get
        let moved : Except IoError Disk := do
          if place.endsWith "/" ∧ !isDirectory ∧ !target.toBool then throw .notADirectory
          let q := State.path (bareName place)
          let disk ← s.disk.remove s.cwd (State.path (bareName source))
          let disk := match disk.remove s.cwd q with
            | .ok disk => disk
            | .error _ => disk
          disk.putNew s.cwd q node
        match moved with
        | .ok disk =>
          set { s with disk }
          if a.has 'v' then
            writeLine ("renamed " ++ quotedFile source ++ " -> " ++ quotedFile place)
          return 0
        | .error e => because ("cannot move " ++ quotedFile source ++ " to") place e

/-- The path of `target` as it is seen from the directory in which `place` is. -/
def relativeTo (s : State) (target place : String) : Option String := do
  let find (p : Path) : Option (List String) := match s.disk.locate true s.cwd p with
    | .ok (names, _) => some names
    | .error _ => none
  let base := (State.path place).parent
  let from_ ← find (if base.isEmpty then ⟨"."⟩ else base)
  let to_ ← find (State.path target)
  let common := ((from_.zip to_).takeWhile fun (x, y) => x == y).length
  let names := List.replicate (from_.length - common) ".." ++ to_.drop common
  return if names = [] then "." else Octets.ofText ("/".intercalate names)

def ln : Utility :=
  withOptions (.of "bfinPrsS:Tt:vL" [("symbolic", 's'), ("force", 'f'), ("no-dereference", 'n'),
    ("relative", 'r'), ("verbose", 'v'), ("target-directory", 't'), ("interactive", 'i'),
    ("no-target-directory", 'T')]) 1 fun a => do
    let s ← get
    let operands := a.operands
    let last := operands.getLastD ""
    let intoLast : Bool := match s.itself last with
      | .ok (.link _) => !a.has 'n' && s.disk.isDirectory s.cwd (State.path last)
      | .ok node => node.isDirectory
      | .error _ => false
    let pairs ← match operands, a.value? 't' with
      | [only], none =>
        if a.has 'T' then
          pure (.error (← misuse 1 ("missing destination file operand after " ++ quotedFile only)))
        else pure (.ok [(only, within only ".")])
      | [x, y], none => pure (.ok [(x, if intoLast && !a.has 'T' then within x y else y)])
      | operands, directory => destinations operands directory (a.has 'T')
    let kind := if a.has 's' then "symbolic link " else "hard link "
    let trim (path : String) : String :=
      if path.startsWith "./" then String.ofList (path.toList.drop 2) else path
    forPairs pairs fun target place => do
      let place := trim place
      let s ← get
      let p := State.path place
      let refuse (message : String) : StateM State Nat := do
        complain message
        return 1
      let original := s.itself target
      if !a.has 's' then
        match original with
        | .error e =>
          return ← refuse ("failed to access " ++ quotedFile target ++ ": " ++ cause e)
        | .ok (.directory _) =>
          return ← refuse (quotedFile target ++ ": hard link not allowed for directory")
        | .ok _ => pure ()
      let exists_ := (s.itself place).toBool
      if exists_ ∧ a.has 'f' ∧ samePlace s target place ∧ !a.has 's' then
        return ← refuse
          (quotedFile target ++ " and " ++ quotedFile place ++ " are the same file")
      if exists_ ∧ a.has 'i' ∧ !a.has 'f' then
        if !(← agreed ("replace " ++ quotedFile place)) then return 1
      let s ← get
      if (s.itself place matches .ok (.directory _)) ∧ (a.has 'f' ∨ a.has 'i') then
        return ← refuse (quotedFile place ++ ": cannot overwrite directory")
      let disk := if a.has 'f' ∨ a.has 'i' then
          match s.disk.remove s.cwd p with
          | .ok disk => disk
          | .error _ => s.disk
        else s.disk
      let text := if a.has 'r' then (relativeTo s target place).getD target else target
      let made : Except IoError Disk := do
        if a.has 's' then
          if text = "" then throw .noSuchFile
          disk.putNew s.cwd p (.link (State.path text).text)
        else disk.putNew s.cwd p (← original)
      match made with
      | .ok disk =>
        set { s with disk }
        if a.has 'v' then
          let arrow := if a.has 's' then " -> " else " => "
          writeLine (quotedFile place ++ arrow ++ quotedFile text)
        return 0
      | .error e =>
        let exists_ := e = .system 17
        let detail := if a.has 's' ∨ exists_ then "" else " => " ++ quotedFile target
        let detail := if a.has 's' ∧ text = "" then " -> ''" else detail
        refuse ("failed to create " ++ kind ++ quotedFile place ++ detail ++ ": " ++ cause e)

end PlaybookScan.Shell.Utility

import PlaybookScan.Shell.Builtin.Basic

/-!
# The working directory

A shell keeps the path by which it came to its directory. Without other wishes, a step upwards takes
the last name off that path, also where that name is a link.
-/

set_option autoImplicit false

namespace PlaybookScan.Shell

/-- The path of the working directory without any links. -/
def State.physical (s : State) : Path :=
  match s.disk.locate true s.cwd ⟨"."⟩ with
  | .ok (place, _) => ⟨"/" ++ "/".intercalate place⟩
  | .error _ => s.cwd

namespace Builtin

/-- The names on a path, last first, behind the names `done`. A step upwards takes the last one. -/
def climb (done : List (List Char)) : List (List Char) → List (List Char)
  | [] => done
  | name :: names =>
    if name = [] ∨ name = ['.'] then climb done names
    else if name = ['.', '.'] then climb done.tail names
    else climb (name :: done) names

/-- The path that leads to `target` from the directory `cwd`, without dots. -/
def lexical (cwd target : String) : String :=
  let cs := target.toList
  let source := if cs.head? = some '/' then cs
    else if cwd.endsWith "/" then cwd.toList ++ cs
    else cwd.toList ++ '/' :: cs
  let double : Bool := match source with
    | '/' :: '/' :: '/' :: _ => false
    | '/' :: '/' :: _ => true
    | _ => false
  let names := (climb [] (source.splitOn '/')).reverse
  String.ofList ((if double then ['/', '/'] else ['/']) ++ ['/'].intercalate names)

/-- Goes to a directory; `none` if that fails. -/
def goTo (s : State) (physical : Bool) (target : String) : Option State :=
  let old := Octets.ofText s.cwd.text
  let path := if physical then target else lexical old target
  match s.disk.locate true s.cwd (State.path path) with
  | .ok (_, some (.directory _)) =>
    let t := { s with cwd := s.cwd.join (State.path path) }
    let t := if physical then { t with cwd := t.physical } else t
    let t := (t.assign "OLDPWD" old).assign "PWD" (Octets.ofText t.cwd.text)
    some { (t.exportVariable "OLDPWD").exportVariable "PWD" with
      hashed := t.hashed.map fun (name, place) =>
        (name, if place.endsWith "*" then place else place ++ "*") }
  | _ => none

/-- A path that is not looked for in other directories. -/
def isFixed (target : String) : Bool :=
  match target.toList with
  | [] | '/' :: _ | ['.'] | ['.', '.'] | '.' :: '/' :: _ | '.' :: '.' :: '/' :: _ => true
  | _ => false

/-- Where a directory is found that is looked for, and whether that has to be said. -/
def found? (s : State) (target : String) : Option (String × Bool) :=
  match s.valueOf? "CDPATH" with
  | none => none
  | some searched =>
    (searched.toList.splitOn ':').findSome? fun dir =>
      let place := if dir = [] then target else String.ofList dir ++ "/" ++ target
      if s.disk.isDirectory s.cwd (State.path place) then some (place, !dir.isEmpty) else none

def cd : Builtin := withOptions "cd" "LP" fun options args s =>
  let physical := options.getLast? = some 'P'
  let back := args.head? = some "-"
  let target := if back then (s.valueOf? "OLDPWD").getD ""
    else args.headD ((s.valueOf? "HOME").getD "")
  let (place, shown) : String × Bool := if isFixed target then (target, back)
    else match found? s target with
      | some (place, shown) => (place, shown || back)
      | none => (target, back)
  match goTo s physical (if place = "" then "." else place) with
  | some s => done 0 (if shown then s.writeText 1 (Octets.ofText s.cwd.text ++ "\n") else s)
  | none => fail "cd" ("can't cd to " ++ target) s

def pwd : Builtin := withOptions "pwd" "LP" fun options _ s =>
  let place := if options.getLast? = some 'P' then s.physical else s.cwd
  done 0 (s.writeText 1 (Octets.ofText place.text ++ "\n"))

/-! ## Permissions of new files -/

/-- The bits of the classes of users that letters name, all if there are none. -/
def classBits (letters : List Char) : Nat :=
  letters.foldl (fun bits c => bits ||| match c with
    | 'u' => 0o700
    | 'g' => 0o070
    | 'o' => 0o007
    | _ => 0o777) 0

/-- The permissions that letters name, in all classes. The letter of a class stands for those that
`mode` gives it. -/
def permissionBits (mode : Nat) (letters : List Char) : Nat :=
  letters.foldl (fun bits c => bits ||| match c with
    | 'r' => 0o444
    | 'w' => 0o222
    | 'x' => 0o111
    | 'X' => if mode &&& 0o111 = 0 then 0 else 0o111
    | 'u' => (mode / 64 % 8) * 0o111
    | 'g' => (mode / 8 % 8) * 0o111
    | 'o' => (mode % 8) * 0o111
    | _ => 0) 0

/-- Changes permissions by signs with letters behind them; `fuel` bounds their number. -/
def changeMode (who : Nat) (fuel mode : Nat) (cs : List Char) : Option Nat :=
  match fuel, cs with
  | _, [] => some mode
  | 0, _ => none
  | fuel + 1, sign :: cs =>
    let letters := cs.takeWhile "rwxXstugo".toList.contains
    let bits := permissionBits mode letters &&& who
    let rest := cs.drop letters.length
    match sign with
    | '+' => changeMode who fuel (mode ||| bits) rest
    | '-' => changeMode who fuel (mode - (mode &&& bits)) rest
    | '=' => changeMode who fuel (mode - (mode &&& who) ||| bits) rest
    | _ => none

/-- Permissions after the changes that a text with commas asks for. -/
def symbolicMode? (mode : Nat) (text : String) : Option Nat :=
  let clauses := text.toList.splitOn ','
  let whoOf (clause : List Char) := clause.takeWhile "ugoa".toList.contains
  if clauses.dropLast.any fun clause => whoOf clause == clause then none
  else clauses.foldlM (fun mode clause =>
    let who := whoOf clause
    let actions := clause.drop who.length
    changeMode (if who = [] then 0o777 else classBits who) actions.length mode actions) mode

/-- The letters of permissions. -/
def modeLetters (mode : Nat) : String :=
  let part (bits : Nat) : String :=
    (if bits / 4 % 2 = 1 then "r" else "") ++ (if bits / 2 % 2 = 1 then "w" else "") ++
      (if bits % 2 = 1 then "x" else "")
  "u=" ++ part (mode / 64) ++ ",g=" ++ part (mode / 8) ++ ",o=" ++ part mode

def umask : Builtin := withOptions "umask" "S" fun options args s =>
  match args with
  | [] =>
    let digits := String.ofList (Nat.toDigits 8 s.mask)
    let shown := if options ≠ [] then modeLetters (0o777 - s.mask)
      else "".pushn '0' (4 - digits.length) ++ digits
    done 0 (s.writeText 1 (shown ++ "\n"))
  | text :: _ =>
    if (text.toList.head?.map Char.isDigit).getD false then
      if text.toList.all fun c => c.isDigit && c.toNat < 56 then
        let mask := text.toList.foldl (fun n c => 8 * n + (c.toNat - 48)) 0
        done 0 { s with mask := mask % 0o1000 }
      else fail "umask" ("Illegal number: " ++ text) s
    else match symbolicMode? (0o777 - s.mask) text with
      | some mode => done 0 { s with mask := 0o777 - mode }
      | none => fail "umask" ("Illegal mode: " ++ text) s

end Builtin

end PlaybookScan.Shell

import PlaybookScan.Shell.Expand

/-!
# Redirections

The targets of redirections are expanded first; then files are opened and descriptors changed in
the order of the redirections.
-/

set_option autoImplicit false

namespace PlaybookScan.Shell

/-- The shell's words for why a file cannot be opened. -/
def openingFault (action missing : String) (path : String) (e : IoError) : String :=
  let cause := match e with
    | .system 2 | .system 20 => missing
    | .system n => IoError.systemText n
    | .other text => text
  action ++ " " ++ path ++ ": " ++ cause

namespace State

/-- Opens a file to be read. -/
def openInput (s : State) (descriptor : Nat) (path : String) : Except IoError State :=
  match s.disk.node s.cwd (State.path path) with
  | .ok (.device .zero) => .ok (s.open_ descriptor .zero)
  | .ok (.device .null) => .ok (s.open_ descriptor .null)
  | .ok (.file content _) =>
    let (n, s) := s.addInput ⟨Octets.ofBytes content, [], s.clock, true⟩
    .ok (s.open_ descriptor (.input n))
  | .ok (.closed _ e) => .error e
  | .ok (.directory _) => .ok (s.open_ descriptor .directory)
  | .ok _ =>
    let (n, s) := s.newInput [] s.clock
    .ok (s.open_ descriptor (.input n))
  | .error e => .error e

/-- Opens a file to be written. -/
def openOutput (s : State) (descriptor : Nat) (kind : RedirectKind) (path : String) :
    Except IoError State :=
  match s.disk.node s.cwd (State.path path) with
  | .ok (.device _) => .ok (s.open_ descriptor .null)
  | found =>
    let isFile : Bool := match found with
      | .ok (.file ..) => true
      | _ => false
    if kind = .write ∧ isFile ∧ s.options.contains 'C' then .error (.system 17)
    else
      let append := kind = .append || kind = .readWrite
      match s.disk.writeFile s.cwd (State.path path) s.newMode append [] with
      | .ok disk => .ok ({ s with disk }.open_ descriptor (.file (s.cwd.join (State.path path))))
      | .error e => .error e

/-- The descriptor that a path stands for. -/
def standard? (path : String) : Option Nat :=
  match path with
  | "/dev/stdin" | "/dev/fd/0" => some 0
  | "/dev/stdout" | "/dev/fd/1" => some 1
  | "/dev/stderr" | "/dev/fd/2" => some 2
  | _ => none

/-- Makes a descriptor lead where another one does. -/
def duplicate (s : State) (descriptor source : Nat) : Except String State :=
  match s.channel? source with
  | some channel => .ok (s.open_ descriptor channel)
  | none => .error (toString source ++ ": Bad file descriptor")

end State

/-- The descriptor that the target of a duplication names; `none` is a hyphen. -/
def duplicated? (target : String) : Option (Option Nat) :=
  match target.toList with
  | ['-'] => some none
  | [c] => if c.isDigit then some (some (c.toNat - 48)) else none
  | _ => none

/-- The text of the target of a redirection. -/
def Redirect.text (capture : Capture) (r : Redirect) : Expansion String := do
  match r.kind with
  | .here => return Expand.text (← Expand.pieces capture false false r.target)
  | .duplicate =>
    let target ← Expand.whole capture r.target
    if (duplicated? target).isNone then throw (.told "Syntax error: Bad fd number")
    return target
  | _ => Expand.whole capture r.target

/-- Carries out a redirection to a target. -/
def Redirect.apply (r : Redirect) (target : String) (s : State) : Except String State :=
  let input (s : State) : Except String State :=
    (s.openInput r.descriptor target).mapError (openingFault "cannot open" "No such file" target)
  let output (s : State) : Except String State :=
    (s.openOutput r.descriptor r.kind target).mapError
      (openingFault "cannot create" "Directory nonexistent" target)
  match r.kind with
  | .here =>
    let (n, s) := s.newInput target.toList s.clock
    .ok (s.open_ r.descriptor (.input n))
  | .duplicate =>
    match duplicated? target with
    | some (some n) => s.duplicate r.descriptor n
    | _ => .ok (s.close r.descriptor)
  | .read => match State.standard? target with
    | some n => s.duplicate r.descriptor n
    | none => input s
  | .readWrite => do
    let s ← output s
    if r.descriptor = 0 then input s else return s
  | .write | .clobber | .append => match State.standard? target with
    | some n => s.duplicate r.descriptor n
    | none => output s

/-- Carries out redirections in their order. A fault stops them; what was opened before stays. -/
def redirectAll : List (Redirect × String) → State → Option String × State
  | [], s => (none, s)
  | (r, target) :: rest, s =>
    match r.apply target s with
    | .ok s => redirectAll rest s
    | .error message => (some message, s)

/-- The targets of redirections. -/
def redirectTargets (capture : Capture) : List Redirect → Expansion (List (Redirect × String))
  | [] => return []
  | r :: rs => do
    let target ← r.text capture
    return (r, target) :: (← redirectTargets capture rs)

end PlaybookScan.Shell

import PlaybookScan.Disk.Node
import PlaybookScan.Path

/-!
# Looking up paths

How the operating system finds what a path names: name by name from the top or from the working
directory, through symbolic links, of which it follows forty at most. A place that is found can be
given another node.
-/

set_option autoImplicit false

namespace PlaybookScan

/-- A disk, by its top directory. -/
structure Disk where
  top : Node
  deriving Inhabited

namespace Disk

/-- One step of a lookup. -/
inductive Step where
  | stay
  | up
  | enter (name : String)
  deriving DecidableEq, Repr

/-- The steps of a text. A slash at the end asks for a directory. -/
def steps (cs : List Char) : List Step :=
  let pieces := (cs.splitOn '/').filter (· ≠ [])
  let steps := pieces.map fun
    | ['.'] => Step.stay
    | ['.', '.'] => .up
    | name => .enter (String.ofList name)
  if cs.getLast? = some '/' then steps ++ [.stay] else steps

/-- Links that are followed in one lookup. -/
def maxLinks : Nat := 40

/-- Longest name, in bytes. -/
def maxName : Nat := 255

/-- Longest path, in bytes. -/
def maxPath : Nat := 4095

def nameTooLong : IoError := .system 36

/-- Goes on from the directory `dir`; `links` more links may be followed. Answers the place reached,
whose last name need not exist, and what is there. A link at the end is followed if `follow`. -/
def go (top : Node) (follow : Bool) (links : Nat) (dir : List String) (todo : List Step) :
    Except IoError (List String × Option Node) :=
  match todo with
  | [] => .ok (dir, top.get? dir)
  | step :: todo =>
    match top.get? dir with
    | none => .error .noSuchFile
    | some (.closed true e) => .error e
    | some (.directory entries) =>
      match step with
      | .stay => go top follow links dir todo
      | .up => go top follow links dir.dropLast todo
      | .enter name =>
        if maxName < name.utf8ByteSize then .error nameTooLong
        else match entries.lookup name with
          | none => if todo = [] then .ok (dir ++ [name], none) else .error .noSuchFile
          | some (.link target) =>
            if todo = [] ∧ follow = false then .ok (dir ++ [name], some (.link target))
            else match links with
              | 0 => .error .tooManyLinks
              | links + 1 =>
                if target = "" then .error .noSuchFile
                else
                  let dir := if target.toList.head? = some '/' then [] else dir
                  go top follow links dir (steps target.toList ++ todo)
          | some _ => go top follow links (dir ++ [name]) todo
    | some _ => .error .notADirectory
termination_by (links, todo.length)

/-- Looks up `p` from the working directory `cwd`. -/
def locate (d : Disk) (follow : Bool) (cwd p : Path) :
    Except IoError (List String × Option Node) :=
  if p.isEmpty then .error .noSuchFile
  else if maxPath < p.text.utf8ByteSize then .error nameTooLong
  else go d.top follow maxLinks [] (steps (cwd.join p).text.toList)

/-- What `p` names. -/
def node (d : Disk) (cwd p : Path) : Except IoError Node :=
  match d.locate true cwd p with
  | .ok (_, some node) => .ok node
  | .ok (_, none) => .error .noSuchFile
  | .error e => .error e

def isDirectory (d : Disk) (cwd p : Path) : Bool :=
  match d.node cwd p with
  | .ok node => node.isDirectory
  | .error _ => false

/-- The bytes of the file that `p` names. -/
def read (d : Disk) (cwd p : Path) : Except IoError (List UInt8) :=
  match d.node cwd p with
  | .ok (.file content _) => .ok content
  | .ok (.directory _) => .error .isADirectory
  | .ok (.closed _ e) => .error e
  | .ok _ => .ok []
  | .error e => .error e

/-! ## Changing a disk -/

/-- Puts `node` at the place that `p` names; links on the way are followed. -/
def put (d : Disk) (cwd p : Path) (node : Node) : Except IoError Disk := do
  let (place, _) ← d.locate true cwd p
  return ⟨d.top.alter (fun _ => some node) place⟩

/-- Puts `node` where `p` says, without following a link at the end. -/
def putNew (d : Disk) (cwd p : Path) (node : Node) : Except IoError Disk := do
  let (place, old) ← d.locate false cwd p
  if old.isSome then throw (.system 17)
  return ⟨d.top.alter (fun _ => some node) place⟩

/-- Takes away what `p` names; a link itself, not what it leads to. -/
def remove (d : Disk) (cwd p : Path) : Except IoError Disk := do
  let (place, old) ← d.locate false cwd p
  if old.isNone then throw .noSuchFile
  return ⟨d.top.alter (fun _ => none) place⟩

/-- Writes a file, over or behind what it holds. A new one gets the permissions `mode`. -/
def writeFile (d : Disk) (cwd p : Path) (mode : Nat) (append : Bool) (bytes : List UInt8) :
    Except IoError Disk := do
  let (place, old) ← d.locate true cwd p
  match old with
  | some (.directory _) => throw .isADirectory
  | some (.closed _ e) => throw e
  | some (.device _) => return d
  | some (.file content mode) =>
    let content := if append then content ++ bytes else bytes
    return ⟨d.top.alter (fun _ => some (.file content mode)) place⟩
  | _ => return ⟨d.top.alter (fun _ => some (.file bytes mode)) place⟩

end Disk

end PlaybookScan

import PlaybookScan.Cli.Error
import PlaybookScan.Disk.Lookup
import PlaybookScan.InputFile
import PlaybookScan.Log.Event
import PlaybookScan.Text.CharClass
import PlaybookScan.Text.Lines

/-!
# Collecting input files

The YAML files below a directory: everything that is no directory and has the extension `yml` or
`yaml`, unless a name on the way to it starts with a dot. The files come in the order of their
paths, component by component; their keys are their paths below the directory.
-/

set_option autoImplicit false

namespace PlaybookScan

namespace Collect

def yaml : String := "yaml"

def isHidden (name : String) : Bool := name.toList.head? == some '.'

/-- What stands behind the last dot of a name, if something stands before it. -/
def extension? (name : String) : Option String :=
  let cs := name.toList.reverse
  match cs.dropWhile (· != '.') with
  | '.' :: _ :: _ => some (String.ofList (cs.takeWhile (· != '.')).reverse)
  | _ => none

def isYaml (name : String) : Bool :=
  (extension? name).any fun ext => Text.eqIgnoreCase ext "yml" || Text.eqIgnoreCase ext "yaml"

/-- A directory that cannot be listed, and why. -/
abbrev Refusal := Path × IoError

mutual

/-- The paths of the YAML files below the node at `dir`. -/
def below (dir : Path) : Node → Except Refusal (List Path)
  | .directory entries => belowAll dir entries
  | .closed true e => .error (dir, e)
  | _ => .ok []

/-- The paths of the YAML files among or below the entries of `dir`. -/
def belowAll (dir : Path) : List (String × Node) → Except Refusal (List Path)
  | [] => .ok []
  | (name, node) :: entries => do
    let here ←
      if isHidden name then pure []
      else if node.isDirectory then below (dir.join ⟨name⟩) node
      else pure (if isYaml name then [dir.join ⟨name⟩] else [])
    let others ← belowAll dir entries
    return here ++ others

end

/-- Place of a kind of component in the order of paths. -/
def rank : Path.Component → Nat
  | .root => 1
  | .here => 2
  | .up => 3
  | .name _ => 4

def componentLe (a b : Path.Component) : Bool :=
  rank a < rank b || (rank a == rank b && a.text ≤ b.text)

/-- Component by component. -/
def componentsLe : List Path.Component → List Path.Component → Bool
  | [], _ => true
  | _ :: _, [] => false
  | a :: as, b :: bs => if a = b then componentsLe as bs else componentLe a b

def pathLe (p q : Path) : Bool := componentsLe p.components q.components

/-- The path below `baseDir`, with slashes between its components. -/
def key (baseDir p : Path) : String :=
  let rest := (baseDir.components.isPrefixOf? p.components).getD p.components
  "/".intercalate (rest.map Path.Component.text)

/-- The input file at a path that was found. -/
def inputFile (disk : Disk) (cwd : WorkingDir) (baseDir p : Path) :
    Logged (Except ScanError InputFile) := do
  match disk.read cwd.path p with
  | .error e => return .error (.unreadable p e)
  | .ok content =>
    let lines := Text.Lines.count content
    .log (.inputFileFound (key baseDir p) lines)
    return match InputFile.create cwd p yaml with
      | .ok file => .ok ((file.withKey (key baseDir p)).withLines lines)
      | .error e => .error (.host e)

def addAll (disk : Disk) (cwd : WorkingDir) (s : FileSet) :
    List Path → Logged (Except ScanError FileSet)
  | [] => return .ok s
  | p :: ps => do
    match ← inputFile disk cwd s.baseDir p with
    | .error e => return .error e
    | .ok file => addAll disk cwd (s.add file) ps

end Collect

/-- The YAML files below `baseDir`. -/
def FileSet.collect (disk : Disk) (cwd : WorkingDir) (baseDir : Path) :
    Logged (Except ScanError FileSet) := do
  match disk.node cwd.path baseDir with
  | .error _ => return .error (.notADirectory baseDir)
  | .ok node =>
    if node.isDirectory then
      match Collect.below baseDir node with
      | .error (dir, e) => return .error (.unreadable dir e)
      | .ok paths => Collect.addAll disk cwd (.empty baseDir) (paths.mergeSort Collect.pathLe)
    else return .error (.notADirectory baseDir)

end PlaybookScan

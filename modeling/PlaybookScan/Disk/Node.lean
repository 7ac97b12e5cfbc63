import PlaybookScan.IoError

/-!
# Disks

A disk is a tree of nodes. The names of a directory are listed in any order, each once. A place on
the disk is given by the names on the way from the top; `get?` and `alter` take such places and
follow no links.
-/

set_option autoImplicit false

namespace PlaybookScan

inductive Device where
  /-- Holds nothing and swallows everything. -/
  | null
  /-- Holds zeros without end. -/
  | zero
  deriving DecidableEq, Repr

inductive Node where
  /-- A file with its permissions: a bit for each of reading, writing and executing, for the owner,
  the group and the others. -/
  | file (content : List UInt8) (mode : Nat)
  /-- A symbolic link. -/
  | link (target : String)
  | directory (entries : List (String × Node))
  | device (kind : Device)
  /-- A program that the system provides. -/
  | utility (name : String)
  /-- Something that the operating system refuses to open. -/
  | closed (isDirectory : Bool) (error : IoError)
  deriving Inhabited

namespace Node

def isDirectory : Node → Bool
  | directory _ => true
  | closed isDirectory _ => isDirectory
  | _ => false

/-- Permissions under which a file can be executed. -/
def isExecutable (mode : Nat) : Bool := mode &&& 0o111 != 0

/-- The entry of this name. -/
def child? : Node → String → Option Node
  | directory entries, name => entries.lookup name
  | _, _ => none

/-- The node at a place. -/
def get? (n : Node) : List String → Option Node
  | [] => some n
  | name :: names => (n.child? name).bind (·.get? names)

/-- `entries` with `node` under `name`, or without that name. -/
def setEntry (name : String) (node : Option Node) :
    List (String × Node) → List (String × Node)
  | [] => match node with
    | some node => [(name, node)]
    | none => []
  | (other, old) :: entries =>
    if other = name then match node with
      | some node => (name, node) :: entries
      | none => entries
    else (other, old) :: setEntry name node entries

/-- Changes what is at a place below `n`. Nothing happens unless all but the last name lead to
directories. -/
def alter (n : Node) (f : Option Node → Option Node) : List String → Node
  | [] => n
  | [name] => match n with
    | directory entries => directory (setEntry name (f (entries.lookup name)) entries)
    | n => n
  | name :: names => match n with
    | directory entries => match entries.lookup name with
      | some child => directory (setEntry name (some (alter child f names)) entries)
      | none => n
    | n => n

end Node

end PlaybookScan

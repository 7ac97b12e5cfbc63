import PlaybookScan.Disk.Lookup
import PlaybookScan.Shell.Utility.Table
import PlaybookScan.Text.Utf8

/-!
# System disks

The disk that a machine starts with: the programs of the system, the devices, and some empty
directories. Entries of a working directory are put onto it one by one.

A listing describes the entries of a directory as text. An entry is a line with its kind and its
path; the lines of a file or program, and the target of a link, follow with a tab before each.

    directory roles
    file site.yml
    	- hosts: all
    link play.yml
    	site.yml
-/

set_option autoImplicit false

namespace PlaybookScan

namespace Disk

/-- Directories in which programs are looked for. -/
def searchPath : List String := ["/usr/local/bin", "/usr/bin", "/bin"]

/-- The disk without any files but the system's. -/
def system : Disk :=
  let empty := Node.directory []
  let text (content : String) := Node.file content.toUTF8.toList 0o644
  let programs := ("bash" :: Shell.Utility.names).map fun name => (name, Node.utility name)
  ⟨.directory
    [("bin", .link "usr/bin"),
      ("dev", .directory
        [("fd", empty), ("null", .device .null), ("zero", .device .zero)]),
      ("etc", .directory [("hostname", text "host\n"),
        ("passwd", text "root:x:0:0:root:/root:/bin/bash\n")]),
      ("home", empty), ("lib", .link "usr/lib"), ("mnt", empty), ("opt", empty), ("proc", empty),
      ("root", empty), ("run", empty), ("sbin", .link "usr/sbin"), ("srv", empty),
      ("sys", empty), ("tmp", empty),
      ("usr", .directory
        [("bin", .directory programs), ("lib", empty), ("local", .directory [("bin", empty)]),
          ("sbin", empty), ("share", empty)]),
      ("var", .directory [("log", empty), ("tmp", empty)])]⟩

end Disk

/-- Something to be put into a directory. -/
structure Entry where
  path : Path
  node : Node

namespace Entry

/-- Makes the directories on the way to the path that do not exist. -/
def makeWay (d : Disk) (p : Path) : Disk :=
  (List.range p.components.length).foldl (fun d n =>
    let way := Path.ofComponents (p.components.take (n + 1))
    match d.putNew ⟨"/"⟩ way (.directory []) with
    | .ok d => d
    | .error _ => d) d

/-- Puts an entry below the directory `dir`. What cannot be put is left out. -/
def put (dir : Path) (d : Disk) (e : Entry) : Disk :=
  let p := dir.join e.path
  let d := makeWay d p.parent
  let changed : Except IoError Disk := match e.node with
    | .directory [] => .ok (makeWay d p)
    | .link _ => d.putNew ⟨"/"⟩ p e.node
    | _ => d.put ⟨"/"⟩ p e.node
  match changed with
  | .ok d => d
  | .error _ => d

/-- The system's disk with the entries below the directory `dir`, put there in order. -/
def disk (dir : Path) (entries : List Entry) : Disk :=
  entries.foldl (put dir) (makeWay .system dir)

end Entry

end PlaybookScan

/-! ## Listings -/

namespace PlaybookScan.Listing

inductive Kind where
  | file
  | program
  | link
  | directory
  deriving DecidableEq, Repr

/-- A line of a listing that makes no sense. -/
structure Fault where
  line : String
  deriving DecidableEq, Repr

def Fault.message (f : Fault) : String := "malformed listing line '" ++ f.line ++ "'"

def Kind.ofName? (name : String) : Option Kind :=
  match name with
  | "file" => some .file
  | "program" => some .program
  | "link" => some .link
  | "directory" => some .directory
  | _ => none

/-- The kind and the path that a line gives. -/
def header? (line : List Char) : Option (Kind × Path) := do
  let name := line.takeWhile (· ≠ ' ')
  let kind ← Kind.ofName? (String.ofList name)
  match line.drop (name.length + 1) with
  | [] => none
  | path => return (kind, ⟨String.ofList path⟩)

/-- The node of an entry with these lines. -/
def node (kind : Kind) (lines : List (List Char)) : Node :=
  let content := Text.Utf8.encode (lines.flatMap (· ++ ['\n']))
  match kind with
  | .file => .file content 0o644
  | .program => .file content 0o755
  | .link => .link (String.ofList (lines.headD []))
  | .directory => .directory []

/-- Reads lines, the last one first; `body` are the lines behind the current one. -/
def entries (body : List (List Char)) (done : List Entry) :
    List (List Char) → Except Fault (List Entry)
  | [] => match body with
    | [] => .ok done
    | line :: _ => .error ⟨String.ofList line⟩
  | ('\t' :: line) :: lines => entries (line :: body) done lines
  | line :: lines =>
    match header? line with
    | some (kind, path) => entries [] (⟨path, node kind body⟩ :: done) lines
    | none => .error ⟨String.ofList line⟩

/-- The entries that a listing describes. -/
def parse (text : String) : Except Fault (List Entry) :=
  entries [] [] ((text.toList.splitOn '\n').filter (· ≠ [])).reverse

end PlaybookScan.Listing

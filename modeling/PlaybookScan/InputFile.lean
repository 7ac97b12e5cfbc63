import PlaybookScan.FileUri

/-!
# Input files

An input file is a file that the host offers for analysis. Its identity is its URI; its path is
the one that the URI gives back, and its display key is that path unless another one is set.

A file set holds the files offered to the linter, below a base directory: one file per URI, in the
order in which the URIs came. A file added under a URI already present takes the place of the old
one.
-/

set_option autoImplicit false

namespace PlaybookScan

structure InputFile where
  /-- Display key. -/
  key : String
  path : Path
  uri : FileUri
  language : String
  /-- Number of lines, if the host has counted them. -/
  lines : Option UInt32
  deriving DecidableEq, Repr

namespace InputFile

def create (cwd : WorkingDir) (p : Path) (language : String) : Except HostError InputFile :=
  (FileUri.ofPath cwd p).map fun uri => ⟨uri.toPath.text, uri.toPath, uri, language, none⟩

def withKey (f : InputFile) (key : String) : InputFile := { f with key }

def withLines (f : InputFile) (lines : UInt32) : InputFile := { f with lines := some lines }

/-- The files are the same one, whatever else is said of them. -/
def same (f g : InputFile) : Bool := f.uri == g.uri

/-- `line` is a line of the file, as far as its lines are known. -/
def hasLine (f : InputFile) (line : UInt32) : Bool :=
  line != 0 && f.lines.all (line ≤ ·)

end InputFile

/-! ## File sets -/

structure FileSet where
  baseDir : Path
  files : List InputFile
  deriving DecidableEq, Repr

namespace FileSet

def empty (baseDir : Path) : FileSet := ⟨baseDir, []⟩

/-- `file` in the place of the first file with its URI, or at the end. -/
def place (file : InputFile) : List InputFile → List InputFile
  | [] => [file]
  | f :: fs => if f.uri = file.uri then file :: fs else f :: place file fs

def add (s : FileSet) (file : InputFile) : FileSet := { s with files := place file s.files }

def find? (s : FileSet) (uri : FileUri) : Option InputFile := s.files.find? (·.uri == uri)

/-- Adds the file at `relative`, seen from the base directory; `relative` becomes its key. Answers
the file that is then found under its URI. -/
def addRelative (cwd : WorkingDir) (s : FileSet) (relative : Path) (language : String) :
    Except HostError InputFile × FileSet :=
  match InputFile.create cwd (s.baseDir.join relative) language with
  | .error e => (.error e, s)
  | .ok file =>
    let s := s.add (file.withKey relative.text)
    match s.find? file.uri with
    | some found => (.ok found, s)
    | none => (.error (.invalidPath relative), s)

/-- The files of one language. -/
def ofLanguage (s : FileSet) (language : String) : List InputFile :=
  s.files.filter (·.language == language)

def size (s : FileSet) : Nat := s.files.length

end FileSet

end PlaybookScan

/-!
# Paths

A path is a text. Its components are the pieces between slashes, without the empty ones and, apart
from a leading one, without `.`; a leading slash counts as the component `root`. `join` puts a
relative path below another one, `absolute` below the working directory.

`normalize` follows the components of a path one by one without looking at any disk, and builds the
normal path as it goes: `.` stays in place, `..` takes back the last name of what has been built,
stays at the root, and is kept where there is no name to take back.
-/

set_option autoImplicit false

namespace PlaybookScan

structure Path where
  text : String
  deriving DecidableEq, Hashable, Inhabited, Repr

namespace Path

inductive Component where
  /-- The leading slash. -/
  | root
  /-- A leading `.`. -/
  | here
  /-- `..` -/
  | up
  | name (text : String)
  deriving DecidableEq, Repr

/-- The component that a piece between slashes stands for. -/
def Component.ofPiece? : List Char → Option Component
  | [] => none
  | ['.'] => none
  | ['.', '.'] => some .up
  | cs => some (.name (String.ofList cs))

def Component.text : Component → String
  | root => "/"
  | here => "."
  | up => ".."
  | name text => text

/-- The components of the pieces between slashes. -/
def ofPieces (cs : List Char) : List Component := (cs.splitOn '/').filterMap Component.ofPiece?

def components (p : Path) : List Component :=
  match p.text.toList with
  | '/' :: cs => .root :: ofPieces cs
  | ['.'] => [.here]
  | '.' :: '/' :: cs => .here :: ofPieces cs
  | cs => ofPieces cs

def isAbsolute (p : Path) : Bool := p.text.toList.head? == some '/'

def isEmpty (p : Path) : Bool := p.text.isEmpty

/-- `q` seen from `p`: `q` itself if it is absolute, else `q` behind a slash after `p`. -/
def join (p q : Path) : Path :=
  if q.isAbsolute || p.isEmpty then q
  else if p.text.toList.getLast? == some '/' then ⟨p.text ++ q.text⟩
  else ⟨p.text ++ "/" ++ q.text⟩

/-- The path with the components `cs`: a slash between each two, but none after the root. -/
def ofComponents : List Component → Path
  | .root :: cs => ⟨"/" ++ "/".intercalate (cs.map Component.text)⟩
  | cs => ⟨"/".intercalate (cs.map Component.text)⟩

/-- The path without its last component. -/
def parent (p : Path) : Path := ofComponents p.components.dropLast

/-- The names among the components. -/
def names (p : Path) : List String :=
  p.components.filterMap fun
    | .name text => some text
    | _ => none

theorem join_of_isAbsolute (p : Path) {q : Path} (h : q.isAbsolute = true) : p.join q = q := by
  simp [join, h]

@[simp] theorem join_empty_left (q : Path) : (⟨""⟩ : Path).join q = q := by
  simp [join, isEmpty]

/-! ## Normal paths -/

/-- What has been built, one component further. -/
def step (built : Path) : Component → Path
  | .here => built
  | .up =>
    match built.components.getLast? with
    | some (.name _) => built.parent
    | some .root => built
    | _ => built.join ⟨Component.up.text⟩
  | c => built.join ⟨c.text⟩

def normalize (p : Path) : Path := p.components.foldl step ⟨""⟩

end Path

/-! ## Working directories -/

/-- The directory that relative paths start from. -/
structure WorkingDir where
  path : Path
  isAbsolute : path.isAbsolute = true

namespace WorkingDir

/-- The top directory. -/
def top : WorkingDir := ⟨⟨"/"⟩, rfl⟩

def ofPath? (p : Path) : Option WorkingDir :=
  if h : p.isAbsolute = true then some ⟨p, h⟩ else none

/-- `p` seen from the working directory. -/
def absolute (cwd : WorkingDir) (p : Path) : Path := cwd.path.join p

end WorkingDir

end PlaybookScan

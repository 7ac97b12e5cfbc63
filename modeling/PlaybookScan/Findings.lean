import PlaybookScan.Diagnostic
import PlaybookScan.InputFile
import PlaybookScan.Log.Event
import Std.Data.HashMap
import Std.Data.HashSet

/-!
# Findings of a run

The findings printed so far, file by file in the order in which the files were first named, each
finding once; and the files whose analysis was attempted. `register` takes a line of linter output,
`drain` hands the findings over and forgets them.
-/

set_option autoImplicit false

namespace PlaybookScan

/-- A set of findings that keeps their order. -/
structure FindingSet where
  ordered : Array Finding
  seen : Std.HashSet Finding

namespace FindingSet

def empty : FindingSet := ⟨#[], ∅⟩

/-- Adds `f` at the end, unless it is there already. -/
def insert (s : FindingSet) (f : Finding) : Bool × FindingSet :=
  if s.seen.contains f then (false, s) else (true, ⟨s.ordered.push f, s.seen.insert f⟩)

end FindingSet

structure Findings where
  /-- The directory that file names are relative to. -/
  baseDir : Path
  /-- The files whose analysis was attempted. -/
  scanned : List InputFile
  files : Array (FileUri × FindingSet)
  /-- Position of each URI in `files`. -/
  index : Std.HashMap FileUri Nat

namespace Findings

def empty (baseDir : Path) : Findings := ⟨baseDir, [], #[], ∅⟩

def isScanned (s : Findings) (file : InputFile) : Bool := s.scanned.any file.same

/-- Records that the analysis of `file` was attempted. -/
def noteScanned (s : Findings) (file : InputFile) : Findings :=
  if s.isScanned file then s else { s with scanned := s.scanned ++ [file] }

/-- The position of `uri`, which is put behind the other files if it is new. -/
def locate (s : Findings) (uri : FileUri) : Nat × Findings :=
  match s.index[uri]? with
  | some position => (position, s)
  | none =>
    (s.files.size,
      { s with
        files := s.files.push (uri, .empty)
        index := s.index.insert uri s.files.size })

/-- Stores a finding. Answers whether it is new. -/
def insert (s : Findings) (uri : FileUri) (f : Finding) : Bool × Findings :=
  let (position, s) := s.locate uri
  match s.files[position]? with
  | none => (false, s)
  | some (u, set) =>
    let (inserted, set) := set.insert f
    (inserted, { s with files := s.files.setIfInBounds position (u, set) })

/-- Takes one line of linter output. Answers whether it is a diagnostic. A finding on line 0 is
recognised but not stored. -/
def register (cwd : WorkingDir) (s : Findings) (line : String) : Logged (Bool × Findings) := do
  match Diagnostic.parse? line with
  | none => return (false, s)
  | some d =>
    match FileUri.resolve cwd s.baseDir d.filename with
    | .error e =>
      .log (.unresolvable d.filename e)
      return (false, s)
    | .ok uri =>
      if d.finding.line = 0 then
        .log (.lineZeroDropped uri d.finding.rule)
        return (true, s)
      else
        let (inserted, s) := s.insert uri d.finding
        .log (.registered d.layout inserted)
        return (true, s)

/-- Takes the lines of a run, in order. Answers how many of them are diagnostics. -/
def registerAll (cwd : WorkingDir) (s : Findings) (lines : List String) :
    Logged (Nat × Findings) :=
  lines.foldlM (fun (n, s) line => do
    let (recognised, s) ← register cwd s line
    return (if recognised then n + 1 else n, s)) (0, s)

/-- The findings with their files: file by file, and in order within a file. -/
def toList (s : Findings) : List (FileUri × Finding) :=
  s.files.toList.flatMap fun (uri, set) => set.ordered.toList.map (uri, ·)

/-- Hands over the findings and forgets them. The files attempted are kept. -/
def drain (s : Findings) : List (FileUri × Finding) × Findings :=
  (s.toList, { s with files := #[], index := ∅ })

/-- The findings on a file, if there are any. -/
def issuesFor (s : Findings) (uri : FileUri) : Option (List Finding) := do
  let position ← s.index[uri]?
  let (_, set) ← s.files[position]?
  return set.ordered.toList

/-- Number of findings. -/
def issueCount (s : Findings) : Nat := s.files.foldl (fun n (_, set) => n + set.ordered.size) 0

/-- Number of files with findings. -/
def fileCount (s : Findings) : Nat := s.files.size

end Findings

end PlaybookScan

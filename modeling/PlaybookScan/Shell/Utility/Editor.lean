import PlaybookScan.Shell.Editor.Run
import PlaybookScan.Shell.Utility.Attributes
import PlaybookScan.Shell.Utility.PathName

/-!
# The stream editor
-/

set_option autoImplicit false

namespace PlaybookScan.Shell.Editor

open Utility

/-- What the editor says of its arguments. -/
def usage : List String :=
  ["  -n, --quiet, --silent",
    "                 suppress automatic printing of pattern space",
    "      --debug",
    "                 annotate program execution",
    "  -e script, --expression=script",
    "                 add the script to the commands to be executed",
    "  -f script-file, --file=script-file",
    "                 add the contents of script-file to the commands to be executed",
    "  --follow-symlinks",
    "                 follow symlinks when processing in place",
    "  -i[SUFFIX], --in-place[=SUFFIX]",
    "                 edit files in place (makes backup if SUFFIX supplied)",
    "  -l N, --line-length=N",
    "                 specify the desired line-wrap length for the \x60l' command",
    "  --posix",
    "                 disable all GNU extensions.",
    "  -E, -r, --regexp-extended",
    "                 use extended regular expressions in the script",
    "                 (for portability use POSIX -E).",
    "  -s, --separate",
    "                 consider files as separate rather than as a single,",
    "                 continuous long stream.",
    "      --sandbox",
    "                 operate in sandbox mode (disable e/r/w commands).",
    "  -u, --unbuffered",
    "                 load minimal amounts of data from the input files and flush",
    "                 the output buffers more often",
    "  -z, --null-data",
    "                 separate lines by NUL characters",
    "      --help     display this help and exit",
    "      --version  output version information and exit",
    "",
    "If no -e, --expression, -f, or --file option is given, then the first",
    "non-option argument is taken as the sed script to interpret.  All",
    "remaining arguments are names of input files; if no input files are",
    "specified, then the standard input is read."]

def options : Utility.Options :=
  .of "bnEre:f:i::l:suzδφπσηω"
    [("binary", 'b'), ("regexp-extended", 'E'), ("debug", 'δ'), ("in-place", 'i'),
      ("expression", 'e'), ("file", 'f'), ("line-length", 'l'), ("null-data", 'z'),
      ("zero-terminated", 'z'), ("quiet", 'n'), ("posix", 'π'), ("silent", 'n'), ("sandbox", 'σ'),
      ("separate", 's'), ("unbuffered", 'u'), ("version", 'ω'), ("help", 'η'),
      ("follow-symlinks", 'φ')]

/-- A part of the input: the file that it comes from, and its lines. -/
structure Part where
  file : String
  lines : List Line

/-- Reads files up to one that cannot be read at all. Answers the status, and whether there was such
a file. -/
def parts (stop : Char) (inPlace : Bool) :
    List String → StateM State (Nat × Bool × List Part)
  | [] => return (0, false, [])
  | operand :: operands => do
    match ← readOperand operand with
    | .ok text =>
      let (status, fatal, found) ← parts stop inPlace operands
      return (status, fatal, ⟨operand, linesOf stop operand text⟩ :: found)
    | .error e =>
      if operand = "-" ∨ e = .isADirectory then
        let title := if operand = "-" then "stdin" else operand
        complain (if inPlace then "couldn't edit " ++ title ++ ": not a regular file"
          else "read error on " ++ title ++ ": " ++ cause e)
        return (4, true, [])
      else
        complain ("can't read " ++ operand ++ ": " ++ cause e)
        let (status, fatal, found) ← parts stop inPlace operands
        return (if fatal then status else 2, fatal, found)

/-- The name of the copy that is kept of a file. -/
def backupName (suffix file : String) : String :=
  let base := lastName "" file
  let name := if suffix.contains '*' then base.intercalate (suffix.splitOn "*") else base ++ suffix
  if name.contains '/' then name else
    (file.dropEnd base.length).toString ++ name

/-- Puts a text into the place of a file, of which a copy may be kept. -/
def replaceFile (suffix file : String) (text : List Char) : StateM State Unit := do
  let s ← get
  match s.disk.node s.cwd (State.path file) with
  | .ok node =>
    let mode := modeOf node
    let disk := if suffix = "" then s.disk
      else (s.disk.put s.cwd (State.path (backupName suffix file)) node).toOption.getD s.disk
    let new : Node := .file (Octets.bytes text) mode
    let disk := match disk.remove s.cwd (State.path file) with
      | .ok bare => (bare.put s.cwd (State.path file) new).toOption.getD disk
      | .error _ => disk
    set { s with disk }
  | .error _ => pure ()

/-- Runs a script on the parts of the input one after the other. -/
def onParts (m : Manner) (suffix : String) : List Part → Run → StateM State (Nat × Run)
  | [], r => return (0, r)
  | part :: more, r => do
    let (outcome, r) ← r.through m part.lines
    let r ← if m.inPlace then do
        replaceFile suffix part.file r.out.texts.reverse.flatten
        pure { r with out := .empty }
      else pure r
    match outcome with
    | .finished => onParts m suffix more r
    | .quit status => return (status, r)
    | .fault message => complain (m.program.place ++ message); return (1, r)

/-- The files that a script writes to. -/
def written (p : Program) : List String :=
  (p.steps.toList.filterMap fun s => match s.action with
    | .write file | .writeFirst file => some file
    | .substitute s => s.file
    | _ => none).filter (· ≠ "/dev/stdout")

/-- Empties the files that a script writes to; answers the one that cannot be written. -/
def prepare (files : List String) : StateM State (Option (String × IoError)) :=
  files.foldlM (fun fault file => do
    match fault with
    | some fault => return some fault
    | none => match ← openOutput false file with
      | .ok _ => return none
      | .error e => return some (file, e)) none

/-- The pieces of the script that the arguments hold. -/
def sources (a : Arguments) : StateM State (Except (String × IoError) (List Fragment)) :=
  a.options.foldlM (fun found (c, value) => do
    match found with
    | .error e => return .error e
    | .ok done =>
      if c = 'e' then return .ok (done ++ [⟨none, value.toList⟩])
      else if c = 'f' then
        match ← readOperand value with
        | .ok text =>
          let text := if text.getLast? = some '\n' then text.dropLast else text
          return .ok (done ++ [⟨some value, text⟩])
        | .error .isADirectory => return .ok (done ++ [⟨some value, []⟩])
        | .error e => return .error (value, e)
      else return .ok done) (.ok [])

end PlaybookScan.Shell.Editor

namespace PlaybookScan.Shell.Utility

open PlaybookScan.Shell.Editor in
def sed (host : Host) : Utility := fun args => do
  let name := (← get).name
  let first := "Usage: " ++ name ++
    " [OPTION]... \x7bscript-only-if-no-other-script\x7d [input-file]..."
  let usage : StateM State Nat := do
    (first :: "" :: Editor.usage).forM fun line => modify (·.complain line)
    return 1
  let unable (file : String) (e : IoError) : StateM State Nat := do
    complain ("couldn't open file " ++ file ++ ": " ++ cause e)
    return 4
  match options.read args with
  | .error message =>
    complain message
    usage
  | .ok a =>
    if a.has 'η' then
      (first :: "" :: Editor.usage).forM writeLine
      return 0
    let isBare : Bool := !(a.has 'e' || a.has 'f')
    if isBare ∧ a.operands = [] then return ← usage
    let operands := if isBare then a.operands.drop 1 else a.operands
    let script ← if isBare then pure (.ok [⟨none, (a.operands.headD "").toList⟩]) else sources a
    match script with
    | .error (file, e) => unable file e
    | .ok sources =>
    let stop := if a.has 'z' then '\x00' else '\n'
    match parse ⟨a.has 'E' || a.has 'r', a.has 'σ', a.has 'z'⟩ sources with
    | .error (status, message) => complain message; return status
    | .ok program =>
    let files := written program
    match ← prepare files with
    | some (file, e) => unable file e
    | none =>
    let inPlace := a.has 'i'
    if inPlace ∧ operands = [] then
      complain "no input files"
      return 4
    let m : Manner :=
      { program, host, stop, inPlace, quiet := a.has 'n' || program.quiet, strict := a.has 'π'
        width := ((a.value? 'l').map fun n => (digits n.toList).1).getD 70 }
    let (failed, fatal, all) ← parts stop inPlace (if operands = [] then ["-"] else operands)
    let all := if inPlace ∨ a.has 's' then all else [⟨"", all.flatMap Part.lines⟩]
    let start : Run :=
      { pattern := [], held := [], whole := true, file := "", number := 0, rest := [], out := .empty
        spoken := .empty, files := files.map (·, .empty), sources := [], later := []
        replaced := false, active := [], closed := [], last := none }
    let (status, r) ← onParts m ((a.value? 'i').getD "") all start
    let _ ← r.flush m
    return if fatal ∨ (failed ≠ 0 ∧ status = 0) then failed else status

end PlaybookScan.Shell.Utility

import PlaybookScan.Shell.Awk.Eval
import PlaybookScan.Shell.Utility.PathName

/-!
# The interpreter of record programs
-/

set_option autoImplicit false

namespace PlaybookScan.Shell.Awk

open Utility

/-- What the interpreter says of itself. -/
def usage : List String :=
  ["Usage: mawk [Options] [Program] [file ...]",
    "",
    "Program:",
    "    The -f option value is the name of a file containing program text.",
    "    If no -f option is given, a \"--\" ends option processing; the following",
    "    parameters are the program text.",
    "",
    "Options:",
    "    -f program-file  Program  text is read from file instead of from the",
    "                     command-line.  Multiple -f options are accepted.",
    "    -F value         sets the field separator, FS, to value.",
    "    -v var=value     assigns value to program variable var.",
    "    --               unambiguous end of options.",
    "",
    "    Implementation-specific options are prefixed with \"-W\".  They can be",
    "    abbreviated:",
    "",
    "    -W version       show version information and exit.",
    "    -W dump          show assembler-like listing of program and exit.",
    "    -W help          show this message and exit.",
    "    -W interactive   set unbuffered output, line-buffered input.",
    "    -W exec file     use file as program as well as last option.",
    "    -W random=number set initial random seed.",
    "    -W sprintf=number adjust size of sprintf buffer.",
    "    -W posix_space   do not consider \"\\n\" a space.",
    "    -W usage         show this message and exit."]

def version : List String :=
  ["mawk 1.3.4 20200120",
    "random-funcs:       srandom/random",
    "regex-funcs:        internal",
    "compiled limits:",
    "sprintf buffer      8192",
    "maximum-integer     2147483647"]

/-- The arguments of the interpreter. -/
structure Options where
  separator : Option String
  assignments : List (String × String)
  files : List String
  rest : List String

/-- What the arguments ask for instead of running a program. -/
inductive Request where
  | usage
  | version
  | fault (message : String)

/-- Reads the arguments. -/
def options (o : Options) : List String → Except Request Options
  | [] => .ok o
  | arg :: args =>
    let put (letter : Char) (value : String) : Except Request Options :=
      match letter with
      | 'F' => .ok { o with
          separator := some (String.ofList (Lexer.unescape value.length value.toList)) }
      | 'f' => .ok { o with files := o.files ++ [value] }
      | 'v' => match Act.assignment? value with
        | some a => .ok { o with assignments := o.assignments ++ [a] }
        | none => .error (.fault ("improper assignment: -v " ++ value))
      | _ =>
        if value.startsWith "v" then .error .version
        else if value.startsWith "h" || value.startsWith "u" then .error .usage
        else .ok o
    match arg.toList with
    | ['-', '-'] => .ok { o with rest := args }
    | '-' :: c :: cs =>
      if !"FfvW".contains c then
        if arg = "--version" then .error .version
        else if arg = "--help" then .error .usage
        else .error (.fault ("not an option: " ++ arg))
      else match cs, args with
        | [], value :: args => do options (← put c value) args
        | [], [] => .error (.fault ("option " ++ arg ++ " lacks argument"))
        | cs, args => do options (← put c (String.ofList cs)) args
    | _ => .ok { o with rest := arg :: args }

/-- The machine at the start of a run. -/
def machine (host : Host) (p : Program) (o : Options) (args : List String) (s : State) : Machine :=
  let text (s : String) : Slot := .scalar (.text s)
  let number (x : Float) : Slot := .scalar (.number x)
  let table (pairs : List (String × String)) : Table :=
    pairs.foldl (fun t (key, v) => t.set ⟨none, key⟩ (.input v)) .empty
  let environment := s.environment.map fun (x, v) => (x, v.value.getD "")
  let counted := (args.zipIdx).map fun (a, i) => (toString i, a)
  let start : List (String × Slot) :=
    [("FS", text (o.separator.getD " ")), ("OFS", text " "), ("ORS", text "\n"), ("RS", text "\n"),
      ("SUBSEP", text "\x1c"), ("CONVFMT", text "%.6g"), ("OFMT", text "%.6g"), ("NR", number 0),
      ("FNR", number 0), ("RSTART", number 0), ("RLENGTH", number (-1)), ("FILENAME", text ""),
      ("ENVIRON", .table 0), ("ARGV", .table 1), ("ARGC", number (Float.ofNat args.length))] ++
    o.assignments.map fun (x, v) => (x, .scalar (.input v))
  { shell := s, host, functions := .ofList p.functions, globals := .ofList start
    arrays := #[table environment, table counted], locals := #[], depth := 0
    record := ⟨some "", none⟩, linesSplit := false, input := none, nextArg := 1, anyFile := false
    sources := [], out := [], sinks := [], active := [], status := 0
    seed := Float.ofInt (Calendar.now s).seconds, chance := 1 }

/-- The texts of programs with the names of their files. -/
def programTexts (files : List String) : StateM State (Except String (List (String × List Char))) :=
  files.foldlM (fun found file => do
    match found with
    | .error message => return .error message
    | .ok done => match ← readOperand file with
      | .ok text => return .ok (done ++ [(file, text)])
      | .error e => return .error ("cannot open \"" ++ file ++ "\" (" ++ cause e ++ ")")) (.ok [])

/-- Where a line of joined texts stands: the file and the line in it. -/
def lineIn (line : Nat) : List (String × List Char) → Option (String × Nat)
  | [] => none
  | [(file, _)] => some (file, line)
  | (file, text) :: more =>
    let size := text.count '\n'
    if line ≤ size then some (file, line) else lineIn (line - size) more

def Complaint.shown (sources : List (String × List Char)) (c : Complaint) : String :=
  let (place, line) := match lineIn c.line sources with
    | some (file, line) => (file ++ ": ", line)
    | none => ("", c.line)
  place ++ (if c.bare then "" else "line ") ++ toString line ++ ": " ++ c.message

/-- Complaints that are told at most. -/
def maxComplaints : Nat := 5

end PlaybookScan.Shell.Awk

namespace PlaybookScan.Shell.Utility

open PlaybookScan.Shell.Awk in
def awk (host : Host) : Utility := fun args => do
  let name := lastName "" (← get).name
  let tell (message : String) : StateM State Unit :=
    modify (·.complain (name ++ ": " ++ message))
  match Awk.options ⟨none, [], [], []⟩ args with
  | .error .usage => Awk.usage.forM writeLine; return 0
  | .error .version => Awk.version.forM writeLine; return 0
  | .error (.fault message) => tell message; return 2
  | .ok o =>
    match ← programTexts o.files with
    | .error message => tell message; return 2
    | .ok sources =>
    let isBare : Bool := o.files.isEmpty
    if isBare ∧ o.rest = [] then
      if args = [] then Awk.usage.forM fun line => modify (·.complain line)
      return 0
    let text := if isBare then (o.rest.headD "").toList else sources.flatMap Prod.snd
    match Program.parse text with
    | .error complaints =>
      (complaints.take maxComplaints).forM fun c => tell (c.shown sources)
      return 2
    | .ok p =>
    let operands := if isBare then o.rest.drop 1 else o.rest
    let (ending, m) := p.run (machine host p o (name :: operands) (← get))
    set m.shell
    let finish (status : Nat) : StateM State Nat := do
      let (_, m) := Act.closeAll { m with shell := ← get }
      set m.shell
      return status
    match ending with
    | .error (.fault running message) =>
      tell (if running then "run time error: " ++ message else message)
      if running then
        let global (x : String) : String := match m.globals[x]? with
          | some (.scalar v) => v.shown "%.6g"
          | _ => ""
        modify (·.complain ("\tFILENAME=\"" ++ global "FILENAME" ++ "\" FNR=" ++ global "FNR" ++
          " NR=" ++ global "NR"))
      finish 2
    | .error .stalled =>
      let status ← finish 0
      modify fun s => { s with clock := s.clock + forever }
      return status
    | _ => finish m.status

end PlaybookScan.Shell.Utility

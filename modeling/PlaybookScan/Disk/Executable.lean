import PlaybookScan.Disk.Lookup
import PlaybookScan.Text.Utf8

/-!
# Executable files

What runs when a file is executed: a program of the system, or a script, which names its interpreter
in its first line. A name without slash is looked for in a list of directories.
-/

set_option autoImplicit false

namespace PlaybookScan

/-- A program of the system with the arguments that it gets, its own name first. -/
structure Invocation where
  program : String
  args : List String
  deriving DecidableEq, Repr

namespace Disk

/-- Bytes of a file that are looked at for its interpreter. -/
def headSize : Nat := 256

/-- Splits the text behind the mark of a script into the name of the interpreter and an argument for
it. A zero byte ends either; `none` if there is not even an end of the name. -/
def splitInterpreter (bs : List UInt8) : Option (List UInt8 × Option (List UInt8)) :=
  let isBlank (b : UInt8) : Bool := b == 32 || b == 9
  let bs := (bs.reverse.dropWhile isBlank).reverse.dropWhile isBlank
  let name := bs.takeWhile fun b => !isBlank b && b != 0
  match bs.drop name.length with
  | b :: rest =>
    if isBlank b then some (name, some ((rest.dropWhile isBlank).takeWhile (· != 0)))
    else some (name, none)
  | [] => if name = [] then none else some (name, none)

/-- The interpreter that a script names, and the argument for it. The line that names them may be
longer than the part of the file that is looked at, if the name is not. -/
def interpreter? (content : List UInt8) : Option (String × List String) :=
  match content with
  | 35 :: 33 :: rest =>
    let isBlank (b : UInt8) : Bool := b == 32 || b == 9
    let rest := (rest.take headSize ++ List.replicate headSize 0).take (headSize - 2)
    let line := rest.takeWhile fun b => b != 10 && b != 0
    let named := match rest.drop line.length with
      | 10 :: _ => splitInterpreter line
      | _ =>
        let start := rest.dropWhile isBlank
        if start.any fun b => isBlank b || b == 0 then splitInterpreter rest.dropLast else none
    named.map fun (name, arg) =>
      let text (bs : List UInt8) : String := String.ofList (Text.Utf8.decode bs)
      (text name, (arg.map text).toList)
  | _ => none

/-- Interpreters that may be scripts themselves. -/
def maxInterpreters : Nat := 5

/-- Executes the file `p` with the arguments behind its name; `busy` says which places are open for
writing. -/
def executeFile (d : Disk) (busy : List String → Bool) (cwd : Path) (fuel : Nat) (p : String)
    (args : List String) : Except IoError Invocation :=
  match d.locate true cwd ⟨p⟩ with
  | .error e => .error e
  | .ok (_, none) => .error .noSuchFile
  | .ok (_, some (.utility name)) => .ok ⟨name, args⟩
  | .ok (place, some (.file content mode)) =>
    if !Node.isExecutable mode then .error .permissionDenied
    else if busy place then .error .textFileBusy
    else match interpreter? content, fuel with
      | none, _ => .error .notExecutableFormat
      | some _, 0 => .error .tooManyLinks
      | some (name, arg), fuel + 1 =>
        executeFile d busy cwd fuel name (name :: arg ++ p :: args.tail)
  | .ok (_, some _) => .error .permissionDenied

/-- Tries the candidates until one is found. A refusal is the answer if nothing is found. -/
def firstExecutable (run : String → Except IoError Invocation) (refusal : Option IoError) :
    List String → Except IoError Invocation
  | [] => .error (refusal.getD .noSuchFile)
  | p :: ps =>
    match run p with
    | .error e =>
      if e = .noSuchFile ∨ e = .notADirectory then firstExecutable run refusal ps
      else if e = .permissionDenied then firstExecutable run (some e) ps
      else .error e
    | found => found

/-- Executes a program by its name, which is looked for in the directories `searched` unless it has
a slash. -/
def execute (d : Disk) (busy : List String → Bool) (cwd : Path) (searched : List String)
    (args : List String) : Except IoError Invocation :=
  match args with
  | [] => .error .noSuchFile
  | name :: _ =>
    let run (p : String) := d.executeFile busy cwd maxInterpreters p args
    if name.contains '/' then run name
    else if name = "" then .error .noSuchFile
    else
      let place (dir : String) : String := if dir = "" then name else dir ++ "/" ++ name
      firstExecutable run none (searched.map place)

end Disk

end PlaybookScan

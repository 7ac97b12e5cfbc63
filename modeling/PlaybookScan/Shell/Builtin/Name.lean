import PlaybookScan.Disk.Executable
import PlaybookScan.Shell.Builtin.Basic

/-!
# Names of commands

What a name in the place of a command stands for: an alias, a function, a command inside the shell
or a program, which is looked for in the directories of a search path.
-/

set_option autoImplicit false

namespace PlaybookScan.Shell

/-- Why a program cannot be run. -/
def runFault (name : String) (e : IoError) : String :=
  name ++ ": " ++ match e with
    | .system 2 | .system 20 => "not found"
    | .system n => IoError.systemText n
    | .other text => text

/-- The paths under which something of this name is looked for. -/
def places (directories : List String) (name : String) : List String :=
  if name.contains '/' then [name]
  else directories.map fun dir => if dir = "" then name else dir ++ "/" ++ name

namespace State

/-- The directories in which programs are looked for. -/
def searchPath (s : State) : List String :=
  ((s.valueOf? "PATH").getD "").splitOn ":"

/-- What runs under a name that is looked for in some directories. -/
def lookUpIn (s : State) (directories : List String) (name : String) : Except IoError Invocation :=
  s.disk.execute (fun _ => false) s.cwd (directories.map Octets.toText) [Octets.toText name]

/-- What runs under a name. -/
def lookUp (s : State) (name : String) : Except IoError Invocation := s.lookUpIn s.searchPath name

/-- What another program than a shell runs under a name. -/
def launched (s : State) (name : String) : Except IoError Invocation :=
  s.lookUpIn (if (s.valueOf? "PATH").isSome then s.searchPath else ["/bin", "/usr/bin"]) name

/-- A file that may be run is at this path. -/
def isProgram (s : State) (path : String) : Bool :=
  match s.disk.node s.cwd (State.path path) with
  | .ok (.file _ mode) => Node.isExecutable mode
  | .ok (.utility _) => true
  | _ => false

/-- The path of the program of this name. -/
def programPath? (s : State) (directories : List String) (name : String) : Option String :=
  if name.contains '/' then
    if (s.disk.node s.cwd (State.path name)).toBool then some name else none
  else if name = "" then none
  else (places directories name).find? s.isProgram

/-- Keeps the path of a program, which has just been found. -/
def remember (s : State) (name : String) : State :=
  if name.contains '/' then s
  else match s.programPath? s.searchPath name with
    | none => s
    | some path =>
      if (s.hashed.lookup name).isSome then { s with
        hashed := s.hashed.map fun (other, old) => (other, if other = name then path else old) }
      else { s with hashed := s.hashed ++ [(name, path)] }

end State

namespace Builtin

/-- The directories of the system's programs. -/
def standardPath : List String :=
  ["/usr/local/sbin", "/usr/local/bin", "/usr/sbin", "/usr/bin", "/sbin", "/bin"]

/-! ## Aliases -/

def aliasLine (name text : String) : String := name ++ "=" ++ singleQuoted text ++ "\n"

/-- Lists aliases, or makes them. -/
def alias_ : Builtin := fun args s =>
  if args = [] then
    done 0 (s.writeText 1 (String.join ((byRows 39 s.aliases).map fun (x, t) => aliasLine x t)))
  else args.foldl (fun (flow, s) arg =>
    let name := arg.toList.take 1 ++ (arg.toList.drop 1).takeWhile (· ≠ '=')
    let key := String.ofList name
    match arg.toList.drop name.length with
    | [] => match s.aliases.lookup arg with
      | some text => (flow, s.writeText 1 (aliasLine arg text))
      | none => (flow, { s.complain ("alias: " ++ arg ++ " not found") with status := 1 })
    | _ :: text =>
      let text := String.ofList text
      if (s.aliases.lookup key).isSome then
        (flow, { s with aliases := s.aliases.map fun (x, t) => (x, if x = key then text else t) })
      else (flow, { s with aliases := s.aliases ++ [(key, text)] })) (.next, { s with status := 0 })

def unalias : Builtin := withOptions "unalias" "a" fun options args s =>
  if options ≠ [] then done 0 { s with aliases := [] }
  else args.foldl (fun (flow, s) arg =>
    if (s.aliases.lookup arg).isSome then
      (flow, { s with aliases := s.aliases.filter (·.1 != arg) })
    else (flow, { s.complain ("unalias: " ++ arg ++ " not found") with status := 1 }))
    (.next, { s with status := 0 })

/-! ## Programs that were found -/

def hash : Builtin := withOptions "hash" "r" fun options args s =>
  if options ≠ [] then done 0 { s with hashed := [] }
  else if args = [] then
    done 0 (s.writeText 1 (String.join ((byRows 31 s.hashed).map fun (_, path) => path ++ "\n")))
  else args.foldl (fun (flow, s) name =>
    if name.contains '/' ∨ isNamed name ∨ s.functions.any (·.1 == name) then (flow, s)
    else match s.programPath? s.searchPath name with
      | some _ =>
        (flow, { s with hashed := s.hashed.filter (·.1 != name) }.remember name)
      | none =>
        let e := match s.lookUp name with
          | .error e => e
          | .ok _ => .noSuchFile
        (flow, { fault "hash" (runFault name e) s with status := 1 }))
    (.next, { s with status := 0 })

/-! ## What names stand for -/

/-- Says what a name stands for, in a sentence or, if not `verbose`, in a word. Programs are looked
for in the given directories instead of the usual ones. -/
def describe (verbose : Bool) (directories : Option (List String)) (name : String) (s : State) :
    Flow × State :=
  let found (sentence word : String) (s : State) : Flow × State :=
    done 0 (s.writeText 1 ((if verbose then name ++ sentence else word) ++ "\n"))
  if Parser.reserved.contains name then found " is a shell keyword" name s
  else match s.aliases.lookup name with
  | some text =>
    if verbose then found (" is an alias for " ++ text) "" s
    else done 0 (s.writeText 1 ("alias " ++ aliasLine name text))
  | none =>
    if s.functions.any (·.1 == name) then found " is a shell function" name s
    else if isNamed name then
      found (" is a " ++ (if isSpecial name then "special " else "") ++ "shell builtin") name s
    else match s.programPath? (directories.getD s.searchPath) name with
      | some path =>
        let tracked := (s.hashed.lookup name).isSome
        let s := if directories.isNone && !tracked then s.remember name else s
        found ((if tracked then " is a tracked alias for " else " is ") ++ path) path s
      | none => done 127 (if verbose then s.writeText 1 (name ++ ": not found\n") else s)

def type_ : Builtin := fun args s =>
  args.foldl (fun (_, s) name =>
    let before := s.status
    let (flow, s) := describe true none name s
    (flow, { s with status := max before s.status })) (.next, { s with status := 0 })

/-- What `command` does if it does not run one. -/
def commandNames : Builtin := withOptions "command" "pvV" fun options args s =>
  let brief := options.contains 'v'
  let verbose := options.contains 'V'
  match args with
  | name :: _ =>
    if brief || verbose then
      describe verbose (if options.contains 'p' then some standardPath else none) name s
    else done 0 s
  | [] => done 0 s

/-- The words of the command that the arguments of `command` run, and whether it is looked for in
the system's directories alone; `none` if they run no command. `fuel` is their number. -/
def commandArguments (standard : Bool) : Nat → List String → Option (Bool × List String)
  | fuel + 1, arg :: args =>
    match arg.toList with
    | ['-', '-'] => if args = [] then none else some (standard, args)
    | '-' :: c :: cs =>
      if (c :: cs).all (· == 'p') then commandArguments true fuel args else none
    | _ => some (standard, arg :: args)
  | _, _ => none

end Builtin

end PlaybookScan.Shell

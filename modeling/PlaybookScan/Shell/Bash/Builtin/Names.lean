import PlaybookScan.Shell.Bash.Builtin.Declare
import PlaybookScan.Shell.Builtin.Name

/-!
# Names of commands in the large shell

What a name in the place of a command stands for: an alias, a keyword, a function, a command inside
the shell or a program.
-/

set_option autoImplicit false

namespace PlaybookScan.Shell.Bash.Builtin

/-- The commands that the large shell carries out itself. -/
def names : List String :=
  [".", ":", "[", "alias", "bg", "bind", "break", "builtin", "caller", "cd", "command", "compgen",
    "complete", "compopt", "continue", "declare", "dirs", "disown", "echo", "enable", "eval",
    "exec", "exit", "export", "false", "fc", "fg", "getopts", "hash", "help", "history", "jobs",
    "kill", "let", "local", "logout", "mapfile", "popd", "printf", "pushd", "pwd", "read",
    "readarray", "readonly", "return", "set", "shift", "shopt", "source", "suspend", "test",
    "times", "trap", "true", "type", "typeset", "ulimit", "umask", "unalias", "unset", "wait"]

def isBuiltin (s : Session) (name : String) : Bool :=
  names.contains name && !s.disabled.contains name

/-- A text in single quotes. -/
def singleQuoted (text : String) : String :=
  if text = "'" then "\\'" else "'" ++ text.replace "'" "'\\''" ++ "'"

/-! ## Aliases -/

def aliasLine (name text : String) : String := "alias " ++ name ++ "=" ++ singleQuoted text

def alias_ : Builtin := withOptions "alias" "p" fun o args => do
  if args.isEmpty ∨ o.has 'p' then
    let all := (← get).aliases.mergeSort fun a b => a.1.toList ≤ b.1.toList
    all.forM fun (name, text) => writeLine (aliasLine name text)
  args.foldlM (fun status arg => do
    let name := arg.toList.take 1 ++ (arg.toList.drop 1).takeWhile (· ≠ '=')
    let key := String.ofList name
    match arg.toList.drop name.length with
    | [] =>
      match (← get).aliases.lookup arg with
      | some text =>
        writeLine (aliasLine arg text)
        return status
      | none => fail 1 "alias" (arg ++ ": not found")
    | _ :: text =>
      if name.any fun c => "/$\x60= \t\n\"'\\|&;()<>".contains c then
        fail 1 "alias" ("\x60" ++ key ++ "': invalid alias name")
      else
        onState fun s => { s with
          aliases := (key, String.ofList text) :: s.aliases.filter (·.1 != key) }
        return status) 0

def unalias : Builtin := withOptions "unalias" "a" fun o args => do
  if o.has 'a' then
    onState fun s => { s with aliases := [] }
    return 0
  if args.isEmpty then return ← usage "unalias"
  args.foldlM (fun status arg => do
    if ((← get).aliases.lookup arg).isNone then return ← fail 1 "unalias" (arg ++ ": not found")
    onState fun s => { s with aliases := s.aliases.filter (·.1 != arg) }
    return status) 0

/-! ## Programs that were found -/

/-- Forgets the path of a program. -/
def forget (name : String) : Act Unit :=
  modify fun s => { s with
    hashed := s.hashed.filter (·.1 != name), hits := s.hits.filter (·.1 != name) }

def hash : Builtin := withOptions "hash" "dlp:rt" fun o args => do
  if o.has 'r' then onState fun s => { s with hashed := [] }
  match o.value? 'p' with
  | some path =>
    args.forM fun name => do
      forget name
      onState fun s => { s with hashed := (name, path) :: s.hashed }
    return 0
  | none => pure ()
  if args.isEmpty then
    if o.has 'd' || o.has 't' then
      return ← misuse "hash" (if o.has 'd' then "-d: option requires an argument"
        else "-t: option requires an argument")
    let s ← get
    if s.hashed = [] then
      if !o.has 'r' then writeLine "hash: hash table empty"
      return 0
    if !o.has 'l' then writeLine "hits\tcommand"
    s.hashed.forM fun (name, path) =>
      let count := toString ((s.hits.lookup name).getD 0)
      writeLine (if o.has 'l' then "builtin hash -p " ++ path ++ " " ++ name
        else "".pushn ' ' (4 - count.length) ++ count ++ "\t" ++ path)
    return 0
  args.foldlM (fun status name => do
    let s ← get
    if o.has 't' then
      match s.hashed.lookup name with
      | some path =>
        writeLine (if args.length > 1 then name ++ "\t" ++ path else path)
        return status
      | none => return ← fail 1 "hash" (name ++ ": not found")
    if o.has 'd' then
      if (s.hashed.lookup name).isNone then return ← fail 1 "hash" (name ++ ": not found")
      forget name
      return status
    if name.contains '/' || isBuiltin s name || (s.routines.lookup name).isSome then return status
    match s.toState.programPath? s.searchPath name with
    | some path =>
      forget name
      onState fun s => { s with hashed := (name, path) :: s.hashed }
      return status
    | none => fail 1 "hash" (name ++ ": not found")) 0

/-! ## What names stand for -/

/-- What a name can stand for. -/
inductive Meaning where
  | alias_ (text : String)
  | keyword
  | routine (routine : Routine)
  | builtin
  | program (path : String) (hashed : Bool)

/-- Everything that a name stands for, what counts first; programs alone if `forced`. -/
def meanings (s : Session) (forced functions : Bool) (directories : List String) (name : String) :
    List Meaning :=
  let inside : List Meaning := if forced then []
    else
      (if s.enables "expand_aliases" then ((s.aliases.lookup name).map Meaning.alias_).toList
        else []) ++
      (if Parser.reserved.contains name ∨ name = "]]" then [.keyword] else []) ++
      (if functions then ((s.routines.lookup name).map Meaning.routine).toList else []) ++
      (if isBuiltin s name then [.builtin] else [])
  let programs : List Meaning :=
    if name.contains '/' then
      if s.toState.isProgram name then [.program name false] else []
    else
      let found := (Shell.places directories name).filter s.toState.isProgram
      let hashed := (s.hashed.lookup name).filter fun _ => inside.isEmpty
      match hashed with
      | some path => .program path true :: found.map (Meaning.program · false)
      | none => found.map (Meaning.program · false)
  inside ++ programs

/-- A sentence about a name. -/
def Meaning.sentence (name : String) : Meaning → String
  | alias_ text => name ++ " is aliased to \x60" ++ text ++ "'"
  | keyword => name ++ " is a shell keyword"
  | routine r => name ++ " is a function\n" ++ r.body.definition name
  | builtin => name ++ " is a shell builtin"
  | program path hashed =>
    if hashed then name ++ " is hashed (" ++ path ++ ")" else name ++ " is " ++ path

/-- The kind of what a name stands for. -/
def Meaning.kind : Meaning → String
  | alias_ _ => "alias"
  | keyword => "keyword"
  | routine _ => "function"
  | builtin => "builtin"
  | program .. => "file"

/-- What can be put into the place of a name. -/
def Meaning.short (name : String) : Meaning → String
  | alias_ text => aliasLine name text
  | program path _ => path
  | _ => name

def Meaning.isProgram : Meaning → Bool
  | .program .. => true
  | _ => false

def type_ : Builtin := withOptions "type" "afptP" fun o args => do
  args.foldlM (fun status name => do
    let s ← get
    let found := meanings s (o.has 'P') (!o.has 'f') s.searchPath name
    let found := if o.has 'a' then found.filter fun
        | .program _ true => false
        | _ => true
      else found.take 1
    if found.isEmpty then
      if !o.has 't' && !o.has 'p' && !o.has 'P' then
        complain "type" (name ++ ": not found")
      return 1
    found.forM fun m => do
      if o.has 't' then writeLine m.kind
      else if o.has 'p' || o.has 'P' then
        if m.isProgram then writeLine (m.short name)
      else writeLine (m.sentence name)
    return status) 0

/-- Describes the names that `command` does not run. -/
def describe (verbose standard : Bool) (args : List String) : Act Nat := do
  args.foldlM (fun status name => do
    let s ← get
    let directories := if standard then Shell.Builtin.standardPath else s.searchPath
    match meanings s false true directories name with
    | m :: _ =>
      writeLine (if verbose then m.sentence name else m.short name)
      return 0
    | [] =>
      if verbose then complain "command" (name ++ ": not found")
      return status) 1

def enable : Builtin := withOptions "enable" "adnpsf:" fun o args => do
  if args.isEmpty then
    let s ← get
    names.forM fun name => do
      let off := s.disabled.contains name
      if o.has 'a' || off == o.has 'n' then
        writeLine ("enable " ++ (if off then "-n " else "") ++ name)
    return 0
  args.foldlM (fun status name => do
    if !names.contains name then return ← fail 1 "enable" (name ++ ": not a shell builtin")
    modify fun s =>
      let others := s.disabled.filter (· != name)
      { s with disabled := if o.has 'n' then name :: others else others }
    return status) 0

end PlaybookScan.Shell.Bash.Builtin

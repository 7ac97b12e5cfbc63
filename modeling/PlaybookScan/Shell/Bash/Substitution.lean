import PlaybookScan.Shell.Bash.Event

/-!
# Commands in words

A command in a word is run in a process of its own, and its output takes its place; or the path of a
pipe does, which the command writes or reads.
-/

set_option autoImplicit false

namespace PlaybookScan.Shell.Bash

/-- The file that a command without name reads, if it does nothing else. -/
def soleInput? : Command → Option (Redirect Word)
  | .simple _ [] [] [⟨.number 0, .read, operand⟩] => some ⟨.number 0, .read, operand⟩
  | .sequence [.simple _ [] [] [⟨.number 0, .read, operand⟩]] =>
    some ⟨.number 0, .read, operand⟩
  | _ => none

/-- The path of the next pipe that takes the place of a command. -/
def channelPath (s : Session) : String :=
  "/dev/fd/" ++ toString (63 - s.channelPaths.length % 60)

/-- Makes the file that stands for a pipe with this content. -/
def putChannel (path : String) (content : List Char) : Act Unit :=
  onState fun s =>
    match s.disk.writeFile s.cwd ⟨path⟩ 0o600 false (Octets.bytes content) with
    | .ok disk => { s with disk }
    | .error _ => s

/-- Takes the file away that stands for a pipe. -/
def dropChannel (path : String) : Act Unit :=
  onState fun s =>
    match s.disk.remove s.cwd ⟨path⟩ with
    | .ok disk => { s with disk }
    | .error _ => s

namespace Interpreter

/-- Runs a command of a subshell, which begins in the line `line` of the script. -/
def inside (e : Interpreter) (line : Nat) (command : Command) : Act Unit := do
  modify fun s => { s with offset := (s.line : Int) - line, nesting := s.nesting + 1 }
  e.finish (e.run false command)

/-- The output of the commands of a text. -/
def backquoted (e : Interpreter) (source : List Char) : Act (List Char) := do
  let line := (← get).line
  captured (e.finish (discard <| e.text "command substitution: " source line))

/-- The output of a command that only reads a file; redirections are carried out by `carryOut`. -/
def content (carryOut : Act Bool) : Act (List Char) := do
  let channels := (← get).channels
  let ok ← carryOut
  let text ← if ok then inState (·.readAll 0) else pure none
  onState fun s => { s with channels, captured := some (if ok then 0 else 1) }
  return text.getD []

/-- The path of a pipe that a command writes into, or reads if it is `written`. -/
def channel (e : Interpreter) (written : Bool) (line : Nat) (command : Command) : Act String := do
  let s ← get
  let path := channelPath s
  if written then
    putChannel path []
    modify fun s => { s with channelPaths := (path, some (line, command)) :: s.channelPaths }
  else
    let text ← captured (e.inside line command)
    onState fun t => { t with status := s.status, captured := s.captured }
    putChannel path text
    modify fun s => { s with channelPaths := (path, none) :: s.channelPaths }
  return path

/-- How expansions run commands; so many commands inside of each other may only read a file. -/
def runnerWithin (e : Interpreter) : Nat → Runner
  | 0 => ⟨fun line command => captured (e.inside line command), e.backquoted, e.channel⟩
  | depth + 1 =>
    { output := fun line command =>
        match soleInput? command with
        | some r => content (Redirection.carryOut (e.runnerWithin depth) r)
        | none => captured (e.inside line command)
      backquoted := e.backquoted
      channel := e.channel }

/-- How expansions run commands. -/
def runner (e : Interpreter) : Runner := e.runnerWithin e.rounds

/-- Takes the newest pipes away that stand in the places of commands, until `kept` are left. The
commands that are to read them are run. -/
def release (e : Interpreter) (kept : Nat) : Act Unit := do
  let paths := (← get).channelPaths
  modify fun s => { s with channelPaths := paths.drop (paths.length - kept) }
  (paths.take (paths.length - kept)).forM fun (path, reader) => do
    let s ← get
    dropChannel path
    match reader with
    | none => return
    | some (line, command) =>
      let text := match s.disk.read s.cwd ⟨path⟩ with
        | .ok content => Octets.ofBytes content
        | .error _ => []
      let (n, t) := (← get).toState.newInput text s.clock
      onState fun _ => t
      let start (s : Session) : Session := { s with toState := s.toState.open_ 0 (.input n) }
      discard <| inProcess start (e.inside line command)
      onState fun t => { t with status := s.status }

/-- Shows a command before it is run, if that is so set. -/
def trace (e : Interpreter) (shown : String) : Act Unit := do
  let s ← get
  if !s.has 'x' then return
  let mark := ((s.text? "PS4").getD "").toList
  let inner := Parser.enclosed ⟨false, []⟩ (Parser.bound (Cursor.ofText mark 0))
  let pieces := match (Lexer.pieces inner false (4 * mark.length + 8) .document []).run
      (Cursor.ofText mark s.line) with
    | .ok (done, _) => Lexer.finish done
    | .error _ => [.text mark true]
  onState fun s => { s with options := s.options.filter (· != 'x') }
  let lead ← Expand.text e.runner Expand.depth pieces
  onState fun t => { t with options := s.options, status := s.status, captured := s.captured }
  let repeated := String.ofList (List.replicate s.nesting (lead.toList.headD ' '))
  onState fun t => t.complain ((if lead = "" then "" else repeated) ++ lead ++ shown)

end Interpreter

end PlaybookScan.Shell.Bash

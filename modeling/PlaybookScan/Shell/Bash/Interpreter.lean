import PlaybookScan.Shell.Bash.Process

/-!
# Interpreters

An interpreter runs commands. The functions over it that follow here and in other modules say how
something is run by means of an interpreter that runs what is inside. Interpreters with more and
more fuel are made of each other: fuel bounds the depth of commands and the rounds of loops, and a
run that uses it up counts as one that does not end.
-/

set_option autoImplicit false

namespace PlaybookScan.Shell.Bash

/-- How a command is looked for. -/
structure Manner where
  /-- The name may be that of a function. -/
  routines : Bool
  /-- The name may be that of a program. -/
  programs : Bool
  /-- Programs are looked for in the system's directories. -/
  standard : Bool

structure Interpreter where
  /-- How many rounds a loop may have. -/
  rounds : Nat
  /-- Runs a command, whose failure does not end the shell if it is `tested`. -/
  run : (tested : Bool) → Command → Act Unit
  /-- Runs a command by its words. The names are those of the command's own variables; a function
  gives back itself what is told of them. -/
  call : (tested : Bool) → Manner → List String → String → List Operand →
    List (String × Option Variable) → Act Unit
  /-- Runs a shell with its arguments. -/
  shell : List String → State → Flow × State
  /-- Runs a program. -/
  program : Invocation → State → Flow × State

/-- What became of a text that was read as commands. -/
inductive Reading where
  /-- There were none. -/
  | nothing
  | done
  /-- It is not well formed. -/
  | wrong
  deriving DecidableEq

/-- Complains of a text that cannot be read. -/
def reportSyntax (e : SyntaxError) : Act Unit := do
  let s ← get
  e.messages.forM fun message => onState fun t =>
    t.complain (s.place ++ ": " ++ s.unit ++ "line " ++ toString e.line ++ ": " ++ message)

/-- Shows what was read, if that is so set, and tells the warnings about it. -/
def reportRead (c c' : Cursor) : Act Unit := do
  let s ← get
  if s.has 'v' then onState (·.writeText 2 (String.ofList (c.upTo c')))
  c'.warnings.reverse.forM fun (line, message) => onState fun t =>
    t.complain (s.place ++ ": line " ++ toString line ++ ": warning: " ++ message)

namespace Interpreter

/-- The interpreter that runs nothing. -/
def stalled (program : Invocation → State → Flow × State) : Interpreter where
  rounds := 0
  run _ _ := throw .stalled
  call _ _ _ _ _ _ := throw .stalled
  shell _ s := (.stalled, s)
  program

/-- Reads at most so many times commands and runs them, one line after the other. A fault that drops
commands leaves out those of the same line; in the `main` text of a shell it may end the shell. -/
def lines (e : Interpreter) (main : Bool) : Nat → Cursor → Act Reading
  | 0, _ => throw .stalled
  | rounds + 1, c => do
    let s ← get
    let g : Grammar := ⟨s.enables "extglob", if s.enables "expand_aliases" then s.aliases else []⟩
    match (Command.next? g).run { c with warnings := [] } with
    | .error fault =>
      reportSyntax fault
      setStatus 2
      return .wrong
    | .ok (none, c') =>
      reportRead c c'
      return .nothing
    | .ok (some command, c') =>
      reportRead c c'
      modify fun s => { s with line := c'.line - 1 }
      match ← attempt (e.run false command) with
      | .ok () => pure ()
      | .error .dropped =>
        let s ← get
        if 0 < s.level then throw .dropped
        if main && s.has 'e' then throw .exit
      | .error .abandoned =>
        let s ← get
        if 0 < s.level || !main || s.isArgument then throw .abandoned
        if s.has 'e' then throw .exit
      | .error stop => throw stop
      match ← e.lines main rounds c' with
      | .wrong => return .wrong
      | _ => return .done

/-- Runs the commands of a text. -/
def script (e : Interpreter) (main : Bool) (c : Cursor) : Act Reading := e.lines main e.rounds c

/-- Runs a text within the script, the first line of which has this number; complaints about it
begin with `unit`. -/
def text (e : Interpreter) (unit : String) (source : List Char) (line : Nat) : Act Reading := do
  let s ← get
  modify fun s => { s with unit, offset := 0, nesting := s.nesting + 1 }
  let result ← attempt (e.script false (Cursor.ofSource source line))
  modify fun t => { t with
    unit := s.unit, offset := s.offset, nesting := s.nesting, line := s.line }
  conclude result

/-- Runs a text as commands within a command; answers the status. -/
def evaluated (e : Interpreter) (source : String) : Act Nat := do
  match ← e.text "eval: " source.toList (← get).line with
  | .nothing => return 0
  | _ => return (← get).status

end Interpreter

end PlaybookScan.Shell.Bash

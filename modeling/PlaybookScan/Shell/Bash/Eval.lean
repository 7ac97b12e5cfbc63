import PlaybookScan.Shell.Bash.Compound
import PlaybookScan.Shell.Bash.Start

/-!
# Running commands of the large shell

Commands act on the session and leave a status there. How programs are run is a parameter.
-/

set_option autoImplicit false

namespace PlaybookScan.Shell.Bash

/-- The line in which a command with redirections begins. -/
def Command.line? : Command → Option Nat
  | .subshell line _ | .select line .. | .each line .. | .menu line .. | .count line ..
  | .arithmetic line _ | .condition line _ => some line
  | _ => none

/-- Acts on behalf of a command in this line of the script. -/
def atScriptLine (line : Nat) (act : Act Unit) : Act Unit := do
  let s ← get
  atLine ((line : Int) + s.offset).toNat act

/-- Acts on behalf of a command, which then is the one of which traps tell. -/
def onBehalf (command : Command) (act : Act Unit) : Act Unit := do
  if (← get).trapped.isEmpty then modify fun s => { s with current := some command }
  act

/-- Acts on the name of the variable of a loop, and on the values that it takes. -/
def withValues (r : Runner) (name : List Char) (words : Option (List Word))
    (act : String → List String → Act Unit) : Act Unit := do
  let name := String.ofList name
  if !Builtin.isName name then
    report (Builtin.badName name)
    setStatus 1
  else
    let values ← match words with
      | none => pure (← get).args
      | some words => Expand.words r words
    if values.isEmpty then setStatus 0 else inLoop (act name values)

/-- Defines a function. -/
def defineRoutine (line : Nat) (name : String) (body : Command) : Act Unit := do
  let s ← get
  if s.locked.contains name then
    report (name ++ ": readonly function")
    setStatus 1
  else
    let routine : Routine :=
      { line := ((line : Int) + s.offset).toNat
        source := if s.isArgument && s.frames.all (·.saved.isSome) then "environment" else s.place
        body
        exported := ((s.routines.lookup name).map Routine.exported).getD (s.has 'a')
        offset := s.offset }
    modify fun s => { s with
      toState := { s.toState with status := 0 }
      routines := (name, routine) :: s.routines.filter (·.1 != name) }

namespace Interpreter

/-- Runs a command in a subshell. -/
def subshell (e : Interpreter) (tested : Bool) (command body : Command) : Act Unit := do
  let watched := (← get).isWatched
  inForeground command id (e.finish (e.run tested body))
  noteStage
  e.settle
  e.checked tested watched

/-- Runs a pipeline. -/
def pipeline (e : Interpreter) (tested : Bool) (commands : List Command) : Act Unit := do
  let s ← get
  let statuses ← e.stages tested s.status s.clock s.clock none commands
  setStages statuses
  if s.has pipefail then setStatus ((statuses.reverse.find? (· ≠ 0)).getD 0)
  e.settle
  e.checked tested s.isWatched

/-- Runs a command with redirections. -/
def redirect (e : Interpreter) (tested : Bool) (command : Command)
    (redirects : List (Redirect Word)) : Act Unit := do
  let kept := (← get).channelPaths.length
  let act := redirected e.runner redirects (e.run tested command)
  match command.line? with
  | some line => atScriptLine line act
  | none => act
  e.release kept

/-- Computes, and fails if the result is zero. -/
def arithmetic (e : Interpreter) (body : Word) : Act Unit := do
  e.event "DEBUG"
  let source ← Expand.text e.runner Expand.depth body.pieces
  e.trace ("((" ++ source ++ "))")
  let value ← calculate? "((: " source.toList
  setStatus (match value with
    | none | some 0 => 1
    | some _ => 0)

/-- Tests a condition. -/
def condition (e : Interpreter) (test : Test Word) : Act Unit := do
  e.event "DEBUG"
  setStatus (← Condition.status e.runner Expand.depth test)

/-- Runs the arms of a choice that fit a word. -/
def selectBy (e : Interpreter) (tested : Bool) (subject : Word)
    (arms : List (Arm Word Command)) : Act Unit := do
  e.event "DEBUG"
  let text ← Expand.whole e.runner subject
  e.trace ("case " ++ String.ofList subject.source ++ " in")
  setStatus 0
  e.select tested text.toList false arms

/-- The head of a loop over values, as it is shown in front of each round. -/
def headOf (s : Session) (name : List Char) (words : Option (List Word)) : String :=
  let values := match words with
    | none => s.args.map tracedWord
    | some words => words.map fun w => String.ofList w.source
  "for " ++ String.ofList name ++ " in " ++ " ".intercalate values

/-- Tells how long a command took. -/
def timed (e : Interpreter) (tested : Bool) (command : Command) : Act Unit := do
  let start := (← get).clock
  e.run tested command
  onState fun s => s.complain (durationLines (s.clock - start))

/-- Runs a command. -/
def execute (e : Interpreter) (tested : Bool) (command : Command) : Act Unit := do
  let s ← get
  if s.has 'n' then return
  modify fun s => { s with complainer := "" }
  match command with
  | .simple line assigns args redirects =>
    atScriptLine line (onBehalf command (e.simple tested assigns args redirects))
  | .sequence commands => commands.forM (e.run tested)
  | .background command => e.background command
  | .both first second =>
    e.run true first
    if (← get).status = 0 then e.run tested second
  | .either first second =>
    e.run true first
    if (← get).status ≠ 0 then e.run tested second
  | .negate command =>
    e.run true command
    setStatus (if (← get).status = 0 then 1 else 0)
  | .timed command => e.timed tested command
  | .pipeline commands => e.pipeline tested commands
  | .redirected command redirects => e.redirect tested command redirects
  | .group body => e.run tested body
  | .subshell line body => atScriptLine line (e.subshell tested command body)
  | .choose branches otherwise => e.choose tested otherwise branches
  | .loop inverted condition body =>
    inLoop (e.loopWithin tested inverted condition body e.rounds 0)
  | .each line name words body =>
    atScriptLine line (onBehalf command (withValues e.runner name words fun name values =>
      e.each tested (headOf s name.toList words) name body values))
  | .menu line name words body =>
    atScriptLine line (onBehalf command (withValues e.runner name words fun name values =>
      e.menuWithin tested name values body e.rounds true))
  | .count line start condition step body =>
    atScriptLine line (onBehalf command (e.count tested start condition step body))
  | .select line subject arms =>
    atScriptLine line (onBehalf command (e.selectBy tested subject arms))
  | .arithmetic line body =>
    atScriptLine line (onBehalf command do
      e.arithmetic body
      noteStage
      e.checked tested s.isWatched)
  | .condition line test =>
    atScriptLine line (onBehalf command do
      e.condition test
      noteStage
      e.checked tested s.isWatched)
  | .define line name body => defineRoutine line (String.ofList name) body
  | .coprocess _ _ body => e.background body

/-- Runs the commands of a shell, and then what is set for its end. -/
def mainText (e : Interpreter) (unit : String) (source : List Char) : Act Unit :=
  e.finish do
    modify fun s => { s with unit }
    discard <| e.script true (Cursor.ofSource source 1)

/-- Runs the commands of a file. -/
def mainFile (e : Interpreter) (file : String) : Act Unit := do
  let s ← get
  let ends (message : String) (status : Nat) : Act Unit := do
    onState (·.complain message)
    setStatus status
  let places := file :: if file.contains '/' then [] else Shell.places s.searchPath file
  let path := (places.find? fun path =>
    (s.disk.node s.cwd (State.path path)).toBool).getD file
  if s.disk.isDirectory s.cwd (State.path path) then
    ends (file ++ ": " ++ file ++ ": Is a directory") 126
  else match s.disk.read s.cwd (State.path path) with
    | .error fault =>
      ends (s.name ++ ": " ++ file ++ ": " ++ Utility.cause fault)
        (if fault = .noSuchFile then 127 else 126)
    | .ok content =>
      let content := Octets.ofBytes content
      if isBinary content then ends (file ++ ": " ++ file ++ ": cannot execute binary file") 126
      else
        modify fun s => { s with
          toState := { s.toState with name := path }, frames := [⟨"main", path, 0, none⟩] }
        e.mainText "" content

/-- Defines the functions that the outer shell hands on. -/
def takeRoutines (e : Interpreter) (s : State) : Act Unit :=
  (handedOn s).forM fun definition => do
    discard <| e.text "" definition.toList 0
    modify fun s => { s with routines := s.routines.map fun (name, r) =>
      (name, { r with exported := true, source := "environment" }) }

/-- Starts a shell with its arguments in a new session, and runs it. -/
def runShell (e : Interpreter) (args : List String) (s : State) : Flow × State :=
  let act : Act Unit := do
    let source ← start (args.length + 1) ⟨false, false⟩ args.tail
    e.takeRoutines s
    match source with
    | .nothing status => setStatus status
    | .text source => e.mainText "-c: " source.toList
    | .input => e.mainText "" ((← inState (·.readAll 0)).getD [])
    | .file file => e.mainFile file
  let (result, t) := (ExceptT.run act).run (newSession s (args.headD "bash"))
  match result with
  | .error (.signalled n) => (.signalled n, t.toState)
  | .error .stalled => (.stalled, t.toState)
  | _ => (.exit, t.toState)

/-- The interpreter with so much fuel. -/
def ofFuel (program : Invocation → State → Flow × State) : Nat → Interpreter
  | 0 => stalled program
  | fuel + 1 =>
    { rounds := fuel
      run := fun tested command => (ofFuel program fuel).execute tested command
      call := fun tested manner first name operands own =>
        (ofFuel program fuel).callNamed tested manner first name operands own
      shell := fun args s => (ofFuel program fuel).runShell args s
      program }

end Interpreter

/-- Runs a shell with its arguments, the first of which is its name. -/
def shell (program : Invocation → State → Flow × State) (fuel : Nat) (args : List String)
    (s : State) : Flow × State :=
  (Interpreter.ofFuel program fuel).shell args s

end PlaybookScan.Shell.Bash

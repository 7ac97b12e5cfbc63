import PlaybookScan.Shell.Bash.Menu
import PlaybookScan.Shell.Bash.Simple
import PlaybookScan.Shell.Scope

/-!
# Compound commands of the large shell

Pipelines, loops, choices and commands in the background.
-/

set_option autoImplicit false

namespace PlaybookScan.Shell.Bash

/-- The pattern of a word; its letters are changed by `fold`. -/
def patternOf (r : Runner) (w : Word) (fold : Char → Char) : Act (List Glob) := do
  let ms ← Expand.marksOf r w
  let groups := (← get).enables "extglob"
  return Glob.ofMarks groups ms.length (ms.map fun m => ⟨fold m.char, m.active⟩)

/-- How the letters of texts are compared. -/
def caseFolding (s : Session) (c : Char) : Char :=
  if s.enables "nocasematch" then c.toLower else c

/-- Gives the variable of a loop its next value; what refers to another variable then refers to the
one of this name. -/
def giveRound (name value : String) : Act Bool := do
  let s ← get
  if (s.bindings.lookup name).any (Variable.has · 'n') then
    if ← isLocked name then return false
    onState (·.alter name fun v => { v with value := some value })
    return true
  else Assign.giveText name .none false value

/-- The time that commands took, as it is told. -/
def durationLines (milliseconds : Nat) : String :=
  let digits := toString (milliseconds % 1000)
  let real := toString (milliseconds / 60000) ++ "m" ++ toString (milliseconds / 1000 % 60) ++ "." ++
    "".pushn '0' (3 - digits.length) ++ digits ++ "s"
  "\nreal\t" ++ real ++ "\nuser\t0m0.000s\nsys\t0m0.000s"

namespace Interpreter

/-! ## Pipelines -/

/-- Runs the last stage of a pipeline, which `opened` prepares. -/
def lastStage (e : Interpreter) (tested : Bool) (opened : Session → Session)
    (command : Command) : Act Unit := do
  if (← get).enables "lastpipe" then
    withChannels do
      modify opened
      e.run tested command
  else inForeground command opened (e.finish (e.run tested command))

/-- Runs the stages of a pipeline side by side from `start` on; `input` is what the first one reads,
and those before it have ended when the clock shows `finished`. Answers their statuses. -/
def stages (e : Interpreter) (tested : Bool) (status start finished : Nat) (input : Option Nat) :
    List Command → Act (List Nat)
  | [] => return []
  | command :: rest => do
    let opened (s : Session) : Session :=
      let t := { s.toState with clock := start, status }
      { s with toState := match input with
          | some n => t.open_ 0 (.input n)
          | none => t }
    if rest.isEmpty then
      e.lastStage tested opened command
      onState fun t => { t with clock := max finished t.clock }
      return [(← get).status]
    else
      let (n, t) := (← get).toState.newPipe
      onState fun _ => t
      let writing (s : Session) : Session :=
        let s := opened s
        { s with toState := s.toState.open_ 1 (.pipe n) }
      let ended ← inProcess writing (e.finish (e.run tested command))
      let s ← get
      let ended := match ended with
        | .stalled => start
        | _ => s.clock
      let (text, cycle) := s.toState.pipeContent n
      let (m, t) := s.toState.addInput ⟨text, cycle, s.toState.pipeEnd n ended, false⟩
      onState fun _ => t
      return s.status :: (← e.stages tested status start (max finished ended) (some m) rest)

/-! ## Loops -/

/-- Runs a body for each value. -/
def each (e : Interpreter) (tested : Bool) (head name : String) (body : Command) :
    List String → Act Unit
  | [] => return
  | value :: rest => do
    e.event "DEBUG"
    e.trace head
    if !(← giveRound name value) then setStatus 1
    else if ← round (e.run tested body) then e.each tested head name body rest

/-- Runs a body as long as its condition tells, at most so many times; `status` is that of the last
round. -/
def loopWithin (e : Interpreter) (tested inverted : Bool) (condition body : Command) :
    Nat → Nat → Act Unit
  | 0, _ => throw .stalled
  | rounds + 1, status => do
    if ← round (e.run true condition) then
      let s ← get
      if Shell.horizon ≤ s.clock then throw .stalled
      if (s.status == 0) == inverted then setStatus status
      else if ← round (e.run tested body) then
        e.loopWithin tested inverted condition body rounds (← get).status

/-- The value of a part of the head of a loop; none after a fault, which has been told. -/
def counted (e : Interpreter) (w : Word) : Act (Option Int) := do
  let source ← Expand.text e.runner Expand.depth w.pieces
  e.trace ("(( " ++ source ++ " ))")
  if Shell.Arithmetic.trim source.toList = [] then return some 1
  calculate? "((: " source.toList

/-- Runs at most so many rounds of a loop that counts. -/
def countWithin (e : Interpreter) (tested : Bool) (condition step : Word) (body : Command) :
    Nat → Act Unit
  | 0 => throw .stalled
  | rounds + 1 => do
    match ← e.counted condition with
    | none => setStatus 1
    | some 0 => return
    | some _ =>
      if Shell.horizon ≤ (← get).clock then throw .stalled
      if ← round (e.run tested body) then
        match ← e.counted step with
        | none => setStatus 1
        | some _ => e.countWithin tested condition step body rounds

/-- Runs a loop that counts. -/
def count (e : Interpreter) (tested : Bool) (start condition step : Word) (body : Command) :
    Act Unit := do
  match ← e.counted start with
  | none => setStatus 1
  | some _ =>
    setStatus 0
    inLoop (e.countWithin tested condition step body e.rounds)

/-- Asks at most so many times for one of some words, and runs a body as long as there is an
answer. -/
def menuWithin (e : Interpreter) (tested : Bool) (name : String) (values : List String)
    (body : Command) : Nat → Bool → Act Unit
  | 0, _ => throw .stalled
  | rounds + 1, shows => do
    if shows then (Menu.lines values).forM fun line => onState (·.complain line)
    let prompt := ((← get).text? "PS3").getD "#? "
    onState (·.writeText 2 prompt)
    let status ← Builtin.read []
    let reply := ((← get).text? "REPLY").getD ""
    if status ≠ 0 && reply = "" then
      writeLine ""
      setStatus 1
    else if reply = "" then e.menuWithin tested name values body rounds true
    else
      let chosen : String := match Builtin.integer? reply with
        | some n => if 0 < n then values.getD (n.toNat - 1) "" else ""
        | none => ""
      if !(← Assign.giveText name .none false chosen) then setStatus 1
      else if ← round (e.run tested body) then
        e.menuWithin tested name values body rounds (((← get).text? "REPLY").getD "" = "")

/-! ## Choices -/

/-- Runs the first branch whose condition holds. -/
def choose (e : Interpreter) (tested : Bool) (otherwise : Option Command) :
    List (Command × Command) → Act Unit
  | [] =>
    match otherwise with
    | some body => e.run tested body
    | none => setStatus 0
  | (condition, body) :: rest => do
    e.run true condition
    if (← get).status = 0 then e.run tested body else e.choose tested otherwise rest

/-- One of the patterns of an arm matches. -/
def fits (e : Interpreter) (subject : List Char) : List Word → Act Bool
  | [] => return false
  | w :: rest => do
    let fold := caseFolding (← get)
    if Glob.isMatch (← patternOf e.runner w fold) (subject.map fold) then return true
    e.fits subject rest

/-- Runs the first arm with a pattern that matches, and those that go on from there; with `falls`,
the first arm in any case. -/
def select (e : Interpreter) (tested : Bool) (subject : List Char) :
    Bool → List (Arm Word Command) → Act Unit
  | _, [] => return
  | falls, arm :: rest => do
    let taken ← if falls then pure true else e.fits subject arm.patterns
    if !taken then e.select tested subject false rest
    else
      match arm.body with
      | .sequence [] => setStatus 0
      | body => e.run tested body
      match arm.ends with
      | .leave => return
      | .fall => e.select tested subject true rest
      | .resume => e.select tested subject false rest

/-! ## The background -/

/-- Starts a command in the background. -/
def background (e : Interpreter) (command : Command) : Act Unit := do
  let s ← get
  let pid := s.nextPid
  let (n, t) := s.toState.newInput [] 0
  onState fun _ => t
  let start (s : Session) : Session :=
    { s with toState := { s.toState with job := pid }.open_ 0 (.input n) }
  let ended ← inProcess start (e.finish (e.run false command))
  let t ← get
  let (endsAt, signal) : Nat × Option Nat := match ended with
    | .stalled => (t.clock + 2 ^ 40, none)
    | .signalled n => (t.clock, some n)
    | .exited => (t.clock, none)
  let job : Job := ⟨pid, endsAt, t.status, signal⟩
  modify fun t => { t with
    toState := { t.toState with
      clock := s.clock, status := 0, background := some pid, jobs := job :: s.jobs }
    jobTexts := (pid, command.shown) :: s.jobTexts }

end Interpreter

end PlaybookScan.Shell.Bash

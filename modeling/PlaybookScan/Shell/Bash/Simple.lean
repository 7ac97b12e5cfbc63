import PlaybookScan.Shell.Bash.Call

/-!
# Simple commands of the large shell

Assignments, the words of a command and redirections.
-/

set_option autoImplicit false

namespace PlaybookScan.Shell.Bash

/-- The words that come before the arguments of a command and choose how it is looked for. -/
def isModifier (word : String) : Bool := ["command", "builtin", "-p", "--"].contains word

/-- The arguments of a command after their expansion, behind those that are `done`, last first. -/
def operandsOf (r : Runner) (done : List Operand) : List (Argument Word) → Act (List Operand)
  | [] => return done.reverse
  | .word w :: rest => do
    let words ← Expand.word r w
    operandsOf r ((words.map Operand.word).reverse ++ done) rest
  | .assignment a :: rest => do
    let g ← Assign.expand r a
    let names := done.reverse.map Operand.text
    let declares := ((names.dropWhile isModifier).head?.map Parser.declares).getD false
    operandsOf r ((if declares then .assignment g else .word g.shown) :: done) rest

/-- A word as it is shown in front of its effect. -/
def tracedWord (word : String) : String :=
  if word = "" then "''"
  else if !word.toList.all Quoting.isPrintable then Quoting.backslashed word
  else if Builtin.hasSpecial word then Builtin.singleQuoted word
  else word

/-- An assignment as it is shown in front of its effect. -/
def tracedGift (g : Given) : String :=
  let place := { g with gift := .nothing }.shown ++ if g.appends then "+=" else "="
  match g.gift with
  | .nothing => { g with gift := .nothing }.shown
  | .text text => place ++ if text = "" then "" else tracedWord text
  | .items items =>
    let item (i : Item) : String := match i.key with
      | some key => "[" ++ key ++ "]=" ++ tracedWord i.value
      | none => tracedWord i.value
    place ++ "(" ++ " ".intercalate (items.map item) ++ ")"

def tracedOperand : Operand → String
  | .word text => tracedWord text
  | .assignment g => tracedGift g

/-- The command for failures is set. -/
def Session.isWatched (s : Session) : Bool := (s.traps.lookup "ERR").any (· ≠ "")

/-- Notes the statuses of the stages of a pipeline. -/
def setStages (statuses : List Nat) : Act Unit := modify fun s => { s with stages := statuses }

/-- Notes the status as that of a pipeline with one stage. -/
def noteStage : Act Unit := do setStages [(← get).status]

namespace Interpreter

/-- Gives variables their values for good. -/
def assignAll (e : Interpreter) (assigns : List (Assignment Word)) : Act Unit :=
  assigns.forM fun a => do
    let g ← Assign.expand e.runner a
    e.trace (tracedGift g)
    if !(← Assign.give g) then drop

/-- Runs a command without words. -/
def assignOnly (e : Interpreter) (assigns : List (Assignment Word))
    (redirects : List (Redirect Word)) : Act Unit := do
  let channels := (← get).channels
  e.assignAll assigns
  let ok ← Redirection.carryOutAll e.runner redirects
  onState fun s => { s with channels, status := if ok then s.captured.getD 0 else 1 }
  modify fun s => { s with lastWord := "" }

/-- Runs a command with words, the first of which is its name. Its channels stay if it sets those of
the shell. -/
def callWith (e : Interpreter) (tested : Bool) (assigns : List (Assignment Word))
    (redirects : List (Redirect Word)) (name : String) (operands : List Operand) : Act Unit := do
  let channels := (← get).channels
  let isRoutine := ((← get).routines.lookup name).isSome
  let own ← assignForCommand e.runner e.trace assigns
  e.trace (" ".intercalate ((.word name :: operands).map tracedOperand))
  let result ← attempt do
    if ← Redirection.carryOutAll e.runner redirects then
      e.callNamed tested ⟨true, true, false⟩ (own.map Prod.fst) name operands
        (if isRoutine then own else [])
    else
      setStatus 1
      if isRoutine then giveBack own
  if !isRoutine then giveBack own
  let words := name :: operands.map Operand.text
  let keeps := (words.dropWhile isModifier).head? = some "exec" && result matches .ok ()
  onState fun s => if keeps then s else { s with channels }
  modify fun s => { s with lastWord := (words.getLast?).getD "" }
  conclude result

/-- Runs a simple command. -/
def simple (e : Interpreter) (tested : Bool) (assigns : List (Assignment Word))
    (args : List (Argument Word)) (redirects : List (Redirect Word)) : Act Unit := do
  e.event "DEBUG"
  let kept := (← get).channelPaths.length
  let watched := (← get).isWatched
  onState fun s => { s with captured := none }
  match ← operandsOf e.runner [] args with
  | [] => e.assignOnly assigns redirects
  | command :: operands => e.callWith tested assigns redirects command.text operands
  e.release kept
  noteStage
  e.settle
  e.checked tested watched

end Interpreter

end PlaybookScan.Shell.Bash

import PlaybookScan.Shell.Bash.Expand
import PlaybookScan.Shell.Redirection
import PlaybookScan.Shell.Utility.Basic

/-!
# Redirections of the large shell

Each redirection is expanded and carried out before the next one. The first fault is told and ends
them; what was opened before stays open until the command has ended.
-/

set_option autoImplicit false

namespace PlaybookScan.Shell.Bash

namespace Redirection

/-- What a redirection leads to. -/
inductive Aim where
  | file (path : String)
  | text (text : String)
  | descriptor (n : Nat) (moves : Bool)
  | closed
  | unclear

/-- What the operand of a duplication names. -/
def duplicated (output : Bool) (text : String) : Aim :=
  let cs := text.toList
  let digits := cs.takeWhile Char.isDigit
  let number := (String.ofList digits).toNat?.getD 0
  match digits, cs.drop digits.length with
  | [], ['-'] => .closed
  | _ :: _, [] => .descriptor number false
  | _ :: _, ['-'] => .descriptor number true
  | _, _ => if output then .file text else .unclear

/-- Expands the operand. -/
def aim (r : Runner) (one : Redirect Word) : Act Aim := do
  match one.kind with
  | .document => return .text (← Expand.text r Expand.depth one.operand.pieces)
  | .line => return .text ((← Expand.whole r one.operand) ++ "\n")
  | kind =>
    match ← Expand.word r one.operand with
    | [text] =>
      match kind with
      | .duplicate input =>
        let isOutput : Bool := match one.target with
          | .number 1 => !input
          | _ => false
        return duplicated isOutput text
      | _ => return .file text
    | _ => return .unclear

/-- The lowest descriptor from ten on that is not open. -/
def unused (s : State) : Nat :=
  ((List.range (s.channels.length + 1)).map (· + 10)).find? (fun n => (s.channel? n).isNone)
    |>.getD 10

/-- The descriptor that a path stands for. -/
def standing? (s : State) (path : String) : Option Nat :=
  match State.standard? path with
  | some n => some n
  | none =>
    let digits := (path.drop 8).toString
    if path.startsWith "/dev/fd/" ∧ digits ≠ "" ∧ digits.toList.all Char.isDigit then
      digits.toNat?.filter fun n => (s.channel? n).isSome
    else none

/-- Why a file cannot be opened. -/
def fault (path : String) (e : IoError) : String :=
  path ++ ": " ++ if e = .system 17 then "cannot overwrite existing file" else Utility.cause e

/-- The kind of the small shell's redirection that opens a file in the same way. -/
def opening : RedirectKind → Shell.RedirectKind
  | .append | .both true => .append
  | .clobber => .clobber
  | .readWrite => .readWrite
  | _ => .write

/-- Opens a file. -/
def openFile (s : State) (descriptor : Nat) (kind : RedirectKind) (path : String) :
    Except String State :=
  if path = "" then .error (fault "" .noSuchFile)
  else match standing? s path, kind with
  | some n, _ => s.duplicate descriptor n
  | none, .read => (s.openInput descriptor path).mapError (fault path)
  | none, .readWrite => do
    let t ← (s.openOutput descriptor .readWrite path).mapError (fault path)
    if descriptor = 0 then (t.openInput 0 path).mapError (fault path) else return t
  | none, kind =>
    if s.disk.isDirectory s.cwd (State.path path) then .error (fault path .isADirectory)
    else (s.openOutput descriptor (opening kind) path).mapError (fault path)

/-- Carries out a redirection of the descriptor; says what is wrong. -/
def apply (s : State) (descriptor : Nat) (kind : RedirectKind) (aim : Aim) (source : String) :
    Except String State :=
  match aim with
  | .unclear => .error (source ++ ": ambiguous redirect")
  | .closed => .ok (s.close descriptor)
  | .text text =>
    let (n, s) := s.newInput text.toList s.clock
    .ok (s.open_ descriptor (.input n))
  | .descriptor n moves => do
    let t ← s.duplicate descriptor n
    return if moves && n != descriptor then t.close n else t
  | .file path =>
    match kind with
    | .both _ | .duplicate _ => do
      let t ← openFile s 1 kind path
      t.duplicate 2 1
    | kind => openFile s descriptor kind path

/-- Carries out a redirection; says whether that worked. -/
def carryOut (r : Runner) (one : Redirect Word) : Act Bool := do
  let aim ← aim r one
  let s ← get
  let closes : Bool := match aim with
    | .closed => true
    | _ => false
  let (descriptor, name) : Nat × Option String := match one.target with
    | .number n => (n, none)
    | .named name =>
      if closes then (((s.text? name).bind String.toNat?).getD 0, none)
      else (unused s.toState, some name)
  match apply s.toState descriptor one.kind aim (String.ofList one.operand.source) with
  | .error message =>
    report message
    return false
  | .ok t =>
    onState fun _ => t
    match name with
    | some name => store name .none (toString descriptor)
    | none => return true

/-- Carries out redirections up to the first fault; says whether there was none. -/
def carryOutAll (r : Runner) : List (Redirect Word) → Act Bool
  | [] => return true
  | one :: rest => do
    if ← carryOut r one then carryOutAll r rest else return false

end Redirection

end PlaybookScan.Shell.Bash

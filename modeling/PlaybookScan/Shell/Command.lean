import PlaybookScan.Number.Instances

/-!
# Shell commands

The commands of the shell language and the words that they are made of.
-/

set_option autoImplicit false

namespace PlaybookScan.Shell

/-- What is done with the value of a parameter. With `colon`, an empty value counts as none. -/
inductive ParamOp where
  | value
  | length
  /-- `${x-word}` -/
  | default (colon : Bool)
  /-- `${x=word}` -/
  | assign (colon : Bool)
  /-- `${x+word}` -/
  | alternative (colon : Bool)
  /-- `${x?word}` -/
  | require (colon : Bool)
  /-- The braces hold no valid operator. -/
  | invalid
  /-- `${x#pattern}`, or with two signs the longest -/
  | dropStart (longest : Bool)
  /-- `${x%pattern}`, or with two signs the longest -/
  | dropEnd (longest : Bool)
  deriving DecidableEq, Repr

/-- A piece of a word. What comes of a quoted piece is neither split nor taken for a pattern. -/
inductive Piece where
  | text (chars : List Char) (quoted : Bool)
  | param (name : String) (op : ParamOp) (arg : List Piece) (quoted : Bool)
  /-- The output of the commands in `source`, which begins in the line `line`. -/
  | output (source : List Char) (line : Nat) (quoted : Bool)
  | arithmetic (body : List Piece) (quoted : Bool)
  deriving Inhabited

abbrev Word := List Piece

inductive RedirectKind where
  | read
  | readWrite
  | write
  /-- Writes also over a file that must not be written over. -/
  | clobber
  | append
  /-- The target is the number of another descriptor, or a hyphen. -/
  | duplicate
  /-- The target is the text itself. -/
  | here
  deriving DecidableEq, Repr

structure Redirect where
  descriptor : Nat
  kind : RedirectKind
  target : Word

inductive Command where
  /-- Assignments, words and redirections; `line` is where it stands. -/
  | simple (line : Nat) (assigns : List (String × Word)) (words : List Word)
      (redirects : List Redirect)
  | sequence (commands : List Command)
  | background (command : Command)
  | both (first second : Command)
  | either (first second : Command)
  | negate (command : Command)
  | pipeline (stages : List Command)
  | group (body : Command) (redirects : List Redirect)
  | subshell (body : Command) (redirects : List Redirect)
  /-- Conditions with their bodies. -/
  | choose (branches : List (Command × Command)) (otherwise : Option Command)
      (redirects : List Redirect)
  /-- Runs the body as long as the condition ends with 0; if `inverted`, as long as it does not. -/
  | loop (inverted : Bool) (condition body : Command) (redirects : List Redirect)
  /-- Without words, for each argument. -/
  | each (name : String) (words : Option (List Word)) (body : Command) (redirects : List Redirect)
  /-- Patterns with their bodies. -/
  | select (subject : Word) (arms : List (List Word × Command)) (redirects : List Redirect)
  | define (name : String) (body : Command)
  /-- The process has nothing to do behind this command. -/
  | final (command : Command)
  deriving Inhabited

/-- A command that does nothing. -/
def Command.nothing : Command := .sequence []

def Command.isNothing : Command → Bool
  | .sequence [] => true
  | _ => false

mutual

/-- The command where its process has nothing to do behind it. -/
def Command.ending : Command → Command
  | .simple line assigns words redirects => .final (.simple line assigns words redirects)
  | .sequence commands => .sequence (endingLast commands)
  | .both first second => .both first second.ending
  | .either first second => .either first second.ending
  | .choose branches otherwise redirects =>
    if redirects.isEmpty then .choose (endingBranches branches) (endingElse otherwise) redirects
    else .choose branches otherwise redirects
  | .group body redirects =>
    .group (if redirects.isEmpty then body.ending else body) redirects
  | command => command

/-- The commands where the process has nothing to do behind the last one. -/
def endingLast : List Command → List Command
  | [] => []
  | [last] => [last.ending]
  | command :: commands => command :: endingLast commands

def endingBranches : List (Command × Command) → List (Command × Command)
  | [] => []
  | (condition, body) :: branches => (condition, body.ending) :: endingBranches branches

def endingElse : Option Command → Option Command
  | none => none
  | some body => some body.ending

end

end PlaybookScan.Shell

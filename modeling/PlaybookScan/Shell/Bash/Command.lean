/-!
# Commands of the large shell

The large shell has all the commands of the small one and more: variables with several elements,
conditions and arithmetic as commands of their own, loops that count, and more operators behind the
name of a parameter.
-/

set_option autoImplicit false

namespace PlaybookScan.Shell.Bash

/-- A part of a script with the pieces that it is made of. -/
structure Phrase (P : Type) where
  source : List Char
  pieces : List P
  deriving Inhabited

/-- The elements of a variable that are meant. -/
inductive Index (W : Type) where
  /-- There is no subscript. -/
  | whole
  /-- All elements; with a `star`, as one text where they are quoted. -/
  | every (star : Bool)
  | element (subscript : W)

/-- What becomes of the case of letters. -/
inductive Change where
  | upper
  | lower
  | swap
  deriving DecidableEq

/-- Which of the texts that match are replaced. -/
inductive Place where
  | first
  | all
  | atStart
  | atEnd
  deriving DecidableEq

/-- What is done with the value of a parameter. The words that it needs stand behind it. With
`colon`, an empty value counts as none. -/
inductive Operation where
  | value
  | length
  /-- `${x-word}` -/
  | default (colon : Bool)
  /-- `${x=word}` -/
  | assign (colon : Bool)
  /-- `${x+word}` -/
  | alternative (colon : Bool)
  /-- `${x?word}` -/
  | require (colon : Bool)
  /-- `${x#pattern}`, or with two signs the longest -/
  | dropStart (longest : Bool)
  /-- `${x%pattern}`, or with two signs the longest -/
  | dropEnd (longest : Bool)
  /-- `${x/pattern/word}` -/
  | replace (place : Place)
  /-- `${x:offset:length}` -/
  | slice
  /-- `${x^pattern}` and its like, at the first character or at each -/
  | change (change : Change) (every : Bool)
  /-- `${x@Q}` and its like -/
  | transform (letter : Char)
  /-- The keys of the elements. -/
  | keys
  /-- The names of variables that begin with this one. -/
  | names (star : Bool)
  /-- The braces hold no valid operator. -/
  | invalid
  deriving DecidableEq

/-- The descriptor that a redirection changes. -/
inductive Target where
  | number (n : Nat)
  /-- A new one, whose number a variable gets. -/
  | named (name : String)
  deriving DecidableEq

inductive RedirectKind where
  | read
  | readWrite
  | write
  /-- Writes also over a file that must not be written over. -/
  | clobber
  | append
  /-- The operand is the number of another descriptor, with a hyphen behind it if that is closed. -/
  | duplicate (input : Bool)
  /-- Output and error output go to a file. -/
  | both (append : Bool)
  /-- The operand is the text itself. -/
  | document
  /-- The operand is the text itself but for its newline. -/
  | line
  deriving DecidableEq

structure Redirect (W : Type) where
  target : Target
  kind : RedirectKind
  operand : W

/-- An element of a list of values. -/
structure Element (W : Type) where
  key : Index W
  appends : Bool
  value : W

inductive Content (W : Type) where
  | text (word : W)
  | elements (items : List (Element W))

structure Assignment (W : Type) where
  name : String
  key : Index W
  appends : Bool
  content : Content W

/-- A word behind the name of a command. -/
inductive Argument (W : Type) where
  | word (word : W)
  | assignment (assignment : Assignment W)

/-- A condition between double brackets. -/
inductive Test (W : Type) where
  | word (word : W)
  | unary (op : String) (operand : W)
  | binary (op : String) (left right : W)
  | negate (test : Test W)
  | both (first second : Test W)
  | either (first second : Test W)
  | group (test : Test W)

/-- What follows an arm of a selection. -/
inductive ArmEnd where
  | leave
  /-- The body of the next arm is run too. -/
  | fall
  /-- The other arms are tried too. -/
  | resume
  deriving DecidableEq

/-- An arm of a selection. -/
structure Arm (W C : Type) where
  patterns : List W
  body : C
  ends : ArmEnd

mutual

/-- A piece of a word. What comes of a quoted piece is neither split nor taken for a pattern. -/
inductive Piece where
  | text (chars : List Char) (quoted : Bool)
  /-- A parameter, which stands as `source` in the script; an `indirect` one is named by the value of
  another. -/
  | param (indirect : Bool) (name : String) (index : Index (Phrase Piece)) (op : Operation)
      (words : List (Phrase Piece)) (source : List Char) (quoted : Bool)
  /-- The output of a command that begins in the line `line` of the script. -/
  | output (line : Nat) (command : Command) (quoted : Bool)
  /-- The output of the commands in `source`. -/
  | backquoted (source : List Char) (quoted : Bool)
  | arithmetic (body : List Piece) (quoted : Bool)
  /-- The path of a pipe that a command writes into, or reads if the word's file is written. -/
  | channel (written : Bool) (line : Nat) (command : Command)

inductive Command where
  | simple (line : Nat) (assigns : List (Assignment (Phrase Piece)))
      (words : List (Argument (Phrase Piece))) (redirects : List (Redirect (Phrase Piece)))
  | sequence (commands : List Command)
  | background (command : Command)
  | both (first second : Command)
  | either (first second : Command)
  | negate (command : Command)
  | timed (command : Command)
  | pipeline (stages : List Command)
  | redirected (command : Command) (redirects : List (Redirect (Phrase Piece)))
  | group (body : Command)
  | subshell (line : Nat) (body : Command)
  /-- Conditions with their bodies. -/
  | choose (branches : List (Command × Command)) (otherwise : Option Command)
  /-- Runs the body as long as the condition ends with 0; if `inverted`, as long as it does not. -/
  | loop (inverted : Bool) (condition body : Command)
  /-- Without words, for each argument. -/
  | each (line : Nat) (name : List Char) (words : Option (List (Phrase Piece))) (body : Command)
  /-- Asks for one of the words, as long as there is an answer. -/
  | menu (line : Nat) (name : List Char) (words : Option (List (Phrase Piece))) (body : Command)
  /-- A loop with a start, a condition and a step. -/
  | count (line : Nat) (start condition step : Phrase Piece) (body : Command)
  | select (line : Nat) (subject : Phrase Piece) (arms : List (Arm (Phrase Piece) Command))
  | arithmetic (line : Nat) (body : Phrase Piece)
  | condition (line : Nat) (test : Test (Phrase Piece))
  | define (line : Nat) (name : List Char) (body : Command)
  | coprocess (line : Nat) (name : String) (body : Command)
  deriving Inhabited

end

abbrev Word := Phrase Piece

/-- A command that does nothing. -/
def Command.nothing : Command := .sequence []

/-- The command with a redirection behind those that it has. -/
def Command.addRedirect (r : Redirect Word) : Command → Command
  | .simple line assigns words redirects => .simple line assigns words (redirects ++ [r])
  | .redirected command redirects => .redirected command (redirects ++ [r])
  | command => .redirected command [r]

/-- The text of a word that is made of plain text alone. -/
def Word.plain? (w : Word) : Option String :=
  match w.pieces with
  | [.text cs false] => some (String.ofList cs)
  | _ => none

end PlaybookScan.Shell.Bash

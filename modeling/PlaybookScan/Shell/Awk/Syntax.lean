import PlaybookScan.Shell.Regex

/-!
# Record programs

A program is a list of rules: what is done with each record that a condition holds for. Expressions
have values, statements change what the program knows or write something.
-/

set_option autoImplicit false

namespace PlaybookScan.Shell.Awk

/-- A variable of the program, or one of the function by its place among the arguments. -/
inductive Name where
  | global (name : String)
  | local (index : Nat)
  deriving DecidableEq, Inhabited

inductive Comparison where
  | less
  | atMost
  | equal
  | unequal
  | greater
  | atLeast
  deriving DecidableEq

def Comparison.holds : Comparison → Ordering → Bool
  | less, o => o == .lt
  | atMost, o => o != .gt
  | equal, o => o == .eq
  | unequal, o => o != .eq
  | greater, o => o == .gt
  | atLeast, o => o != .lt

inductive Expr where
  | number (x : Float)
  | text (s : String)
  /-- A regular expression; by itself it asks whether the record matches. -/
  | pattern (f : Regex.Finder)
  | name (x : Name)
  | element (table : Name) (keys : List Expr)
  | field (index : Expr)
  /-- With an operator, the old value takes part. -/
  | assign (target : Expr) (op : Option Char) (value : Expr)
  /-- One more or one less; the value is the one `before` or behind that. -/
  | step (before : Bool) (up : Bool) (target : Expr)
  | unary (op : Char) (arg : Expr)
  | arithmetic (op : Char) (left right : Expr)
  | concat (left right : Expr)
  | compare (op : Comparison) (left right : Expr)
  | «matches» (negated : Bool) (subject pattern : Expr)
  | both (left right : Expr)
  | either (left right : Expr)
  | choose (condition yes no : Expr)
  | member (keys : List Expr) (table : Name)
  | call (function : String) (args : List Expr)
  | builtin (name : String) (args : List Expr)
  /-- Reads a record of the input. -/
  | read (target : Option Expr)
  | readFile (target : Option Expr) (file : Expr)
  | readOutput (target : Option Expr) (command : Expr)
  /-- Expressions in parentheses. -/
  | group (es : List Expr)
  deriving Inhabited

/-- Where the output of a statement goes. -/
inductive Target where
  | write
  | append
  | pipe
  deriving DecidableEq

inductive Statement where
  | nothing
  | expr (e : Expr)
  /-- Writes values, by a format if the first one is one. -/
  | print (formatted : Bool) (args : List Expr) (target : Option (Target × Expr))
  | block (body : List Statement)
  | choose (condition : Expr) (yes no : Statement)
  | «while» (condition : Expr) (body : Statement)
  | doWhile (body : Statement) (condition : Expr)
  | loop (start : Statement) (condition : Option Expr) (step body : Statement)
  | each (x : Name) (table : Name) (body : Statement)
  | leave
  | again
  | next
  | nextFile
  | exit (status : Option Expr)
  | give (value : Option Expr)
  | delete (table : Name) (keys : Option (List Expr))
  deriving Inhabited

/-- When a rule is followed. -/
inductive Condition where
  | start
  | finish
  | always
  | when (e : Expr)
  /-- From one record to another. -/
  | range (first last : Expr)

structure Rule where
  condition : Condition
  body : Statement

structure Function where
  arity : Nat
  body : Statement

structure Program where
  rules : List Rule
  functions : List (String × Function)

end PlaybookScan.Shell.Awk

import PlaybookScan.Shell.Regex.Posix
import PlaybookScan.Shell.Utility.Attributes
import PlaybookScan.Shell.Utility.Files

/-!
# Expressions on files

What `find` is asked to do with each file: tests and actions, joined by operators.
-/

set_option autoImplicit false

namespace PlaybookScan.Shell.Find

open Utility (quoted cause)

/-- A number is to be equal to another, or less, or more. -/
structure Comparison where
  order : Ordering
  number : Nat

def Comparison.holds (c : Comparison) (n : Nat) : Bool := compare n c.number == c.order

/-- Which bits of the permissions count. -/
inductive Permissions where
  | exactly (mode : Nat)
  | all (mode : Nat)
  | any (mode : Nat)

/-- Where the output of an action goes. -/
inductive Target where
  | output
  | file (name : String)

/-- A command to be run. -/
structure Order where
  args : List String
  /-- It is run in the directory of the file. -/
  inside : Bool
  /-- It is run only if the user agrees. -/
  asks : Bool

inductive Primary where
  | constant (value : Bool)
  | name (folded : Bool) (p : Pattern)
  | path (folded : Bool) (p : Pattern)
  | linkTarget (folded : Bool) (p : Pattern)
  | regex (r : Regex.Finder)
  /-- The letters of kinds; those of what links lead to, if `through`. -/
  | kind (through : Bool) (letters : List Char)
  /-- The number of units of so many bytes. -/
  | size (c : Comparison) (unit : Nat)
  | empty
  | permissions (p : Permissions)
  | links (c : Comparison)
  /-- The number of the user or group. -/
  | owner (c : Comparison)
  | identity (c : Comparison)
  /-- Days since a change. -/
  | days (c : Comparison)
  /-- Minutes since a change, in which `exact` says that their number is whole. -/
  | minutes (c : Comparison)
  | executable
  | same (place : List String)
  | print (stop : Char) (target : Target)
  | format (text : List Char) (target : Target)
  | list (target : Target)
  | run (o : Order)
  /-- A command for all files at once, by its number. -/
  | runAll (number : Nat) (o : Order)
  | delete
  | prune
  | quit

inductive Expression where
  | primary (p : Primary)
  | not (e : Expression)
  | both (first second : Expression)
  | either (first second : Expression)
  | sequence (first second : Expression)

/-- An operator with two sides. -/
inductive Operator where
  | comma
  | or
  | and
  deriving DecidableEq

def Operator.rank : Operator → Nat
  | comma => 1
  | or => 2
  | and => 3

def Operator.join : Operator → Expression → Expression → Expression
  | comma => .sequence
  | or => .either
  | and => .both

/-- A word of an expression, as it was written. -/
inductive Token where
  | primary (p : Primary)
  | operator (name : String) (o : Operator)
  | negation (name : String)
  | opening
  | closing

/-- What holds for the whole run. -/
structure Settings where
  /-- How links are followed: `P`, `H` or `L`. -/
  links : Char
  least : Nat
  most : Option Nat
  depthFirst : Bool
  warns : Bool
  style : Regex.Style
  lenient : Bool

/-! ## Reading the structure -/

def tooMany : String := "you have too many ')'"

def unclosed : String :=
  "invalid expression; I was expecting to find a ')' somewhere but did not see one."

mutual

/-- Reads an expression whose operators bind more tightly than `rank`, behind the word `before`; the
expression stands within an action of its own if `wrapped`. `fuel` bounds the number of words. -/
def operand (wrapped : Bool) (fuel rank : Nat) (before : Option String) (ts : List Token) :
    Except String (Expression × List Token) := do
  match fuel with
  | 0 => throw "invalid expression"
  | fuel + 1 =>
    let (first, rest) ← match ts with
      | [] => match wrapped, before with
        | true, some name => throw ("expected an expression after '" ++ name ++ "'")
        | _, _ => throw "invalid expression"
      | .primary p :: rest => pure (Expression.primary p, rest)
      | .operator name _ :: _ =>
        throw ("invalid expression; you have used a binary operator '" ++ name ++
          "' with nothing before it.")
      | .negation name :: rest => do
        let (e, rest) ← operand wrapped fuel 4 (some name) rest
        pure (Expression.not e, rest)
      | .closing :: _ => match before with
        | some name => throw ("expected an expression between '" ++ name ++ "' and ')'")
        | none => throw tooMany
      | [.opening] =>
        if wrapped then
          throw ("invalid expression; expected to find a ')' but didn't see one. " ++
            "Perhaps you need an extra predicate after '" ++ before.getD "(" ++ "'")
        else throw "invalid expression"
      | .opening :: .closing :: _ =>
        throw "invalid expression; empty parentheses are not allowed."
      | .opening :: rest => do
        let (e, rest) ← operand wrapped fuel 0 none rest
        match rest with
        | .closing :: rest => pure (e, rest)
        | _ => throw unclosed
    operators wrapped fuel rank first rest

/-- Goes on behind the left side of operators. -/
def operators (wrapped : Bool) (fuel rank : Nat) (left : Expression) (ts : List Token) :
    Except String (Expression × List Token) := do
  match fuel, ts with
  | fuel + 1, .operator name o :: rest =>
    if o.rank ≤ rank then return (left, ts)
    else
      let (right, rest) ← operand wrapped fuel o.rank (some name) rest
      operators wrapped fuel rank (o.join left right) rest
  | _, ts => return (left, ts)

end

/-- The expression of some words. -/
def expression (wrapped : Bool) (ts : List Token) : Except String Expression := do
  match ← operand wrapped (2 * ts.length + 2) 0 none ts with
  | (e, []) => return e
  | (_, _) => throw tooMany

/-! ## Reading tests and actions -/

/-- An expression under way. -/
structure Reading where
  settings : Settings
  /-- The last comes first. -/
  tokens : List Token
  /-- Some action writes or runs something. -/
  acts : Bool
  deletes : Bool
  prunes : Bool
  /-- It was asked for a walk in which directories come last. -/
  asksDepth : Bool
  /-- Number of commands for all files. -/
  commands : Nat
  warnings : List String
  /-- The last test whose argument is a pattern or the like. -/
  last : String

/-- Why an expression cannot be read, and whether help is offered. -/
abbrev Fault := String

/-- A number behind a sign, if there is one. -/
def comparison? (text : String) : Option Comparison :=
  let (order, digits) : Ordering × List Char := match text.toList with
    | '+' :: rest => (.gt, rest)
    | '-' :: rest => (.lt, rest)
    | cs => (.eq, cs)
  if digits ≠ [] ∧ digits.all Char.isDigit then some ⟨order, Printf.number 10 digits⟩ else none

/-- A number of which places behind the point do not count, and whether there are any. -/
def span? (text : String) : Option (Comparison × Bool) :=
  let whole := String.ofList (text.toList.takeWhile (· != '.'))
  let places := text.toList.drop (whole.length + 1)
  if places.all Char.isDigit then (comparison? whole).map (·, places.any (· != '0')) else none

/-- Minutes from a change until now, of which less than one has passed. -/
def minutesHold (c : Comparison) : Bool :=
  match c.order with
  | .lt => 0 < c.number
  | .gt => c.number == 0
  | .eq => c.number == 1

/-- The kinds that an argument names. -/
def kinds (name : String) (fuel : Nat) (done cs : List Char) : Except String (List Char) :=
  match fuel, cs with
  | 0, _ => .ok done
  | _, [] => .error ("Arguments to " ++ name ++ " should contain at least one letter")
  | fuel + 1, c :: rest =>
    if !"bcdpflsD".toList.contains c then
      .error ("Unknown argument to " ++ name ++ ": " ++ String.singleton c)
    else if done.contains c then
      .error ("Duplicate file type '" ++ String.singleton c ++ "' in the argument list to " ++
        name ++ ".")
    else match rest with
      | [] => .ok (c :: done)
      | [','] => .error ("Last file type in list argument to " ++ name ++
          " is missing, i.e., list is ending on: ','")
      | ',' :: rest => kinds name fuel (c :: done) rest
      | _ => .error ("Must separate multiple arguments to " ++ name ++ " using: ','")

/-- A size in units that a letter names. -/
def sizeTest? (text : String) : Except String Primary :=
  let cs := text.toList
  match cs.getLast? with
  | none => .error "invalid null argument to -size"
  | some last =>
    let unit? : Option Nat := match last with
      | 'b' => some 512
      | 'c' => some 1
      | 'k' => some 1024
      | 'M' => some (1024 * 1024)
      | 'G' => some (1024 * 1024 * 1024)
      | 'w' => some 2
      | c => if c.isDigit then some 512 else none
    match unit? with
    | none => .error ("invalid -size type \x60" ++ String.singleton last ++ "'")
    | some unit =>
      let digits := if last.isDigit then cs else cs.dropLast
      match comparison? (String.ofList digits) with
      | some c => .ok (.size c unit)
      | none => .error ("Invalid argument \x60" ++ text ++ "' to -size")

/-- The permissions that an argument asks for. -/
def permissions? (text : String) : Option Permissions :=
  let mode? (cs : List Char) : Option Nat := (Utility.Mode.parse? 0 (String.ofList cs)).map (· 0)
  match text.toList with
  | '-' :: cs => (mode? cs).map .all
  | '/' :: cs => (mode? cs).map .any
  | cs => (mode? cs).map .exactly

/-- The notations of regular expressions by their names. -/
def styles : List (String × Regex.Style × Bool) :=
  [("findutils-default", .emacs, false), ("ed", .basic, false), ("emacs", .emacs, false),
    ("gnu-awk", .extended, true), ("grep", .basic, false), ("posix-awk", .extended, true),
    ("awk", .extended, true), ("posix-basic", .basic, false), ("posix-egrep", .extended, true),
    ("egrep", .extended, true), ("posix-extended", .extended, false),
    ("posix-minimal-basic", .basic, false), ("sed", .basic, false)]

/-- The words of a command up to its end, and what follows. -/
def commandWords (all : Bool) :
    List String → List String → Option (List String × Bool × List String)
  | _, [] => none
  | done, arg :: args =>
    if arg = ";" then some (done.reverse, false, args)
    else if all ∧ arg = "+" ∧ done.head? = some "\x7b\x7d" then some (done.reverse, true, args)
    else commandWords all (arg :: done) args

/-- Adds a test or an action; between two of them stands an operator. -/
def Reading.add (r : Reading) (t : Token) : Reading :=
  let joins : Bool := match r.tokens.head?, t with
    | some (.primary _), .operator .. | some (.primary _), .closing => false
    | some .closing, .operator .. | some .closing, .closing => false
    | some (.primary _), _ | some .closing, _ => true
    | _, _ => false
  { r with tokens := t :: if joins then .operator "-a" .and :: r.tokens else r.tokens }

def Reading.test (r : Reading) (p : Primary) : Reading := r.add (.primary p)

def Reading.act (r : Reading) (p : Primary) : Reading := { r.add (.primary p) with acts := true }

/-- The argument may begin an expression; `leading` says that none has begun. -/
def isExpression (leading : Bool) (arg : String) : Bool :=
  match arg.toList with
  | '-' :: _ :: _ => true
  | ['('] | ['!'] => true
  | [')'] | [','] => !leading
  | _ => false

/-- Letters behind a percent sign in a format. -/
def formatLetters : List Char := "abcdDfFgGhHiklmMnpPsStuUyYZ".toList

/-- What is to be said of a format. -/
def formatFaults : Nat → List Char → Except String (List String)
  | 0, _ => .ok []
  | _, [] => .ok []
  | fuel + 1, '\\' :: rest =>
    match rest with
    | [] => .ok ["warning: escape \x60\\' followed by nothing at all"]
    | c :: rest =>
      if c = 'c' then .ok []
      else if "abfnrtv\\01234567".toList.contains c then formatFaults fuel rest
      else (formatFaults fuel rest).map
        (("warning: unrecognized escape \x60\\" ++ String.singleton c ++ "'") :: ·)
  | fuel + 1, '%' :: rest =>
    let rest := rest.dropWhile "-+ #0123456789.".toList.contains
    match rest with
    | [] => .error "error: % at end of format string"
    | '%' :: rest => formatFaults fuel rest
    | c :: rest =>
      if formatLetters.contains c then formatFaults fuel rest
      else if "ABCT".toList.contains c then
        match rest with
        | [] => .error "error: % at end of format string"
        | _ :: rest => formatFaults fuel rest
      else (formatFaults fuel rest).map
        (("warning: unrecognized format directive \x60%" ++ String.singleton c ++ "'") :: ·)
  | fuel + 1, _ :: rest => formatFaults fuel rest

/-- Reads the command of an action. -/
def command (name : String) (args : List String) (r : Reading) :
    Except String (Reading × List String) :=
  let missing := "missing argument to \x60" ++ name ++ "'"
  let asks : Bool := name == "-ok" || name == "-okdir"
  let inside : Bool := name == "-execdir" || name == "-okdir"
  match commandWords (!asks) [] args with
  | none => .error missing
  | some ([], _, _) => .error ("invalid argument \x60;' to \x60" ++ name ++ "'")
  | some (words, false, rest) => .ok (r.act (.run ⟨words, inside, asks⟩), rest)
  | some (words, true, rest) =>
    let others := words.dropLast
    match others.find? fun w => 1 < (w.splitOn "\x7b\x7d").length with
    | some _ =>
      .error ("Only one instance of \x7b\x7d is supported with " ++ name ++ " ... +")
    | none =>
      .ok ({ r.act (.runAll r.commands ⟨others, inside, asks⟩) with commands := r.commands + 1 },
        rest)

/-- The command for all files has its mark in a word with other text. -/
def embedded? (name : String) (args : List String) : Option String :=
  let words := args.takeWhile fun w => w != ";" && w != "+"
  match args.drop words.length, words.getLast? with
  | "+" :: _, some last =>
    if last ≠ "\x7b\x7d" ∧ 1 < (last.splitOn "\x7b\x7d").length ∧ !args.contains ";" then
      some ("In '" ++ name ++ " ... \x7b\x7d +' the '\x7b\x7d' must appear by itself, but you " ++
        "specified '" ++ last ++ "'")
    else none
  | _, _ => none

/-- The test or action of a name that takes no argument. -/
def bare? (name : String) (r : Reading) : Option Reading :=
  match name with
  | "-true" | "-daystart" | "-noleaf" | "-mount" | "-xdev" | "-ignore_readdir_race"
  | "-noignore_readdir_race" | "-follow" | "-depth" | "-d" | "-warn" | "-nowarn" =>
    let settings := r.settings
    let settings := match name with
      | "-follow" => { settings with links := 'L' }
      | "-depth" | "-d" => { settings with depthFirst := true }
      | "-warn" => { settings with warns := true }
      | _ => settings
    let r := r.test (.constant true)
    some { r with settings, asksDepth := r.asksDepth || name == "-depth" || name == "-d" }
  | "-false" | "-nouser" | "-nogroup" => some (r.test (.constant false))
  | "-readable" | "-writable" => some (r.test (.constant true))
  | "-executable" => some (r.test .executable)
  | "-empty" => some (r.test .empty)
  | "-print" => some (r.act (.print '\n' .output))
  | "-print0" => some (r.act (.print '\x00' .output))
  | "-ls" => some (r.act (.list .output))
  | "-delete" =>
    let r := r.act .delete
    some { r with deletes := true, settings := { r.settings with depthFirst := true } }
  | "-prune" => some { r.test .prune with prunes := true }
  | "-quit" => some (r.test .quit)
  | "(" => some (r.add .opening)
  | ")" => some (r.add .closing)
  | "!" | "-not" => some (r.add (.negation name))
  | "," => some (r.add (.operator name .comma))
  | "-o" | "-or" => some (r.add (.operator name .or))
  | "-a" | "-and" => some (r.add (.operator name .and))
  | _ => none

/-- The test or action of a name with its argument; `none` if there is none of this name. -/
def withArgument? (s : State) (name arg : String) (r : Reading) : Option (Except String Reading) :=
  let pattern (folded : Bool) : Pattern :=
    .ofText (if folded then arg.toLower else arg).toList
  let invalid : String := "invalid argument \x60" ++ arg ++ "' to \x60" ++ name ++ "'"
  let counted (make : Comparison → Primary) : Option (Except String Reading) :=
    some (match comparison? arg with
      | some c => .ok (r.test (make c))
      | none => .error invalid)
  let timed (make : Comparison → Primary) : Option (Except String Reading) :=
    some (match span? arg with
      | some (c, _) => .ok (r.test (make c))
      | none => .error invalid)
  let patterned (make : Pattern → Primary) (folded : Bool) : Option (Except String Reading) :=
    some (.ok { r.test (make (pattern folded)) with last := name })
  let depth (set_ : Nat → Settings → Settings) : Option (Except String Reading) :=
    some (match if arg ≠ "" ∧ arg.toList.all Char.isDigit then arg.toNat? else none with
      | some n => .ok { r.test (.constant true) with settings := set_ n r.settings }
      | none => .error ("Expected a positive decimal integer argument to " ++ name ++
          ", but got " ++ quoted arg))
  let found (make : List String → Primary) : Option (Except String Reading) :=
    some (match s.disk.locate true s.cwd (State.path arg) with
      | .ok (place, some _) => .ok (r.test (make place))
      | .ok (_, none) => .error (quoted arg ++ ": " ++ cause .noSuchFile)
      | .error e => .error (quoted arg ++ ": " ++ cause e))
  let owner (what : String) : Option (Except String Reading) :=
    some (if arg = "root" then .ok (r.test (.owner ⟨.eq, 0⟩))
      else if arg = "" then .error ("The argument to " ++ name ++ " should not be empty")
      else if arg.toList.all Char.isDigit then
        .ok (r.test (.owner ⟨.eq, Printf.number 10 arg.toList⟩))
      else .error (quoted arg ++ what))
  let formatted (text : String) (target : Target) : Except String Reading :=
    (formatFaults text.length text.toList).map fun faults =>
      { r.act (.format text.toList target) with warnings := r.warnings ++ faults }
  let expression (folded : Bool) : Option (Except String Reading) :=
    let rules : Regex.Rules := ⟨r.settings.style, r.settings.lenient, folded, false⟩
    some (match rules.finder arg.toList with
      | .ok f => .ok { r.test (.regex f) with last := name }
      | .error e => .error ("failed to compile regular expression '" ++ arg ++ "': " ++ e))
  match name with
  | "-name" => patterned (.name false) false
  | "-iname" => patterned (.name true) true
  | "-path" | "-wholename" => patterned (.path false) false
  | "-ipath" | "-iwholename" => patterned (.path true) true
  | "-lname" => patterned (.linkTarget false) false
  | "-ilname" => patterned (.linkTarget true) true
  | "-regex" => expression false
  | "-iregex" => expression true
  | "-regextype" =>
    some (match styles.lookup arg with
      | some (style, lenient) =>
        .ok { r.test (.constant true) with settings := { r.settings with style, lenient } }
      | none => .error ("Unknown regular expression type " ++ quoted arg ++ "; valid types are " ++
          ", ".intercalate (styles.map fun (n, _) => quoted n) ++ "."))
  | "-maxdepth" => depth fun n s => { s with most := some n }
  | "-mindepth" => depth fun n s => { s with least := n }
  | "-type" => some ((kinds name arg.length [] arg.toList).map fun ks => r.test (.kind false ks))
  | "-xtype" => some ((kinds name arg.length [] arg.toList).map fun ks => r.test (.kind true ks))
  | "-size" => some ((sizeTest? arg).map r.test)
  | "-perm" =>
    some (match permissions? arg with
      | some p => .ok (r.test (.permissions p))
      | none => .error ("invalid mode " ++ quoted arg))
  | "-links" => counted .links
  | "-inum" => counted .identity
  | "-uid" | "-gid" => counted .owner
  | "-user" => owner " is not the name of a known user"
  | "-group" => owner " is not the name of an existing group"
  | "-mtime" | "-atime" | "-ctime" => timed .days
  | "-mmin" | "-amin" | "-cmin" => timed .minutes
  | "-used" =>
    some (match comparison? arg with
      | some c => .ok (r.test (.days c))
      | none => .error ("Invalid argument " ++ arg ++ " to -used"))
  | "-newer" | "-anewer" | "-cnewer" => found fun _ => .constant false
  | "-samefile" => found .same
  | "-fstype" => some (.ok (r.test (.constant false)))
  | "-context" => some (.error "invalid predicate -context: SELinux is not enabled.")
  | "-printf" => some (formatted arg .output)
  | "-fprint" => some (.ok (r.act (.print '\n' (.file arg))))
  | "-fprint0" => some (.ok (r.act (.print '\x00' (.file arg))))
  | "-fls" => some (.ok (r.act (.list (.file arg))))
  | _ =>
    match name.toList with
    | ['-', 'n', 'e', 'w', 'e', 'r', x, y] =>
      if !"acm".toList.contains x ∨ !"acmt".toList.contains y then none
      else if y = 't' then
        let now := Calendar.now s
        some (match Calendar.moment? now arg with
          | some m =>
            .ok (r.test (.constant (decide (m.seconds < Calendar.beginning))))
          | none => .error ("I cannot figure out how to interpret " ++ quoted arg ++
              " as a date or time"))
      else found fun _ => .constant false
    | _ => none

/-- Reads the words of an expression; `fuel` is their number. -/
def read (s : State) (fuel : Nat) (r : Reading) (args : List String) : Except String Reading := do
  match fuel, args with
  | 0, _ | _, [] => return r
  | fuel + 1, name :: rest =>
    if !isExpression false name then
      throw ("paths must precede expression: \x60" ++ name ++ "'" ++
        if r.last ≠ "" ∧ (s.itself name).isOk then
          "\nfind: possible unquoted pattern after predicate \x60" ++ r.last ++ "'?"
        else "")
    else match bare? name r with
      | some r => read s fuel r rest
      | none =>
        let missing : Except String Reading :=
          .error ("missing argument to \x60" ++ name ++ "'")
        if ["-exec", "-execdir", "-ok", "-okdir"].contains name then
          match embedded? name rest with
          | some message => throw message
          | none =>
            let (r, rest) ← command name rest r
            read s fuel r rest
        else if name = "-fprintf" then
          match rest with
          | file :: text :: rest =>
            let faults ← formatFaults text.length text.toList
            read s fuel { r.act (.format text.toList (.file file)) with
              warnings := r.warnings ++ faults } rest
          | _ => missing
        else match rest with
          | [] =>
            if (withArgument? s name "" r).isSome then
              if name.startsWith "-newer" ∧ name.length = 8 then
                throw ("The '" ++ name ++ "' test needs an argument")
              else missing
            else throw ("unknown predicate \x60" ++ name ++ "'")
          | arg :: rest =>
            match withArgument? s name arg r with
            | some found => read s fuel (← found) rest
            | none =>
              if name.startsWith "-newer" ∧ name.length = 8 then
                throw ("invalid predicate \x60" ++ name ++ "'")
              else throw ("unknown predicate \x60" ++ name ++ "'")

end PlaybookScan.Shell.Find

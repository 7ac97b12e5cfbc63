import PlaybookScan.Shell.Regex.Posix

/-!
# Scripts of the stream editor

A script is a list of steps, each with the lines that it works on and what it does with them. Blocks
are steps that jump behind their end.
-/

set_option autoImplicit false

namespace PlaybookScan.Shell.Editor

/-- A regular expression and the number of its groups. -/
structure Expression where
  finder : Regex.Finder
  groups : Nat

/-- Which lines a step works on. -/
inductive Address where
  | line (n : Nat)
  | last
  /-- Without an expression of its own, it is the last one that was used. -/
  | pattern (e : Option Expression)
  /-- Every so many lines from one on. -/
  | every (first step : Nat)
  /-- Behind the first address: so many lines more. -/
  | further (n : Nat)
  /-- Behind the first address: up to a line whose number is a multiple of this. -/
  | multiple (n : Nat)
  deriving Inhabited

/-- What becomes of letters. -/
inductive Case where
  | keep
  | upper
  | lower
  deriving DecidableEq

/-- A piece of a replacement: a text, and a group behind it. -/
structure Segment where
  text : List Char
  case : Case
  /-- What becomes of the first letter. -/
  first : Case
  group : Option Nat

structure Substitution where
  expression : Option Expression
  replacement : List Segment
  all : Bool
  /-- How often the line is printed. -/
  printed : Bool
  nth : Nat
  /-- The line is a command, and is replaced by its output. -/
  runs : Bool
  file : Option String

inductive Action where
  | substitute (s : Substitution)
  | transliterate (source target : List Char)
  | print
  | printFirst
  | list (width : Option Nat)
  | delete
  | deleteFirst
  | number
  | fileName
  | next
  | append
  | insert (text : List Char)
  | behind (text : List Char)
  | change (text : List Char)
  | hold
  | holdMore
  | get
  | getMore
  | exchange
  | clear
  | read (file : String)
  | readLine (file : String)
  | write (file : String)
  | writeFirst (file : String)
  | run (command : List Char)
  | quit (status : Nat) (printed : Bool)
  | label (name : String)
  | branch (name : String)
  /-- Branches if there has been a substitution, or if there has been none. -/
  | branchIf (wanted : Bool) (name : String)
  /-- A block begins, which has so many steps. -/
  | block (size : Nat)
  | nothing

structure Step where
  addresses : List Address
  negated : Bool
  action : Action

/-- How scripts are read. -/
structure Rules where
  extended : Bool
  /-- Nothing may be run, read or written by other names than the operands. -/
  confined : Bool
  /-- Lines end in null characters. -/
  nulls : Bool

/-- A piece of a script. -/
structure Fragment where
  /-- The file that it comes from. -/
  file : Option String
  text : List Char

/-- What reading comes to: a complaint comes with the text behind its place, if it has one. -/
abbrev Reading (α : Type) := Except (Option (List Char) × String) α

def complainAt {α : Type} (rest : List Char) (message : String) : Reading α :=
  .error (some rest, message)

/-! ## Texts between delimiters -/

/-- A set in brackets up to a mark and a bracket, reversed onto `done`, and what follows. -/
def skipClass (mark : Char) : List Char → List Char → List Char × List Char
  | done, [] => (done, [])
  | done, c :: rest =>
    if c = mark ∧ rest.head? = some ']' then (']' :: c :: done, rest.tail)
    else skipClass mark (c :: done) rest

/-- The members of a set in brackets up to its end, reversed onto `done`, and what follows; `fuel`
is the number of characters. -/
def skipSet (fuel : Nat) (done cs : List Char) : List Char × List Char :=
  match fuel, cs with
  | 0, _ => (done, cs)
  | _, [] => (done, [])
  | fuel + 1, c :: rest =>
    if c = ']' then (c :: done, rest)
    else if c = '\n' then (done, cs)
    else match c, rest with
      | '[', mark :: inner =>
        if ":.=".toList.contains mark then
          let (done, rest) := skipClass mark (mark :: '[' :: done) inner
          skipSet fuel done rest
        else skipSet fuel (c :: done) rest
      | '\\', 'n' :: rest => skipSet fuel ('\n' :: done) rest
      | _, _ => skipSet fuel (c :: done) rest

/-- What stands before a delimiter, and what follows that. Sets in brackets may hold it, and so may
escapes; these are kept, but for that of the delimiter itself. Without a delimiter, answers the text
at the place where none was found. -/
def delimited (delimiter : Char) (isRegex : Bool) (fuel : Nat) (done cs : List Char) :
    Except (List Char) (List Char × List Char) :=
  match fuel, cs with
  | 0, _ => .error []
  | _, [] => .error []
  | fuel + 1, c :: rest =>
    if c = delimiter then .ok (done.reverse, rest)
    else if c = '\n' then .error cs
    else match c, rest with
      | '\\', [] => .error []
      | '\\', d :: rest =>
        let kept : List Char :=
          if d = 'n' ∧ isRegex then ['\n']
          else if d = '\n' then if isRegex then ['\n'] else ['\n', '\\']
          else if d = delimiter ∧ (isRegex ∨ d ≠ '&') then [d]
          else [d, '\\']
        delimited delimiter isRegex fuel (kept ++ done) rest
      | '[', rest =>
        if !isRegex then delimited delimiter isRegex fuel (c :: done) rest
        else
          let (done, rest) := match rest with
            | '^' :: ']' :: rest => (']' :: '^' :: '[' :: done, rest)
            | '^' :: rest => ('^' :: '[' :: done, rest)
            | ']' :: rest => (']' :: '[' :: done, rest)
            | rest => ('[' :: done, rest)
          let (done, rest) := skipSet rest.length done rest
          delimited delimiter isRegex fuel done rest
      | c, rest => delimited delimiter isRegex fuel (c :: done) rest

/-! ## Escapes -/

/-- The letter behind a backslash stands for a control character. -/
def control? (c : Char) : Option Char :=
  match c with
  | 'a' => some '\x07'
  | 'f' => some '\x0c'
  | 'r' => some '\x0d'
  | 't' => some '\t'
  | 'v' => some '\x0b'
  | _ => none

/-- The character that digits behind a letter stand for, and what follows. -/
def numbered? (letter : Char) (cs : List Char) : Option (Char × List Char) :=
  let read (base most : Nat) : Option (Char × List Char) :=
    let digits := (cs.take most).takeWhile fun c => decide (Arithmetic.digitValue c < base)
    if digits = [] then none
    else some (Printf.byte (Printf.number base digits), cs.drop digits.length)
  match letter with
  | 'd' => read 10 3
  | 'o' => read 8 3
  | 'x' => read 16 2
  | _ => none

/-- Where a text with escapes stands. -/
inductive Use where
  | regex
  | replacement
  | text
  deriving DecidableEq

/-- Puts characters into the place of the escapes that stand for them; other escapes stay. `fuel` is
the number of characters. -/
def unescape (use : Use) (fuel : Nat) (cs : List Char) : Except String (List Char) :=
  match fuel, cs with
  | 0, _ => .ok cs
  | _, [] => .ok []
  | fuel + 1, '\\' :: c :: rest => do
    let literal (d : Char) : List Char :=
      if use ≠ .regex ∧ "&\\\n".toList.contains d then ['\\', d] else [d]
    match control? c, numbered? c rest, c, rest with
    | some d, _, _, _ => return d :: (← unescape use fuel rest)
    | none, some (d, rest), _, _ => return literal d ++ (← unescape use fuel rest)
    | none, none, 'c', '\\' :: '\\' :: rest => return '\x1c' :: (← unescape use fuel rest)
    | none, none, 'c', '\\' :: _ :: _ => throw "recursive escaping after \\c not allowed"
    | none, none, 'c', d :: rest =>
      return literal (Printf.byte (d.toUpper.toNat ^^^ 64)) ++ (← unescape use fuel rest)
    | none, none, 'c', [] => return if use = .regex then ['\\'] else ['\\', '\\']
    | none, none, _, _ => return '\\' :: c :: (← unescape use fuel rest)
  | fuel + 1, c :: rest => return c :: (← unescape use fuel rest)

/-- Drops the backslashes of escapes. -/
def bare (cs : List Char) : List Char :=
  match cs with
  | '\\' :: 'n' :: rest => '\n' :: bare rest
  | '\\' :: c :: rest => c :: bare rest
  | c :: rest => c :: bare rest
  | [] => []

/-! ## Replacements -/

/-- A replacement under way. -/
structure Replacing where
  text : List Char
  case : Case
  first : Case
  done : List Segment

/-- Ends a segment, with a group behind it or not. -/
def Replacing.close (r : Replacing) (group : Option Nat) : Replacing :=
  { r with
    text := [], first := .keep
    done := ⟨r.text.reverse, r.case, r.first, group⟩ :: r.done }

/-- The segments of a replacement. -/
def segments (r : Replacing) : List Char → List Segment
  | [] => (if r.text = [] then r else r.close none).done.reverse
  | '\\' :: c :: rest =>
    if c.isDigit then segments (r.close (some (c.toNat - 48))) rest
    else match c with
      | 'L' => segments { r.close none with case := .lower } rest
      | 'U' => segments { r.close none with case := .upper } rest
      | 'E' => segments { r.close none with case := .keep } rest
      | 'l' => segments { r.close none with first := .lower } rest
      | 'u' => segments { r.close none with first := .upper } rest
      | 'n' => segments { r with text := '\n' :: r.text } rest
      | c => segments { r with text := c :: r.text } rest
  | '&' :: rest => segments (r.close (some 0)) rest
  | c :: rest => segments { r with text := c :: r.text } rest

/-! ## Parts of commands -/

def skipBlanks (cs : List Char) : List Char := cs.dropWhile fun c => c == ' ' || c == '\t'

def isSpace (c : Char) : Bool := c == ' ' || ('\t' ≤ c && c ≤ '\r')

def digits (cs : List Char) : Nat × List Char :=
  (Printf.number 10 (cs.takeWhile Char.isDigit), cs.dropWhile Char.isDigit)

/-- An expression with the flags of its case and its anchors, at the end of which `rest` stands. -/
def expression (r : Rules) (folded multiline : Bool) (rest text : List Char) :
    Reading (Option Expression) := do
  if text = [] then
    if folded || multiline then complainAt rest "cannot specify modifiers on empty regexp"
    else return none
  else
    let text ← (unescape .regex text.length text).mapError (some rest, ·)
    let rules : Regex.Rules :=
      ⟨if r.extended then .extended else .basic, false, folded, multiline && !r.nulls⟩
    let (regex, reading) ← (rules.read text).mapError (some rest, ·)
    if reading.warnings.contains Regex.Rules.bareClass then throw (none, Regex.Rules.bareClass)
    return some ⟨⟨regex, true⟩, reading.groups⟩

/-- The flags behind the expression of an address, and what follows. -/
def addressFlags (folded multiline : Bool) (cs : List Char) : Bool × Bool × List Char :=
  match cs with
  | 'I' :: rest => addressFlags true multiline rest
  | 'M' :: rest => addressFlags folded true rest
  | cs => (folded, multiline, cs)

/-- An address, if one stands next. -/
def address? (r : Rules) (cs : List Char) : Reading (Option Address × List Char) :=
  match cs with
  | '$' :: rest => .ok (some .last, rest)
  | '+' :: rest =>
    let (n, rest) := digits (skipBlanks rest)
    .ok (some (.further n), rest)
  | '~' :: rest =>
    let (n, rest) := digits (skipBlanks rest)
    .ok (some (.multiple n), rest)
  | '/' :: rest => pattern '/' rest
  | '\\' :: d :: rest => pattern d rest
  | '\\' :: [] => complainAt [] "unterminated address regex"
  | c :: _ =>
    if c.isDigit then
      let (n, rest) := digits cs
      match skipBlanks rest with
      | '~' :: rest =>
        let (step, rest) := digits (skipBlanks rest)
        .ok (some (if step = 0 then .line n else .every n step), rest)
      | _ => .ok (some (.line n), rest)
    else .ok (none, cs)
  | [] => .ok (none, [])
where
  pattern (d : Char) (rest : List Char) : Reading (Option Address × List Char) :=
    match delimited d true (rest.length + 1) [] rest with
    | .error rest => complainAt rest "unterminated address regex"
    | .ok (text, rest) => do
      let (folded, multiline, rest) := addressFlags false false rest
      return (some (.pattern (← expression r folded multiline rest text)), rest)

def zeroAddress : String := "invalid usage of line address 0"

/-- The addresses in front of a command, and what follows. The letter of the command tells whether
the line 0 may be among them. -/
def addresses (r : Rules) (cs : List Char) : Reading (List Address × List Char) := do
  let (first, rest) ← address? r cs
  match first with
  | some (.further _) | some (.multiple _) =>
    complainAt (cs.drop 2) "invalid usage of +N or ~N as first address"
  | _ => pure ()
  match first, skipBlanks rest with
  | some a, ',' :: rest =>
    match ← address? r (skipBlanks rest) with
    | (some b, rest) =>
      match a, b with
      | .line 0, .pattern _ => pure ()
      | .line 0, _ => complainAt (rest.drop 1) zeroAddress
      | _, _ => pure ()
      return ([a, b], skipBlanks rest)
    | (none, rest) => complainAt (rest.drop 1) "unexpected \x60,\x27"
  | some (.line 0), rest =>
    if rest.head? = some 'r' then return ([.line 0], rest)
    else complainAt (rest.drop 1) zeroAddress
  | first, rest => return (first.toList, rest)

def extra : String := "extra characters after command"

/-- The end of a command: a semicolon, a newline, a brace or the end of the script. -/
def commandEnd (message : String) (cs : List Char) : Reading (List Char) :=
  match skipBlanks cs with
  | [] => .ok []
  | ';' :: rest | '\n' :: rest => .ok rest
  | '\x7d' :: rest => .ok ('\x7d' :: rest)
  | '#' :: rest => .ok ('#' :: rest)
  | _ :: rest => complainAt rest message

/-- The name behind a branch, and what follows. -/
def labelName (cs : List Char) : String × List Char :=
  let cs := skipBlanks cs
  let name := cs.takeWhile fun c => !isSpace c && c != ';' && c != '\x7d'
  (String.ofList name, cs.drop name.length)

/-- The rest of the line is the name of a file. -/
def fileName (cs : List Char) : Reading (String × List Char) :=
  let name := (skipBlanks cs).takeWhile (· != '\n')
  if name = [] then complainAt (skipBlanks cs) "missing filename in r/R/w/W commands"
  else .ok (String.ofList name, ((skipBlanks cs).drop name.length).drop 1)

/-- A text up to a newline that no backslash escapes. Answers it, what follows, and whether the
script ended behind a backslash, so that the text goes on in its next piece. -/
def textUpToEnd : List Char → List Char → List Char × List Char × Bool
  | done, [] => ('\n' :: done, [], false)
  | done, ['\\'] => ('\n' :: done, [], true)
  | done, '\\' :: c :: rest => textUpToEnd (c :: '\\' :: done) rest
  | done, c :: rest => if c = '\n' then (c :: done, rest, false) else textUpToEnd (c :: done) rest

/-- The characters of a text of a command. -/
def textOf (reversed : List Char) : Except String (List Char) :=
  (unescape .text reversed.length reversed.reverse).map bare

/-- The flags of a substitution. -/
structure Flags where
  all : Bool
  printed : Bool
  nth : Option Nat
  folded : Bool
  multiline : Bool
  runs : Bool
  file : Option String

/-- Reads the flags of a substitution up to the end of the command; `fuel` is the number of
characters. -/
def flags (r : Rules) (fuel : Nat) (f : Flags) (cs : List Char) : Reading (Flags × List Char) :=
  match fuel, cs with
  | 0, _ | _, [] => .ok (f, [])
  | fuel + 1, c :: rest =>
    let multiple (what : String) : Reading (Flags × List Char) :=
      complainAt rest ("multiple " ++ what ++ " options to \x60s\x27 command")
    match c with
    | 'g' => if f.all then multiple "\x60g\x27" else flags r fuel { f with all := true } rest
    | 'p' =>
      if f.printed then multiple "\x60p\x27" else flags r fuel { f with printed := true } rest
    | 'i' | 'I' => flags r fuel { f with folded := true } rest
    | 'm' | 'M' => flags r fuel { f with multiline := true } rest
    | 'e' =>
      if r.confined then complainAt rest "e/r/w commands disabled in sandbox mode"
      else flags r fuel { f with runs := true } rest
    | 'w' =>
      if r.confined then complainAt rest "e/r/w commands disabled in sandbox mode"
      else do
        let (name, rest) ← fileName rest
        return ({ f with file := some name }, rest)
    | ' ' => flags r fuel f rest
    | ';' | '\n' => .ok (f, rest)
    | '\x7d' | '#' => .ok (f, c :: rest)
    | c =>
      if c.isDigit then
        if f.nth.isSome then multiple "number"
        else
          let (n, rest) := digits (c :: rest)
          if n = 0 then
            complainAt rest "number option to \x60s\x27 command may not be zero"
          else flags r fuel { f with nth := some n } rest
      else complainAt rest "unknown option to \x60s\x27"

/-- The two texts behind the letter of a command, and what follows. -/
def twoTexts (command : String) (isRegex : Bool) (cs : List Char) :
    Reading (List Char × List Char × List Char) :=
  let unterminated {α : Type} (rest : List Char) : Reading α :=
    complainAt rest ("unterminated \x60" ++ command ++ "\x27 command")
  match cs with
  | [] => unterminated []
  | d :: rest =>
    match delimited d isRegex (rest.length + 1) [] rest with
    | .error rest => unterminated rest
    | .ok (first, rest) => match delimited d false (rest.length + 1) [] rest with
      | .error rest => unterminated rest
      | .ok (second, rest) => .ok (first, second, rest)

def missingGroup (n : Nat) : String :=
  "invalid reference \\" ++ toString n ++ " on \x60s\x27 command's RHS"

/-- The largest number of a group that a replacement refers to. -/
def largestGroup (replacement : List Segment) : Nat :=
  (replacement.filterMap Segment.group).foldl max 0

def substitution (r : Rules) (cs : List Char) : Reading (Substitution × List Char) := do
  let (pattern, replacement, rest) ← twoTexts "s" true cs
  let (f, rest) ← flags r rest.length ⟨false, false, none, false, false, false, none⟩ rest
  let replacement ← (unescape .replacement replacement.length replacement).mapError (some rest, ·)
  let replacement := segments ⟨[], .keep, .keep, []⟩ replacement
  let e ← expression r f.folded f.multiline rest pattern
  let largest := largestGroup replacement
  if e.any (·.groups < largest) then complainAt rest (missingGroup largest)
  else
    return (⟨e, replacement, f.all, f.printed, f.nth.getD 1, f.runs, f.file⟩, rest)

/-! ## Steps -/

/-- An action, the text behind it, and whether its text goes on in the next piece of the script. -/
structure Found where
  action : Action
  rest : List Char
  goesOn : Bool

/-- The command with the letter `c`. -/
def action? (r : Rules) (count : Nat) (c : Char) (rest : List Char) : Reading Found :=
  let simple (a : Action) (rest : List Char) : Reading Found :=
    (commandEnd extra rest).map fun rest => ⟨a, rest, false⟩
  let withFile (make : String → Action) : Reading Found :=
    if r.confined then complainAt rest "e/r/w commands disabled in sandbox mode"
    else (fileName rest).map fun (name, rest) => ⟨make name, rest, false⟩
  let withText (make : List Char → Action) : Reading Found :=
    let finish (found : List Char × List Char × Bool) : Reading Found :=
      match textOf found.1 with
      | .ok text => .ok ⟨make text, found.2.1, found.2.2⟩
      | .error e => complainAt found.2.1 e
    match skipBlanks rest with
    | [] => complainAt [] "expected \\ after \x60a\x27, \x60c\x27 or \x60i\x27"
    | ['\\'] => .ok ⟨make [], [], true⟩
    | '\\' :: '\n' :: rest => finish (textUpToEnd [] rest)
    | '\\' :: rest => finish (textUpToEnd [] rest)
    | rest => finish (textUpToEnd [] rest)
  match c with
  | 'p' => simple .print rest
  | 'P' => simple .printFirst rest
  | 'd' => simple .delete rest
  | 'D' => simple .deleteFirst rest
  | '=' => simple .number rest
  | 'F' => simple .fileName rest
  | 'n' => simple .next rest
  | 'N' => simple .append rest
  | 'h' => simple .hold rest
  | 'H' => simple .holdMore rest
  | 'g' => simple .get rest
  | 'G' => simple .getMore rest
  | 'x' => simple .exchange rest
  | 'z' => simple .clear rest
  | 'l' =>
    let number := (skipBlanks rest).takeWhile Char.isDigit
    if number = [] then simple (.list none) rest
    else simple (.list (some (Printf.number 10 number))) ((skipBlanks rest).drop number.length)
  | 'q' | 'Q' =>
    if 1 < count then complainAt rest "command only uses one address"
    else
      let (n, rest) := digits (skipBlanks rest)
      simple (.quit (n % 256) (c == 'q')) rest
  | 'i' => withText .insert
  | 'a' => withText .behind
  | 'c' => withText .change
  | 'r' => withFile .read
  | 'R' => withFile .readLine
  | 'w' => withFile .write
  | 'W' => withFile .writeFirst
  | 'e' =>
    if r.confined then complainAt rest "e/r/w commands disabled in sandbox mode"
    else match skipBlanks rest with
      | [] => .ok ⟨.run [], [], false⟩
      | '\n' :: rest => .ok ⟨.run [], rest, false⟩
      | _ => withText .run
  | 'v' =>
    let (name, rest) := labelName rest
    let parts := (name.splitOn ".").map String.toNat?
    let old : Bool := match parts with
      | some n :: more =>
        n < 4 || (n == 4 && more.head? != some none && (more.headD none).getD 0 ≤ 9)
      | _ => name == ""
    if old then simple .nothing rest else complainAt rest "expected newer version of sed"
  | ':' =>
    if 0 < count then complainAt rest ": doesn't want any addresses"
    else
      let (name, rest) := labelName rest
      if name = "" then complainAt rest "\":\" lacks a label"
      else .ok ⟨.label name, rest, false⟩
  | 'b' | 't' | 'T' =>
    let (name, rest) := labelName rest
    simple (if c = 'b' then .branch name else .branchIf (c == 't') name) rest
  | 's' => (substitution r rest).map fun (s, rest) => ⟨.substitute s, rest, false⟩
  | 'y' => do
    let (source, target, rest) ← twoTexts "y" false rest
    let read (cs : List Char) : Reading (List Char) :=
      ((unescape .replacement cs.length cs).map bare).mapError (some rest, ·)
    let (source, target) := (← read source, ← read target)
    if source.length ≠ target.length then
      complainAt rest "strings for \x60y\x27 command are different lengths"
    else simple (.transliterate source target) rest
  | c => complainAt rest ("unknown command: \x60" ++ String.singleton c ++ "\x27")

/-- A script as far as it has been read. -/
structure Progress where
  /-- The last step comes first. -/
  steps : List Step
  /-- The places of the blocks that are open, and what is said of each if it stays so. -/
  opened : List (Nat × String)
  /-- The text of the last step goes on in the next piece. -/
  goesOn : Bool

/-- The block that begins `inner` steps before ends here. -/
def closeBlock (inner : Nat) (steps : List Step) : List Step :=
  ((List.range steps.length).zip steps).map fun (i, s) =>
    if i = inner then { s with action := .block inner } else s

/-- Adds to the text of a step. -/
def Step.extend (s : Step) (more : List Char) : Step :=
  match s.action with
  | .insert text => { s with action := .insert (text ++ more) }
  | .behind text => { s with action := .behind (text ++ more) }
  | .change text => { s with action := .change (text ++ more) }
  | .run text => { s with action := .run (text ++ more) }
  | _ => s

/-- Reads the steps of a piece of a script; `here` tells what stands before messages on a place that
the text behind it gives. -/
def steps (r : Rules) (here : List Char → String) (fuel : Nat) (p : Progress) (cs : List Char) :
    Reading Progress :=
  match fuel with
  | 0 => .ok p
  | fuel + 1 =>
    match cs.dropWhile fun c => isSpace c || c == ';' with
    | [] => .ok p
    | '#' :: rest => steps r here fuel p (rest.dropWhile (· != '\n'))
    | cs => do
      let (addresses, rest) ← addresses r cs
      let negated := rest.head? = some '!'
      let rest := if negated then skipBlanks rest.tail else rest
      match rest with
      | [] => complainAt [] "missing command"
      | '!' :: rest =>
        if negated then complainAt rest "multiple \x60!\x27s"
        else complainAt rest "unknown command: \x60!\x27"
      | '#' :: rest => complainAt rest "comments don't accept any addresses"
      | '\x7b' :: rest =>
        let step : Step := ⟨addresses, negated, .block 0⟩
        steps r here fuel { p with
          opened := (p.steps.length, here rest) :: p.opened
          steps := step :: p.steps } rest
      | '\x7d' :: rest =>
        match p.opened with
        | [] => complainAt rest "unexpected \x60\x7d\x27"
        | (start, _) :: opened =>
          if addresses ≠ [] then
            complainAt rest "\x60\x7d\x27 doesn't want any addresses"
          else
            let inner := p.steps.length - start - 1
            let rest ← commandEnd extra rest
            steps r here fuel { p with opened, steps := closeBlock inner p.steps } rest
      | c :: rest =>
        let found ← action? r addresses.length c rest
        steps r here fuel { p with
          steps := ⟨addresses, negated, found.action⟩ :: p.steps
          goesOn := found.goesOn } found.rest

/-- A script that can be run. -/
structure Program where
  steps : Array Step
  /-- What stands before messages on the script as a whole. -/
  place : String
  /-- The script begins with the wish to be quiet. -/
  quiet : Bool

/-- What stands before a message on a piece of a script: its file and line, or its number and the
character. -/
def place (number : Nat) (source : Fragment) (rest : Option (List Char)) : String :=
  match source.file, rest with
  | some file, rest =>
    let read := source.text.length - (rest.getD []).length
    -- a newline that has just been read does not count
    let lines := (((source.text.take read).dropLast).filter (· == '\n')).length
    "file " ++ file ++ " line " ++ toString (lines + 1) ++ ": "
  | none, some rest =>
    "-e expression #" ++ toString number ++ ", char " ++
      toString (source.text.length - rest.length) ++ ": "
  | none, none => "-e expression #" ++ toString number ++ ", char 0: "

/-- The label of a branch that leads nowhere. -/
def missingLabel? (program : List Step) : Option String :=
  let labels := program.filterMap fun s => match s.action with
    | .label name => some name
    | _ => none
  (program.filterMap fun s => match s.action with
    | .branch name | .branchIf _ name => some name
    | _ => none).find? fun name => name != "" && !labels.contains name

/-- Reads the pieces of a script. A complaint comes with the status that it leads to. -/
def parse (r : Rules) (sources : List Fragment) : Except (Nat × String) Program := do
  let start : Progress := ⟨[], [], false⟩
  let (p, _, last) ← sources.foldlM (fun ((p, number, _) : Progress × Nat × String) source => do
    let number := if source.file.isNone then number + 1 else number
    let title (e : Option (List Char) × String) : Nat × String :=
      match e with
      | (none, message) => (4, message)
      | (rest, message) => (1, place number source rest ++ message)
    let (p, cs) ← match p.goesOn, p.steps with
      | true, step :: others => do
        let (text, rest, goesOn) := textUpToEnd [] source.text
        let text ← (textOf text).mapError (1, ·)
        pure ({ p with steps := step.extend text :: others, goesOn }, rest)
      | _, _ => pure (p, source.text)
    let here (rest : List Char) : String :=
      place number source (if source.file.isSome then some rest else none)
    let p ← (steps r here (cs.length + 1) p cs).mapError title
    let last := match source.file with
      | some file => "file " ++ file ++ " line " ++
          toString ((source.text.filter (· == '\n')).length + 1) ++ ": "
      | none => place number source none
    return (p, number, last)) (start, 0, "")
  match p.opened.getLast?, missingLabel? p.steps with
  | some (_, title), _ => throw (1, title ++ "unmatched \x60\x7b\x27")
  | none, some name => throw (4, "can't find label for jump to \x60" ++ name ++ "\x27")
  | none, none =>
    return ⟨p.steps.reverse.toArray, last, (sources.headD ⟨none, []⟩).text.take 2 == ['#', 'n']⟩

end PlaybookScan.Shell.Editor

import PlaybookScan.Shell.Utility.Stream

/-!
# Command lines from an input

How `xargs` reads words from its input and puts them into command lines.
-/

set_option autoImplicit false

namespace PlaybookScan.Shell

open Utility (Arguments)

/-- How words are read and put into command lines. -/
structure Batch where
  command : List String
  /-- Words per command line. -/
  count : Option Nat
  /-- Lines per command line. -/
  lines : Option Nat
  /-- The text that each line takes the place of. -/
  mark : Option String
  separator : Option Char
  /-- The word that ends the input. -/
  ending : Option String
  /-- Bytes of a command line. -/
  size : Option Nat
  /-- Nothing is run without words. -/
  needsWords : Bool
  tells : Bool
  /-- The user is asked before each command. -/
  asks : Bool
  /-- The file that is read. -/
  file : Option String

namespace Batch

/-! ## Options -/

def options : Utility.Options :=
  .leading "0a:d:E:e::I:i::L:l::n:P:prs:txσ:"
    [("null", '0'), ("arg-file", 'a'), ("delimiter", 'd'), ("eof", 'e'), ("replace", 'i'),
      ("max-lines", 'l'), ("max-args", 'n'), ("max-chars", 's'), ("interactive", 'p'),
      ("no-run-if-empty", 'r'), ("verbose", 't'), ("exit", 'x'), ("max-procs", 'P'),
      ("process-slot-var", 'σ')]

/-- A complaint, and whether help is offered. -/
abbrev Fault := String × Bool

/-- The character that ends words. -/
def delimiter (text : String) : Except Fault Char :=
  match text.toList with
  | [c] => .ok c
  | '\\' :: c :: rest =>
    let invalid : Except Fault Char :=
      .error ("Invalid escape sequence " ++ text ++ " in input delimiter specification.", false)
    let coded (base : Nat) (digits : List Char) : Except Fault Char :=
      if digits ≠ [] ∧ digits.all fun d => decide (Arithmetic.digitValue d < base) then
        .ok (Printf.byte (Printf.number base digits))
      else invalid
    match c, rest with
    | 'x', digits => coded 16 digits
    | 'e', _ => invalid
    | c, [] => match Printf.letter? c with
      | some d => .ok d
      | none => coded 8 [c]
    | c, rest => coded 8 (c :: rest)
  | _ => .error ("Invalid input delimiter specification " ++ text ++ ": the delimiter must be " ++
      "either a single character or an escape sequence starting with \\.", false)

/-- The number behind an option. -/
def number (option : Char) (least : Nat) (text : String) : Except Fault Nat :=
  match text.toInt? with
  | none => .error ("invalid number \"" ++ text ++ "\" for -" ++ String.singleton option ++
      " option", true)
  | some n =>
    if n < least then
      .error ("value " ++ text ++ " for -" ++ String.singleton option ++
        " option should be >= " ++ toString least, true)
    else .ok n.toNat

/-- Reads one option; answers what is to be said of it as well. -/
def option (b : Batch) (warnings : List String) : Char × String → Except Fault (Batch × List String)
  | (c, value) =>
    let clash (old new : String) (given : Bool) : List String :=
      if given then ["warning: options " ++ old ++ " and " ++ new ++
        " are mutually exclusive, ignoring previous " ++ (old.takeWhile (· != '/')).toString ++
        " value"]
      else []
    let replacing (mark : String) : Batch × List String :=
      ({ b with mark := some mark, count := none, lines := none },
        warnings ++ clash "--max-args" "--replace/-I/-i" b.count.isSome ++
          clash "--max-lines" "--replace/-I/-i" b.lines.isSome)
    let byLines (name : String) (n : Nat) : Batch × List String :=
      ({ b with lines := some n, count := none, mark := none },
        warnings ++ clash "--max-args" name b.count.isSome ++
          clash "--replace" name b.mark.isSome)
    match c with
    | '0' => .ok ({ b with separator := some '\x00' }, warnings)
    | 'd' => (delimiter value).map fun d => ({ b with separator := some d }, warnings)
    | 'a' => .ok ({ b with file := some value }, warnings)
    | 'E' | 'e' => .ok ({ b with ending := if value = "" then none else some value }, warnings)
    | 'I' => .ok (replacing value)
    | 'i' => .ok (replacing (if value = "" then "\x7b\x7d" else value))
    | 'L' => (number 'L' 1 value).map (byLines "-L")
    | 'l' => (number 'l' 1 (if value = "" then "1" else value)).map (byLines "--max-lines/-l")
    | 'n' => (number 'n' 1 value).map fun n =>
        let warnings := warnings ++ clash "--max-lines" "--max-args/-n" b.lines.isSome
        if n = 1 ∧ b.mark.isSome then ({ b with lines := none }, warnings)
        else ({ b with count := some n, lines := none, mark := none },
          warnings ++ clash "--replace" "--max-args/-n" b.mark.isSome)
    | 's' => (number 's' 1 value).map fun n => ({ b with size := some n }, warnings)
    | 'P' => (number 'P' 0 value).map fun _ => (b, warnings)
    | 'p' => .ok ({ b with asks := true, tells := true }, warnings)
    | 'r' => .ok ({ b with needsWords := true }, warnings)
    | 't' => .ok ({ b with tells := true }, warnings)
    | _ => .ok (b, warnings)

/-- Reads all arguments. -/
def ofArguments (a : Arguments) : Except Fault (Batch × List String) :=
  let start : Batch :=
    { command := if a.operands = [] then ["echo"] else a.operands
      count := none, lines := none, mark := none, separator := none, ending := none, size := none
      needsWords := false, tells := false, asks := false, file := none }
  a.options.foldlM (fun (b, warnings) o => b.option warnings o) (start, [])

/-! ## Words -/

/-- The words of an input, each with the number of its line, and why there are no more of them. -/
structure Words where
  /-- The last comes first. -/
  found : List (Nat × String)
  fault : Option String

def unmatched (quote : Char) : String :=
  "unmatched " ++ (if quote = '"' then "double" else "single") ++
    " quote; by default quotes are special to xargs unless you use the -0 option"

/-- Reads words, where quotes hold them together. If `whole`, all words of a line are one. A line
that ends in a blank goes on in the next one. -/
def words (b : Batch) (whole : Bool) (line : Nat) (word : Option (List Char)) (quote : Option Char)
    (blank : Bool) (done : List (Nat × String)) : List Char → Words
  | [] =>
    match quote, word with
    | some q, _ => ⟨done, some (unmatched q)⟩
    | none, some cs =>
      let text := String.ofList cs.reverse
      if b.ending = some text then ⟨done, none⟩ else ⟨(line, text) :: done, none⟩
    | none, none => ⟨done, none⟩
  | '\\' :: c :: cs =>
    if quote.isSome then words b whole line (some ('\\' :: word.getD [])) quote false done (c :: cs)
    else words b whole line (some (c :: word.getD [])) none false done cs
  | c :: cs =>
    match quote with
    | some q =>
      if c = q then words b whole line (some (word.getD [])) none false done cs
      else if c = '\n' then ⟨done, some (unmatched q)⟩
      else words b whole line (some (c :: word.getD [])) (some q) false done cs
    | none =>
      let ends : Bool := c == '\n' || (!whole && (c == ' ' || c == '\t'))
      if c = '"' ∨ c = '\x27' then words b whole line (some (word.getD [])) (some c) false done cs
      else if ends then
        let next := if c = '\n' ∧ !blank then line + 1 else line
        let blank : Bool := c != '\n' || (blank && word.isNone)
        match word with
        | some cs' =>
          let text := String.ofList cs'.reverse
          if b.ending = some text then ⟨done, none⟩
          else words b whole next none none blank ((line, text) :: done) cs
        | none => words b whole next none none blank done cs
      else if whole ∧ word.isNone ∧ (c = ' ' ∨ c = '\t') then
        words b whole line none none false done cs
      else words b whole line (some (c :: word.getD [])) none false done cs

/-- The words of an input in the order in which they stand, and why there are no more. -/
def read (b : Batch) (text : List Char) : List (Nat × String) × Option String :=
  match b.separator with
  | some d =>
    let all := text.splitOn d
    let all := if all.getLast? = some [] then all.dropLast else all
    ((List.range all.length).zip (all.map String.ofList), none)
  | none =>
    let w := words b b.mark.isSome 0 none none false [] text
    (w.found.reverse, w.fault)

/-! ## Command lines -/

/-- Words in groups of `size`; `fuel` is their number. -/
def groupsOf {α : Type} (size : Nat) : Nat → List α → List (List α)
  | 0, _ => []
  | fuel + 1, words =>
    if words.isEmpty then [] else words.take size :: groupsOf size fuel (words.drop size)

/-- Words in groups that are as long as `room` allows; a word that is too long stops the rest, which
the answer tells. -/
def fitting (room : Nat) : List String → Nat → List String → List (List String) × Bool
  | group, _, [] => (if group = [] then [] else [group.reverse], true)
  | group, used, w :: ws =>
    let n := w.utf8ByteSize + 1
    if room < n then (if group = [] then [] else [group.reverse], false)
    else if room < used + n then
      let (groups, whole) := fitting room [w] n ws
      (group.reverse :: groups, whole)
    else fitting room (w :: group) (used + n) ws

/-- Puts a text into the places of a mark. -/
def substitute (mark text word : String) : String :=
  if mark = "" then word else text.intercalate (word.splitOn mark)

/-- The command lines for an input, and what is wrong with the rest of it. -/
def commands (b : Batch) (text : List Char) : List (List String) × Option String :=
  let (words, fault) := b.read text
  -- no word can hold a null character
  let words := words.map fun (n, w) => (n, String.ofList (w.toList.takeWhile (· != '\x00')))
  match b.mark with
  | some "" => ([], some "command too long")
  | some mark => (words.map fun (_, w) => b.command.map (substitute mark w), fault)
  | none =>
    let rows : List (List (Nat × String)) := words.splitBy fun x y => x.1 == y.1
    let groups := match b.lines, b.count with
      | some n, _ => (groupsOf n rows.length rows).map List.flatten
      | none, some n => groupsOf n words.length words
      | none, none => if words = [] then [] else [words]
    let groups := groups.map fun g => g.map Prod.snd
    let (groups, fault) := match b.size with
      | none => (groups, fault)
      | some size =>
        let used := b.command.foldl (fun (n : Nat) (w : String) => n + w.utf8ByteSize + 1) 0
        let pieces := groups.map (fitting (size - used) [] 0)
        let whole := pieces.takeWhile Prod.snd
        let rest := pieces.drop whole.length
        let groups := (whole ++ rest.take 1).flatMap Prod.fst
        (groups, if rest = [] then fault else some "argument line too long")
    let groups := if groups = [] ∧ !b.needsWords ∧ fault.isNone then [[]] else groups
    (groups.map fun group => b.command ++ group, fault)

/-- What is to be said of null characters in the input. -/
def nullWarning? (b : Batch) (text : List Char) : Option String :=
  if b.separator.isNone ∧ text.contains '\x00' then
    some ("WARNING: a NUL character occurred in the input.  It cannot be passed through in the " ++
      "argument list.  Did you mean to use the --null option?")
  else none

end Batch

end PlaybookScan.Shell

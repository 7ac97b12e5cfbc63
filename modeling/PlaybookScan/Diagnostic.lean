import PlaybookScan.Text.CharClass

/-!
# Findings and diagnostics

A finding is what the linter says about a line of a file: a rule, and perhaps a message. A
diagnostic is a finding together with the file name and the layout in which it was printed.

`Diagnostic.parse?` reads one line of linter output. The layouts are tried in the order bracketed,
rule prefix, suffix colon. Where a layout fits a line in several ways, the longest file name counts;
if its line number is none, the layout does not fit at all.
-/

set_option autoImplicit false

namespace PlaybookScan

/-- No message and an empty message are different. -/
structure Finding where
  line : UInt32
  /-- The rule's identifier as printed. -/
  rule : String
  message : Option String
  deriving DecidableEq, Hashable, Repr

def Finding.display (f : Finding) : String :=
  let place := f.rule ++ "@" ++ Text.decimal f.line
  match f.message with
  | some message => place ++ ": " ++ message
  | none => place

/-- The layouts of a diagnostic. -/
inductive Layout where
  /-- `file:line: [Erule] message` -/
  | bracketed
  /-- `rule file:line` -/
  | rulePrefix
  /-- `file:line: rule`, or `file:line: yaml (yaml[detail])` -/
  | suffixColon
  deriving DecidableEq, Repr

def Layout.display : Layout → String
  | bracketed => "bracketed"
  | rulePrefix => "rule_prefix"
  | suffixColon => "suffix_colon"

structure Diagnostic where
  filename : String
  finding : Finding
  layout : Layout
  deriving DecidableEq, Repr

/-! ## Reading diagnostics -/

/-- What a layout finds in a line. -/
structure Diagnostic.Parts where
  filename : List Char
  digits : List Char
  rule : List Char
  message : Option (List Char)
  deriving DecidableEq, Repr

namespace Diagnostic

open Text

/-- The longest non-empty start of a text whose rest `p` accepts, and what `p` makes of the rest. -/
def longestStart? {α : Type} (p : List Char → Option α) : List Char → Option (List Char × α)
  | [] => none
  | c :: cs =>
    match longestStart? p cs with
    | some (start, a) => some (c :: start, a)
    | none => (p cs).map fun a => ([c], a)

/-- A colon and decimal digits: the digits, and what follows them. -/
def lineMark? : List Char → Option (List Char × List Char)
  | ':' :: cs =>
    if cs.takeWhile isDecimalDigit = [] then none
    else some (cs.takeWhile isDecimalDigit, cs.dropWhile isDecimalDigit)
  | _ => none

/-- `[Erule] message` behind a colon and a space. -/
def bracketedRule? : List Char → Option (List Char × List Char)
  | ':' :: ' ' :: '[' :: 'E' :: cs =>
    match cs.takeWhile isWordChar, cs.dropWhile isWordChar with
    | c :: word, ']' :: ' ' :: message => some ('E' :: c :: word, message)
    | _, _ => none
  | _ => none

/-- `inner])` with something before the closing bracket: the identifier `yaml[inner]`. -/
def compositeRule? (cs : List Char) : Option (List Char) :=
  match cs.reverse with
  | ')' :: ']' :: c :: inner =>
    some (['y', 'a', 'm', 'l', '['] ++ (c :: inner).reverse ++ [']'])
  | _ => none

/-- The rule behind a colon and a space, up to the end of the line. -/
def suffixRule? : List Char → Option (List Char)
  | ':' :: ' ' :: cs =>
    match ['y', 'a', 'm', 'l', ' ', '(', 'y', 'a', 'm', 'l', '['].isPrefixOf? cs with
    | some inner => compositeRule? inner
    | none => if cs ≠ [] ∧ cs.all isIdChar then some cs else none
  | _ => none

def bracketed? (cs : List Char) : Option Parts :=
  let rest? (r : List Char) := do
    let (digits, r) ← lineMark? r
    let (rule, message) ← bracketedRule? r
    return (digits, rule, message)
  (longestStart? rest? cs).map fun (filename, digits, rule, message) =>
    ⟨filename, digits, rule, some message⟩

def rulePrefix? (cs : List Char) : Option Parts :=
  match cs.takeWhile isIdChar, cs.dropWhile isIdChar with
  | c :: rule, ' ' :: place =>
    match place.reverse.takeWhile isDecimalDigit, place.reverse.dropWhile isDecimalDigit with
    | d :: digits, ':' :: f :: filename =>
      some ⟨(f :: filename).reverse, (d :: digits).reverse, c :: rule, none⟩
    | _, _ => none
  | _, _ => none

def suffixColon? (cs : List Char) : Option Parts :=
  let rest? (r : List Char) := do
    let (digits, r) ← lineMark? r
    let rule ← suffixRule? r
    return (digits, rule)
  (longestStart? rest? cs).map fun (filename, digits, rule) => ⟨filename, digits, rule, none⟩

/-- The parts of a line in one layout. No layout reaches over a newline. -/
def parts? (layout : Layout) (cs : List Char) : Option Parts :=
  if '\n' ∈ cs then none
  else match layout with
    | .bracketed => bracketed? cs
    | .rulePrefix => rulePrefix? cs
    | .suffixColon => suffixColon? cs

/-- The diagnostic of the parts, if their digits write a line number. -/
def ofParts? (layout : Layout) (p : Parts) : Option Diagnostic :=
  (number? p.digits).map fun line =>
    { filename := String.ofList p.filename
      finding := ⟨line, String.ofList p.rule, p.message.map String.ofList⟩
      layout }

/-- Reads a line in one layout. -/
def parseAs? (layout : Layout) (line : String) : Option Diagnostic :=
  (parts? layout line.toList).bind (ofParts? layout)

/-- Reads a line of linter output. -/
def parse? (line : String) : Option Diagnostic :=
  [Layout.bracketed, .rulePrefix, .suffixColon].findSome? (parseAs? · line)

end Diagnostic

end PlaybookScan

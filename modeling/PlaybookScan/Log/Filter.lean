import PlaybookScan.Log.Pattern.Basic
import PlaybookScan.Log.Record
import PlaybookScan.Number.Instances
import PlaybookScan.Text.CharClass
import PlaybookScan.Text.Utf8

/-!
# Log filters

A filter is a list of directives between commas, each `level`, `target`, `target=level` or, with a
field, `target[{field}]=level` or `target[{field=value}]=level`. Of the directives that match a
record, the most specific one says up to which level it is logged. Directives about spans or values
match nothing, as there are no spans; but a value must be a number or a pattern.
-/

set_option autoImplicit false

namespace PlaybookScan.Log

/-- Why a text is no filter. -/
inductive FilterError where
  | malformedDirective
  | badValue (fault : Pattern.Fault)
  | unknownLevel
  deriving DecidableEq, Repr

def FilterError.message : FilterError → String
  | malformedDirective => "invalid filter directive"
  | badValue fault => "invalid field filter: " ++ fault.message
  | unknownLevel =>
    "error parsing level filter: expected one of \"off\", \"error\", \"warn\", \"info\", " ++
      "\"debug\", \"trace\", or a number 0-5"

structure Directive where
  /-- What the target starts with. -/
  target : Option String
  /-- The span that the directive is about. -/
  span : Option String
  /-- Names of fields, and whether a value is asked for. -/
  fields : List (String × Bool)
  /-- Rank of the last level that is logged; 0 logs nothing. -/
  threshold : Nat
  deriving DecidableEq, Repr

namespace Directive

def everything : Nat := Level.trace.rank

/-- A number as a level, perhaps behind a plus sign. -/
def numberLevel? (cs : List Char) : Option Nat :=
  let ds := match cs with
    | '+' :: ds => ds
    | ds => ds
  if ds ≠ [] ∧ ds.all Char.isDigit then
    let n := ds.foldl (fun n d => 10 * n + (d.toNat - 48)) 0
    if n ≤ everything then some n else none
  else none

/-- The rank of a level given by number or name; no text at all is `error`. -/
def level? (cs : List Char) : Option Nat :=
  match numberLevel? cs with
  | some n => some n
  | none =>
    let names := [("", 1), ("error", 1), ("warn", 2), ("info", 3), ("debug", 4), ("trace", 5),
      ("off", 0)]
    (names.find? fun (name, _) => Text.eqIgnoreCase (String.ofList cs) name).map (·.2)

/-- Decimal digits, perhaps with a point among them, then perhaps an exponent. -/
def isDecimal (cs : List Char) : Bool :=
  let digits (cs : List Char) := (cs.takeWhile Char.isDigit, cs.dropWhile Char.isDigit)
  let isExponent (cs : List Char) : Bool :=
    match cs with
    | [] => true
    | e :: cs =>
      let signed := cs.head? == some '+' || cs.head? == some '-'
      let (ds, rest) := digits (if signed then cs.drop 1 else cs)
      (e == 'e' || e == 'E') && !ds.isEmpty && rest.isEmpty
  let (whole, rest) := digits cs
  let (part, rest) := match rest with
    | '.' :: rest => digits rest
    | rest => ([], rest)
  (!whole.isEmpty || !part.isEmpty) && isExponent rest

/-- Reads as a number, perhaps an infinite one or none at all. -/
def isNumber (cs : List Char) : Bool :=
  let size := if cs.head? == some '+' || cs.head? == some '-' then cs.drop 1 else cs
  isDecimal size ||
    ["inf", "infinity", "nan"].any fun name => Text.eqIgnoreCase (String.ofList size) name

/-- Where the reading of a directive stands. The numbers are positions where a part starts. -/
inductive State where
  | start
  | levelOrTarget (start : Nat)
  | span (start : Nat)
  | field (start : Nat)
  | fieldsEnd
  | spanEnd
  | level (start : Nat)
  deriving DecidableEq, Repr

/-- The bytes of a text. -/
abbrev Bytes := List UInt8

/-- The bytes from position `i` up to position `j`, as a text. -/
def slice (bs : Bytes) (i j : Nat) : List Char := Text.Utf8.decode ((bs.drop i).take (j - i))

/-- A field name, and whether a value follows it. The value ends before a second equals sign, and it
is a number or a pattern. -/
def field (cs : List Char) : Except FilterError (String × Bool) := do
  if cs = [] then throw .malformedDirective
  let name := String.ofList (cs.takeWhile (· != '='))
  match cs.dropWhile (· != '=') with
  | [] => return (name, false)
  | _ :: cs =>
    let value := cs.takeWhile (· != '=')
    if isNumber value then return (name, true)
    match Pattern.check value with
    | .ok () => return (name, true)
    | .error fault => throw (.badValue fault)

/-- A target may start with these characters. -/
def isTargetStart (c : Char) : Bool :=
  c == '-' || c == ':' || c == '_' || Text.isAlphanumeric c

/-- Reads the character `c` at position `i` of the directive `bs`. -/
def step (bs : Bytes) (i : Nat) (c : Char) (s : State) (d : Directive) :
    Except FilterError (State × Directive) :=
  let part (start : Nat) := slice bs start i
  let text (start : Nat) := String.ofList (part start)
  match s, c with
  | .start, '[' => .ok (.span (i + 1), d)
  | .start, c => if isTargetStart c then .ok (.levelOrTarget i, d) else .error .malformedDirective
  | .levelOrTarget start, '=' => .ok (.level (i + 1), { d with target := some (text start) })
  | .levelOrTarget start, '[' => .ok (.span (i + 1), { d with target := some (text start) })
  | .levelOrTarget start, _ => .ok (.levelOrTarget start, d)
  | .span start, ']' => .ok (.spanEnd, { d with span := some (text start) })
  | .span start, '\x7b' =>
    let span := if part start = [] then none else some (text start)
    .ok (.field (i + 1), { d with span })
  | .span start, _ => .ok (.span start, d)
  | .field start, '\x7d' => do
    return (.fieldsEnd, { d with fields := d.fields ++ [← field (part start)] })
  | .field start, _ => .ok (.field start, d)
  | .fieldsEnd, ']' => .ok (.spanEnd, d)
  | .fieldsEnd, _ => .error .malformedDirective
  | .spanEnd, '=' => .ok (.level (i + 1), d)
  | .spanEnd, _ => .error .malformedDirective
  | .level start, _ => .ok (.level start, d)

def run (bs : Bytes) : Nat → List Char → State → Directive →
    Except FilterError (State × Directive)
  | _, [], s, d => .ok (s, d)
  | i, c :: rest, s, d => do
    let (s, d) ← step bs i c s d
    run bs (i + c.utf8Size) rest s d

/-- Reads a directive. Blanks around it are passed over, but the positions of its parts are counted
in bytes from the first character that is not blank, while the parts are cut from the whole text. -/
def parse (text : List Char) : Except FilterError Directive := do
  let bs := Text.Utf8.encode text
  let rest (start : Nat) := slice bs start bs.length
  match ← run bs 0 (Text.trimChars text) .start ⟨none, none, [], everything⟩ with
  | (.levelOrTarget start, d) =>
    match level? (rest start) with
    | some n => return { d with threshold := n }
    | none => return { d with target := some (String.ofList (rest start)) }
  | (.level start, d) =>
    if rest start = [] then return d
    match level? (rest start) with
    | some n => return { d with threshold := n }
    | none => throw .unknownLevel
  | (.spanEnd, d) => return d
  | _ => throw .malformedDirective

/-- The directive can match a record outside all spans. -/
def isStatic (d : Directive) : Bool := d.span.isNone && d.fields.all (!·.2)

def isMatch (d : Directive) (r : Record) : Bool :=
  (d.target.all fun target => target.toList.isPrefixOf r.target.toList) &&
    d.fields.all fun (name, _) => name == "message" || r.fields.any (·.1 == name)

/-- `d` is at least as specific as `e`: by the length of the target, the number of fields, and the
fields' names. -/
def atLeast (d e : Directive) : Bool :=
  let size (d : Directive) := (d.target.map (·.utf8ByteSize + 1)).getD 0
  let names (d : Directive) := d.fields.map (·.1)
  if size d ≠ size e then size e < size d
  else if d.fields.length ≠ e.fields.length then e.fields.length < d.fields.length
  else names e ≤ names d

end Directive

structure Filter where
  directives : List Directive
  deriving DecidableEq, Repr

namespace Filter

/-- A filter without directives logs errors. -/
def parse (text : String) : Except FilterError Filter := do
  let parts := (text.toList.splitOn ',').filter (· ≠ [])
  let directives ← parts.mapM Directive.parse
  if directives.isEmpty then return ⟨[⟨none, none, [], Level.error.rank⟩]⟩
  else return ⟨directives.filter (·.isStatic)⟩

/-- The most specific directive that matches; of equal ones the last. -/
def directiveFor? (f : Filter) (r : Record) : Option Directive :=
  (f.directives.filter (·.isMatch r)).foldl
    (fun best d => match best with
      | none => some d
      | some e => if d.atLeast e then some d else some e)
    none

/-- The record is logged. -/
def enabled (f : Filter) (r : Record) : Bool :=
  (f.directiveFor? r).any fun d => r.level.rank ≤ d.threshold

end Filter

end PlaybookScan.Log

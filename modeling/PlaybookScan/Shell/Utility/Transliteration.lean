import PlaybookScan.Shell.Pattern
import PlaybookScan.Shell.Utility.Basic
import PlaybookScan.Shell.Utility.Printf

/-!
# One character for another

Two sets of characters, written with ranges, classes and repetitions, tell which characters are
replaced, deleted or squeezed.
-/

set_option autoImplicit false

namespace PlaybookScan.Shell.Utility

namespace Transliteration

/-- A character of the text of a set; one behind a backslash has no special meaning. -/
structure Letter where
  char : Char
  escaped : Bool

/-- Part of a set. -/
inductive Element where
  | char (c : Char)
  | range (low high : Char)
  | named (name : String)
  | equivalent (c : Char)
  /-- As often as it is said, or as often as it is needed. -/
  | repeated (c : Char) (count : Nat)
  deriving DecidableEq

/-- Resolves the backslashes of a text; `fuel` is its length. -/
def letters : Nat → List Char → List Letter
  | _, [] => []
  | 0, _ => []
  | fuel + 1, '\\' :: rest =>
    match rest with
    | [] => [⟨'\\', false⟩]
    | c :: after =>
      let digits := (rest.take 3).takeWhile Printf.isOctal
      let digits := if Printf.number 8 digits < 256 then digits else digits.take 2
      if digits ≠ [] then
        ⟨Printf.byte (Printf.number 8 digits), true⟩ :: letters fuel (rest.drop digits.length)
      else
        let d := if c = 'e' then 'e' else (Printf.letter? c).getD c
        ⟨d, true⟩ :: letters fuel after
  | fuel + 1, c :: rest => ⟨c, false⟩ :: letters fuel rest

/-- What is remarkable about the backslashes of a text. -/
def warnings : Nat → List Char → List String
  | 0, _ => []
  | _, ['\\'] => ["warning: an unescaped backslash at end of string is not portable"]
  | fuel + 1, '\\' :: rest =>
    let digits := (rest.take 3).takeWhile Printf.isOctal
    if 256 ≤ Printf.number 8 digits then
      let ds := String.ofList digits
      let two := String.ofList (digits.take 2)
      let one := String.ofList (digits.drop 2)
      ("warning: the ambiguous octal escape \\" ++ ds ++
        " is being\n\tinterpreted as the 2-byte sequence \\0" ++ two ++ ", " ++ one) ::
        warnings fuel (rest.drop 2)
    else warnings fuel (rest.drop (max 1 digits.length))
  | fuel + 1, _ :: rest => warnings fuel rest
  | _, [] => []

/-- The next letter is this character and not escaped. -/
def isPlain (c : Char) (ls : List Letter) : Bool :=
  (ls.head?.map fun l => l.char == c && !l.escaped).getD false

def textOf (ls : List Letter) : List Char := ls.map Letter.char

/-- The text in front of a delimiter and a closing bracket, and what follows. -/
def delimited (d : Char) (done : List Letter) : List Letter → Option (List Letter × List Letter)
  | l :: m :: rest =>
    if isPlain d [l] && isPlain ']' [m] then some (done.reverse, rest)
    else delimited d (l :: done) (m :: rest)
  | _ => none

/-- The text in front of a closing bracket: digits behind a star. -/
def starDigits (ls : List Letter) : Bool :=
  isPlain '*' ls && isPlain ']' (ls.tail.dropWhile fun l => l.char.isDigit && !l.escaped)

/-- A character that is repeated, and what follows; there are no digits, or there is a complaint. -/
def repetition? (ls : List Letter) : Except String (Option (Element × List Letter)) :=
  match ls with
  | c :: star :: rest =>
    if !isPlain '*' [star] then .ok none
    else
      let digits := rest.takeWhile fun l => !l.escaped && l.char != ']'
      match rest.drop digits.length with
      | close :: after =>
        if close.escaped then .ok none
        else
          let cs := textOf digits
          let base := if cs.head? = some '0' then 8 else 10
          if cs.all fun d => Arithmetic.digitValue d < base then
            .ok (some (.repeated c.char (Printf.number base cs), after))
          else .error ("invalid repeat count " ++ quoted (String.ofList cs) ++
            " in [c*n] construct")
      | [] => .ok none
  | _ => .ok none

def classNames : List String :=
  ["alnum", "alpha", "blank", "cntrl", "digit", "graph", "lower", "print", "punct", "space",
    "upper", "xdigit"]

/-- What a character looks like in a message. -/
def shown (c : Char) : String :=
  if c = '\\' then "\\\\"
  else String.ofList (if Quoting.isPrintable c then [c] else Quoting.escaped c)

/-- What stands in brackets, and what follows, if it is a class or a repetition. -/
def bracketed? (ls : List Letter) : Except String (Option (Element × List Letter)) :=
  let kind := (ls.head?.filter fun l => !l.escaped && (l.char == ':' || l.char == '=')).map
    Letter.char
  match kind.bind fun d => (delimited d [] ls.tail).map (d, ·) with
  | none => repetition? ls
  | some (d, name, after) =>
    let text := String.ofList (textOf name)
    match d, textOf name with
    | ':', [] => .error "missing character class name '[::]'"
    | _, [] => .error "missing equivalence class character '[==]'"
    | ':', _ =>
      if classNames.contains text then .ok (some (.named text, after))
      else if starDigits ls.tail then repetition? ls
      else .error ("invalid character class " ++ quoted text)
    | _, [c] => .ok (some (.equivalent c, after))
    | _, _ =>
      if starDigits ls.tail then repetition? ls
      else .error (text ++ ": equivalence class operand must be a single character")

/-- Reads the elements of a set; `fuel` is the number of its letters. -/
def elements : Nat → List Letter → Except String (List Element)
  | _, [] => .ok []
  | 0, _ => .ok []
  | fuel + 1, l :: rest => do
    let found ← if isPlain '[' [l] && 2 ≤ rest.length then bracketed? rest else pure none
    match found, rest with
    | some (e, after), _ => return e :: (← elements fuel after)
    | none, hyphen :: high :: after =>
      if isPlain '-' [hyphen] then
        if high.char < l.char then
          throw ("range-endpoints of '" ++ shown l.char ++ "-" ++ shown high.char ++
            "' are in reverse collating sequence order")
        return .range l.char high.char :: (← elements fuel after)
      else return .char l.char :: (← elements fuel rest)
    | none, _ => return .char l.char :: (← elements fuel rest)

/-- All characters. -/
def every : List Char := (List.range 256).map Char.ofNat

/-- The characters of an element. -/
def Element.chars : Element → List Char
  | .char c | .equivalent c => [c]
  | .range low high =>
    (List.range (high.toNat + 1 - low.toNat)).map fun i => Char.ofNat (low.toNat + i)
  | .named name => every.filter (CharSet.named name).contains
  | .repeated c n => List.replicate n c

def Element.isFilling : Element → Bool
  | .repeated _ 0 => true
  | _ => false

def Element.isClass : Element → Bool
  | .named _ => true
  | _ => false

def Element.isCase : Element → Bool
  | .named name => name == "upper" || name == "lower"
  | _ => false

def Element.isEquivalence : Element → Bool
  | .equivalent _ => true
  | _ => false

/-- Elements where the one that fills has its count, so that there are `size` characters. -/
def filled (size : Nat) (es : List Element) : List Element :=
  let fixed := (es.flatMap Element.chars).length
  es.map fun
    | .repeated c 0 => .repeated c (size - fixed)
    | e => e

/-- The characters of both sets side by side. Where both have a class of one case, each letter goes
to its partner, and otherwise nothing stands beside a class of one case. -/
def pairs : Nat → List Element → List Element → Option (List (Char × Char))
  | 0, _, _ => some []
  | _, [], rest => if rest.any Element.isCase then none else some []
  | fuel + 1, e :: es, fs =>
    match fs with
    | [] => some []
    | f :: fs =>
      if f.isCase then
        if e.isCase then
          let from_ := e.chars
          let changed := if f = .named "upper" then from_.map Char.toUpper
            else from_.map Char.toLower
          (pairs fuel es fs).map (from_.zip changed ++ ·)
        else none
      else
        -- the next character of each side
        match e.chars, f.chars with
        | [], _ => pairs fuel es (f :: fs)
        | _, [] => pairs fuel (e :: es) fs
        | c :: cs, d :: ds =>
          (pairs fuel (cs.map .char ++ es) (ds.map .char ++ fs)).map ((c, d) :: ·)

/-- Leaves out a character of the set where it follows itself. -/
def squeeze (set : Char → Bool) (cs : List Char) : List Char :=
  (cs.foldl (fun done c => if set c && done.head? == some c then done else c :: done) []).reverse

/-- What is done with characters. -/
structure Plan where
  delete : Char → Bool
  change : Char → Char
  squeezes : Char → Bool

def Plan.apply (p : Plan) (cs : List Char) : List Char :=
  squeeze p.squeezes ((cs.filter (!p.delete ·)).map p.change)

/-- How a set is used. -/
structure Manner where
  complement : Bool
  delete : Bool
  squeezes : Bool
  truncates : Bool

/-- Checks the second set of a translation, and answers its elements. -/
def checkedTarget (m : Manner) (size : Nat) (first second : List Element) :
    Except String (List Element) := do
  if second.any Element.isEquivalence then
    throw "[=c=] expressions may not appear in string2 when translating"
  if second.any fun e => e.isClass && !e.isCase then
    throw ("when translating, the only character classes that may appear in\nstring2 are " ++
      "'upper' and 'lower'")
  let full := filled size second
  if !m.complement && second.any Element.isCase && (pairs 1024 first full).isNone then
    throw "misaligned [:upper:] and/or [:lower:] construct"
  let given := full.flatMap Element.chars
  if given.length < size && !m.truncates then
    if given = [] then throw "when not truncating set1, string2 must be non-empty"
    if (full.getLast?.map Element.isClass).getD false then
      throw ("when translating with string1 longer than string2,\nthe latter string must not " ++
        "end with a character class")
  if m.complement && first.any Element.isClass then
    let last := given.getLast?
    if given.any fun c => some c != last then
      throw ("when translating with complemented character classes,\nstring2 must map all " ++
        "characters in the domain to one")
  return full

/-- What two sets ask for, or why they cannot be used. -/
def plan (m : Manner) (first : List Element) (second : Option (List Element)) :
    Except String Plan := do
  if first.any Element.isFilling then
    throw "the [c*] repeat construct may not appear in string1"
  let chars := first.flatMap Element.chars
  let isFirst (c : Char) : Bool := chars.contains c != m.complement
  match second with
  | none =>
    if m.delete then return ⟨isFirst, id, fun _ => false⟩
    else return ⟨fun _ => false, id, isFirst⟩
  | some second =>
    if 1 < second.countP Element.isFilling then
      throw "only one [c*] repeat construct may appear in string2"
    if m.delete then
      if second.any Element.isFilling then
        throw "the [c*] construct may appear in string2 only when translating"
      let others := second.flatMap Element.chars
      return ⟨isFirst, id, others.contains⟩
    let sources := if m.complement then every.filter isFirst else chars
    let full ← checkedTarget m sources.length first second
    let given := full.flatMap Element.chars
    let extended := given ++ List.replicate (sources.length - given.length) (given.getLastD ' ')
    let targets := if m.truncates then given else extended
    let table := if m.complement || !second.any Element.isCase then sources.zip targets
      else
        let more := (targets.drop given.length).map Element.char
        (pairs 2048 first (full ++ more)).getD []
    let table := table.reverse
    let change (c : Char) : Char := (table.lookup c).getD c
    return ⟨fun _ => false, change, if m.squeezes then targets.contains else fun _ => false⟩

end Transliteration

open Transliteration in
/-- Translates, deletes or squeezes characters. -/
def tr : Utility :=
  withOptions (.leading "cCdst" [("complement", 'c'), ("delete", 'd'), ("squeeze-repeats", 's'),
    ("truncate-set1", 't')]) 1 fun a => do
    let m : Manner := ⟨a.has 'c' || a.has 'C', a.has 'd', a.has 's', a.has 't'⟩
    let least := if m.delete == m.squeezes then 2 else 1
    let most := if m.delete && !m.squeezes then 1 else 2
    if a.operands = [] then misuse 1 "missing operand"
    else if a.operands.length < least then
      complain ("missing operand after " ++ quoted (a.operands.getLastD ""))
      modify fun s => s.complain (if m.squeezes then
          "Two strings must be given when both deleting and squeezing repeats."
        else "Two strings must be given when translating.")
      hint
      return 1
    else if most < a.operands.length then
      complain ("extra operand " ++ quoted (a.operands.getD most ""))
      if a.operands.length = 2 then
        modify fun s =>
          s.complain "Only one string may be given when deleting without squeezing repeats."
      hint
      return 1
    else
      let read (text : String) : StateM State (Except String (List Element)) := do
        let cs := text.toList
        (warnings cs.length cs).forM complain
        let ls := letters cs.length cs
        return elements ls.length ls
      match ← read (a.operands.headD "") with
      | .error message => complain message; return 1
      | .ok first =>
        match ← a.operands[1]?.mapM read with
        | some (.error message) => complain message; return 1
        | second =>
          match plan m first (second.bind Except.toOption) with
          | .error message => complain message; return 1
          | .ok p =>
            let (text, s) := (← get).readAll 0
            set s
            write (p.apply (text.getD []))
            return 0

end PlaybookScan.Shell.Utility

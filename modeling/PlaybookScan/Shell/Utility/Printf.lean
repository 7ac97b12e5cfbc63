import PlaybookScan.Number.Binary
import PlaybookScan.Shell.Arithmetic
import PlaybookScan.Shell.Utility.Quoting

/-!
# Formatted output

The escapes of backslashes and the directives of formats. A format is used again until it has used
up the arguments. The shells and the system's own program read formats by rules of their own.
-/

set_option autoImplicit false

namespace PlaybookScan.Shell.Printf

/-- Whose rules hold. -/
inductive Rules where
  /-- Those of the small shell. -/
  | shell
  /-- Those of the large shell. -/
  | bash
  /-- Those of the program. -/
  | system
  deriving DecidableEq

/-- What is wrong with a format or an argument. -/
inductive Fault where
  | notNumber (arg : String)
  | partly (arg : String)
  | outOfRange (arg : String)
  /-- More than one character follows a quote. -/
  | ignored (text : String)
  | badConversion (text : String)
  | noConversion (text : String)
  /-- Arguments are left over. -/
  | excess (arg : String)
  | noHex (letter : Char)
  | badUniversal (text : String)
  deriving DecidableEq

namespace Fault

/-- The fault is in the format. -/
def isFatal : Fault → Bool
  | badConversion _ | noConversion _ | noHex _ | badUniversal _ => true
  | _ => false

/-- The status that the fault leads to. -/
def status (rules : Rules) : Fault → Nat
  | ignored _ | excess _ => 0
  | outOfRange _ => if rules = .bash then 0 else 1
  | noHex _ => if rules = .bash then 0 else 1
  | badConversion _ | noConversion _ => if rules = .shell then 2 else 1
  | _ => 1

/-- The shells' word for what is no number. -/
def invalidNumber (arg : String) : String :=
  arg ++ match arg.toList with
    | '0' :: c :: _ =>
      if c.isDigit then ": invalid octal number"
      else if c = 'x' then ": invalid hex number" else ": invalid number"
    | _ => ": invalid number"

def message (rules : Rules) (fault : Fault) : String :=
  match rules, fault with
  | .shell, notNumber arg => arg ++ ": expected numeric value"
  | .shell, partly arg => arg ++ ": not completely converted"
  | .shell, outOfRange arg => arg ++ ": Numerical result out of range"
  | .shell, badConversion text => text ++ ": invalid directive"
  | .shell, noConversion _ => "missing format character"
  | .bash, notNumber arg | .bash, partly arg => invalidNumber arg
  | .bash, outOfRange arg => "warning: " ++ arg ++ ": Numerical result out of range"
  | .bash, badConversion text =>
    "\x60" ++ String.singleton (text.toList.getLastD '%') ++ "': invalid format character"
  | .bash, noConversion text => "\x60" ++ text ++ "': missing format character"
  | .bash, noHex letter =>
    if letter = 'x' then "missing hex digit for \\x"
    else "missing unicode digit for \\" ++ String.singleton letter
  | _, notNumber arg => Quoting.plain arg ++ ": expected a numeric value"
  | _, partly arg => Quoting.plain arg ++ ": value not completely converted"
  | _, outOfRange arg => Quoting.plain arg ++ ": Numerical result out of range"
  | _, badConversion text | _, noConversion text => text ++ ": invalid conversion specification"
  | _, ignored text =>
    "warning: " ++ text ++ ": character(s) following character constant have been ignored"
  | _, excess arg => "warning: ignoring excess arguments, starting with " ++ Quoting.plain arg
  | _, noHex _ => "missing hexadecimal number in escape"
  | _, badUniversal text => "invalid universal character name " ++ text

end Fault

/-! ## Escapes -/

def isOctal (c : Char) : Bool := '0' ≤ c && c ≤ '7'

def number (base : Nat) (cs : List Char) : Nat := (Arithmetic.digits base 0 cs).1

def byte (n : Nat) : Char := Char.ofNat (n % 256)

/-- The character of a letter behind a backslash. -/
def letter? (c : Char) : Option Char :=
  match c with
  | '\\' => some '\\'
  | 'a' => some '\x07'
  | 'b' => some '\x08'
  | 'e' => some '\x1b'
  | 'f' => some '\x0c'
  | 'n' => some '\n'
  | 'r' => some '\r'
  | 't' => some '\t'
  | 'v' => some '\x0b'
  | _ => none

/-- The character behind a backslash and what follows. The backslash stands for itself where there
is no escape. -/
def escape (cs : List Char) : Char × List Char :=
  match cs with
  | [] => ('\\', [])
  | c :: rest => match letter? c with
    | some d => (d, rest)
    | none =>
      match (cs.take 3).takeWhile isOctal with
      | [] => ('\\', cs)
      | digits => (byte (number 8 digits), cs.drop digits.length)

/-- What an escape comes to. -/
inductive Escaped where
  | text (cs : List Char)
  /-- The output ends here. -/
  | stop
  | fault (fault : Fault)

def isHex (c : Char) : Bool := Arithmetic.digitValue c < 16

/-- A character by its number, of which only the first 128 can be written. -/
def universal (letter : Char) (n : Nat) : List Char :=
  if n < 128 then [Char.ofNat n]
  else
    let ds := (Nat.toDigits 16 n).map Char.toUpper
    let size := if letter = 'u' ∧ n < 2 ^ 16 then 4 else 8
    '\\' :: (if size = 4 then 'u' else 'U') :: List.replicate (size - ds.length) '0' ++ ds

/-- What stands behind a backslash in a format, by the rules, and what follows it. -/
def formatEscape (rules : Rules) (cs : List Char) : Escaped × List Char :=
  let usual : Escaped × List Char :=
    let (c, rest) := escape cs
    (.text [c], rest)
  if rules = .shell then usual
  else match cs with
  | '"' :: rest => (.text ['"'], rest)
  | 'c' :: rest => if rules = .system then (.stop, rest) else usual
  | '\x27' :: rest => if rules = .bash then (.text ['\x27'], rest) else usual
  | '?' :: rest => if rules = .bash then (.text ['?'], rest) else usual
  | 'E' :: rest => if rules = .bash then (.text ['\x1b'], rest) else usual
  | 'x' :: rest =>
    match (rest.take 2).takeWhile isHex with
    | [] => (.fault (.noHex 'x'), rest)
    | digits => (.text [byte (number 16 digits)], rest.drop digits.length)
  | letter :: rest =>
    if letter ≠ 'u' ∧ letter ≠ 'U' then usual
    else
      let size := if letter = 'u' then 4 else 8
      let digits := (rest.take size).takeWhile isHex
      let n := number 16 digits
      let after := rest.drop digits.length
      if rules = .bash then
        if digits = [] then (.fault (.noHex letter), rest) else (.text (universal letter n), after)
      else if digits.length < size then (.fault (.noHex letter), rest)
      else if (n < 0xA0 ∧ n ≠ 0x24 ∧ n ≠ 0x40 ∧ n ≠ 0x60) ∨ (0xD800 ≤ n ∧ n ≤ 0xDFFF) then
        (.fault (.badUniversal (String.ofList ('\\' :: letter :: digits))), rest)
      else (.text (universal letter n), after)
  | [] => usual

/-- Resolves the escapes of an argument, where octal numbers may have one zero more. Answers what
stands before the end of the output, or before a fault. `fuel` is the length of the text. -/
def unescape (rules : Rules) (fuel : Nat) (cs : List Char) : List Char × Option Escaped :=
  match fuel, cs with
  | _, [] => ([], none)
  | 0, _ => ([], none)
  | _, '\\' :: 'c' :: _ => ([], some .stop)
  | fuel + 1, '\\' :: rest =>
    let rest := match rest with
      | '0' :: d :: more => if isOctal d then d :: more else rest
      | _ => rest
    match formatEscape rules rest with
    | (.text text, rest) =>
      let (more, ends) := unescape rules fuel rest
      (text ++ more, ends)
    | (.stop, _) => ([], some .stop)
    | (.fault fault, rest) =>
      if rules = .bash then
        let (more, ends) := unescape rules fuel rest
        ('\\' :: 'x' :: more, ends)
      else ([], some (.fault fault))
  | fuel + 1, c :: rest =>
    let (more, ends) := unescape rules fuel rest
    (c :: more, ends)

/-! ## Formats -/

/-- A width or a precision. -/
inductive Size where
  | absent
  | fixed (n : Nat)
  /-- The next argument. -/
  | argument

structure Directive where
  flags : List Char
  width : Size
  precision : Size
  conversion : Char

inductive Item where
  | text (cs : List Char)
  | directive (d : Directive)
  /-- A moment in a format of its own. -/
  | time (d : Directive) (format : List Char)
  | fault (fault : Fault)
  | stop

def size (cs : List Char) : Size × List Char :=
  match cs with
  | '*' :: rest => (.argument, rest)
  | cs => match cs.takeWhile Char.isDigit with
    | [] => (.absent, cs)
    | digits => (.fixed (number 10 digits), cs.drop digits.length)

/-- A precision behind its point. -/
def precision (cs : List Char) : Size × List Char :=
  match cs with
  | '.' :: rest => match size rest with
    | (.absent, rest) => (.fixed 0, rest)
    | found => found
  | rest => (.absent, rest)

def isFloating (c : Char) : Bool := "aAeEfFgG".contains c

/-- The rules know the conversion with these flags. -/
def allows (rules : Rules) (d : Directive) : Bool :=
  let c := d.conversion
  match rules with
  | .shell => "sbcdiuoxX".contains c || isFloating c
  | .bash => "sbcdiuoxXqQ".contains c || isFloating c
  | .system =>
    let bare : Bool := match d.flags, d.width, d.precision with
      | [], .absent, .absent => true
      | _, _, _ => false
    let forbidden (flag : Char) : List Char := match flag with
      | '\x27' => ['a', 'A', 'c', 'e', 'E', 'o', 's', 'x', 'X']
      | '#' => ['c', 'd', 'i', 's', 'u']
      | '0' => ['c', 's']
      | _ => []
    let precise : Bool := match d.precision with
      | .absent => false
      | _ => true
    (("scdiuoxX".contains c || isFloating c) && !(d.flags.any fun f => (forbidden f).contains c) &&
      !(precise && c == 'c')) || (bare && (c == 'b' || c == 'q'))

/-- The flags, the widths and the letter of a directive, and what follows, if there is a letter. -/
def directive? (rules : Rules) (cs : List Char) : Option (Directive × List Char) :=
  let known := if rules = .shell then "-+ #0" else "-+ #0'"
  let flags := cs.takeWhile fun c => known.contains c
  let (width, rest) := size (cs.drop flags.length)
  let (precision, rest) := precision rest
  let rest := if rules = .shell then rest else rest.dropWhile fun c => "hlLjzt".contains c
  match rest with
  | c :: rest => some (⟨flags, width, precision, c⟩, rest)
  | [] => none

/-- The text up to the parenthesis that closes the one before it, where `depth` more are open, and
what follows it. -/
def enclosed? (depth : Nat) : List Char → Option (List Char × List Char)
  | [] => none
  | ')' :: cs =>
    match depth with
    | 0 => some ([], cs)
    | depth + 1 => (enclosed? depth cs).map fun (inside, rest) => (')' :: inside, rest)
  | c :: cs =>
    (enclosed? (if c = '(' then depth + 1 else depth) cs).map fun (inside, rest) =>
      (c :: inside, rest)

/-- The format of a moment, between a parenthesis and its letter, and what follows. -/
def timeFormat? (cs : List Char) : Option (List Char × List Char) :=
  match enclosed? 0 cs with
  | some (inside, 'T' :: rest) => some (inside, rest)
  | _ => none

/-- The items of a format, up to a fault in it; `fuel` is its length. -/
def items (rules : Rules) (fuel : Nat) (cs : List Char) : List Item :=
  match fuel, cs with
  | _, [] => []
  | 0, _ => []
  | fuel + 1, '\\' :: rest =>
    match formatEscape rules rest with
    | (.text text, rest) => .text text :: items rules fuel rest
    | (.stop, _) => [.stop]
    | (.fault fault, rest) =>
      if rules = .bash then
        .fault fault :: .text ['\\', rest.headD 'x'] :: items rules fuel rest
      else [.fault fault]
  | fuel + 1, '%' :: '%' :: rest => .text ['%'] :: items rules fuel rest
  | fuel + 1, '%' :: rest =>
    match directive? rules rest with
    | some (d, after) =>
      let moment := if rules = .bash ∧ d.conversion = '(' then timeFormat? after else none
      if allows rules d then .directive d :: items rules fuel after
      else match moment with
      | some (format, rest) => .time d format :: items rules fuel rest
      | none =>
        [.fault (.badConversion (String.ofList ('%' :: rest.take (rest.length - after.length))))]
    | none => [.fault (.noConversion (String.ofList ('%' :: rest)))]
  | fuel + 1, c :: rest => .text [c] :: items rules fuel rest

/-! ## Numbers -/

/-- Fills up to a width, with blanks behind if `left`. -/
def pad (left : Bool) (fill : Char) (width : Nat) (cs : List Char) : List Char :=
  let missing := List.replicate (width - cs.length) fill
  if left then cs ++ missing.map fun _ => ' ' else missing ++ cs

/-- What a directive says of the shape of a number. -/
structure Shape where
  flags : List Char
  width : Nat
  left : Bool
  precision : Option Nat

/-- The sign in front of a number. -/
def Shape.sign (s : Shape) (negative : Bool) : List Char :=
  if negative then ['-'] else if s.flags.contains '+' then ['+']
  else if s.flags.contains ' ' then [' '] else []

/-- Fills a number up to its width: with zeros behind its lead, if they are asked for. -/
def Shape.fill (s : Shape) (zeros : Bool) (lead digits : List Char) : List Char :=
  if zeros && s.flags.contains '0' && !s.left then
    lead ++ pad false '0' (s.width - lead.length) digits
  else pad s.left ' ' s.width (lead ++ digits)

/-- The text of a whole number. -/
def Shape.integer (s : Shape) (conversion : Char) (n : Int) : List Char :=
  let unsigned := (n % 2 ^ 64).toNat
  let marked := s.flags.contains '#'
  let (lead, digits) := match conversion with
    | 'd' | 'i' => (s.sign (n < 0), Nat.toDigits 10 n.natAbs)
    | 'o' => ([], Nat.toDigits 8 unsigned)
    | 'x' => (if marked && unsigned != 0 then ['0', 'x'] else [], Nat.toDigits 16 unsigned)
    | 'X' => (if marked && unsigned != 0 then ['0', 'X'] else [],
        (Nat.toDigits 16 unsigned).map Char.toUpper)
    | _ => ([], Nat.toDigits 10 unsigned)
  let digits := match s.precision with
    | some 0 => if n = 0 then [] else digits
    | some p => pad false '0' p digits
    | none => digits
  let digits := if conversion = 'o' && marked && digits.head? != some '0' then '0' :: digits
    else digits
  s.fill s.precision.isNone lead digits

/-- The text of a number with a fraction. -/
def Shape.real (s : Shape) (f : BinaryFormat) (conversion : Char) (x : Binary) : List Char :=
  let keep := s.flags.contains '#'
  let (zeros, digits) : Bool × List Char := match x with
    | .infinite _ => (false, "inf".toList)
    | .undefined _ => (false, "nan".toList)
    | .finite _ m e =>
      let (num, den) := Binary.ratio m e
      let p := s.precision.getD 6
      (true, match conversion.toLower with
        | 'f' => Binary.decimalText .positional p keep num den
        | 'e' => Binary.decimalText .powered p keep num den
        | 'g' => Binary.decimalText .general p keep num den
        | _ =>
          let lead := if f.precision = 64 then 4 else 1
          Binary.hexText f lead s.precision keep m e)
  let cased (cs : List Char) : List Char :=
    if conversion.isUpper then cs.map Char.toUpper else cs
  match digits with
  | '0' :: 'x' :: rest => s.fill zeros (cased (s.sign x.isNegative ++ ['0', 'x'])) (cased rest)
  | digits => s.fill zeros (s.sign x.isNegative) (cased digits)

/-! ## Output -/

/-- What a format gives, piece by piece. -/
inductive Output where
  | text (cs : List Char)
  | fault (fault : Fault)
  /-- A moment, as seconds, in a format and a shape. -/
  | time (shape : Shape) (format : List Char) (seconds : Int)

/-- The output so far, last first, and the arguments left. -/
structure Progress where
  out : List Output
  args : List String
  stopped : Bool

namespace Progress

def next (p : Progress) : Option String × Progress :=
  (p.args.head?, { p with args := p.args.tail })

def write (p : Progress) (cs : List Char) : Progress := { p with out := .text cs :: p.out }

def complain (p : Progress) (fault : Fault) : Progress := { p with out := .fault fault :: p.out }

/-- The character behind a quote that an argument starts with, which stands for its number. -/
def quoted? (rules : Rules) (arg : String) : Option (Nat × Option Fault) :=
  match arg.toList with
  | q :: rest =>
    if q ≠ '\x27' ∧ q ≠ '"' then none
    else match rest with
      | [] => if rules = .system then none else some (0, none)
      | c :: more => some (c.toNat, if rules = .system ∧ more ≠ [] then
          some (.ignored (String.ofList more)) else none)
  | [] => none

/-- A whole number between bounds that a text starts with, and what is wrong with the text. -/
def readInteger (rules : Rules) (signed : Bool) (arg : String) : Int × Option Fault :=
  match quoted? rules arg with
  | some (n, fault) => (n, fault)
  | none =>
    let body := Arithmetic.trim arg.toList
    let (negative, body) := match body with
      | '-' :: body => (true, body)
      | '+' :: body => (false, body)
      | body => (false, body)
    if arg = "" then (0, none)
    else if !(body.head?.map Char.isDigit).getD false then (0, some (.notNumber arg))
    else
      let (n, rest) := Arithmetic.constant body
      let exact : Int := if negative then -(n : Int) else n
      let (value, fits) : Int × Bool :=
        if signed then (Arithmetic.clamp exact, Arithmetic.clamp exact == exact)
        else if n < 2 ^ 64 then (exact, true) else (2 ^ 64 - 1, false)
      (value, if !fits then some (.outOfRange arg)
        else if rest ≠ [] then some (.partly arg) else none)

/-- The next argument as a whole number. -/
def integer (rules : Rules) (signed : Bool) (p : Progress) : Int × Progress :=
  match p.next with
  | (none, p) => (0, p)
  | (some arg, p) =>
    let (n, fault) := readInteger rules signed arg
    (n, match fault with
      | some fault => p.complain fault
      | none => p)

/-- The size of the numbers that the rules calculate with. -/
def floatFormat (rules : Rules) : BinaryFormat :=
  if rules = .shell then .double else .extended

/-- The number with a fraction that a text starts with, and what is wrong with the text. -/
def readReal (rules : Rules) (arg : String) : Binary × Option Fault :=
  let zero := Binary.finite false 0 0
  match quoted? rules arg with
  | some (n, fault) => (Binary.round (floatFormat rules) false n 1, fault)
  | none =>
    if arg = "" then (zero, none)
    else match Binary.read? (floatFormat rules) arg.toList with
      | none => (zero, some (.notNumber arg))
      | some r => (r.value,
          if r.rest ≠ [] ∧ (rules = .shell ∨ !r.outOfRange) then some (.partly arg)
          else if r.outOfRange then some (.outOfRange arg) else none)

/-- The next argument as a number with a fraction. -/
def real (rules : Rules) (p : Progress) : Binary × Progress :=
  match p.next with
  | (none, p) => (.finite false 0 0, p)
  | (some arg, p) =>
    let (x, fault) := readReal rules arg
    (x, match fault with
      | some fault => p.complain fault
      | none => p)

def size (rules : Rules) (p : Progress) : Size → Option Int × Progress
  | .absent => (none, p)
  | .fixed n => (some n, p)
  | .argument =>
    let (n, p) := p.integer rules true
    (some n, p)

/-- The shape that a directive asks for. -/
def shapeOf (rules : Rules) (p : Progress) (d : Directive) : Shape × Progress :=
  let (width, p) := p.size rules d.width
  let (precision, p) := p.size rules d.precision
  ({ flags := d.flags
     width := (width.map Int.natAbs).getD 0
     left := d.flags.contains '-' || (width.map fun n => decide (n < 0)).getD false
     precision := precision.bind fun n => if n < 0 then none else some n.toNat }, p)

/-- Writes a moment; without an argument it is the current one. -/
def time (rules : Rules) (p : Progress) (d : Directive) (format : List Char) : Progress :=
  let (shape, p) := p.shapeOf rules d
  let (seconds, p) := if p.args = [] then (-1, p) else p.integer rules true
  { p with out := .time shape format seconds :: p.out }

/-- Writes one directive. -/
def directive (rules : Rules) (p : Progress) (d : Directive) : Progress :=
  let (shape, p) := p.shapeOf rules d
  let put (p : Progress) (cs : List Char) : Progress := p.write (pad shape.left ' ' shape.width cs)
  let cut (cs : List Char) : List Char := match shape.precision with
    | some n => cs.take n
    | none => cs
  match d.conversion with
  | 's' =>
    let (arg, p) := p.next
    put p (cut (arg.getD "").toList)
  | 'b' =>
    let (arg, p) := p.next
    let cs := (arg.getD "").toList
    match unescape rules cs.length cs with
    | (cs, none) => put p (cut cs)
    | (cs, some (.fault fault)) => { (put p (cut cs)).complain fault with stopped := true }
    | (cs, _) => { put p (cut cs) with stopped := true }
  | 'q' =>
    let (arg, p) := p.next
    let arg := arg.getD ""
    put p (cut (if rules = .bash then Quoting.backslashed arg else Quoting.ifNeeded arg).toList)
  | 'Q' =>
    let (arg, p) := p.next
    put p (Quoting.backslashed (String.ofList (cut (arg.getD "").toList))).toList
  | 'c' =>
    let (arg, p) := p.next
    put p [(arg.getD "").toList.headD '\x00']
  | c =>
    if isFloating c then
      let (x, p) := p.real rules
      p.write (shape.real (floatFormat rules) c x)
    else
      let (n, p) := p.integer rules (c == 'd' || c == 'i')
      p.write (shape.integer c n)

/-- Writes the items once. -/
def pass (rules : Rules) (p : Progress) : List Item → Progress
  | [] => p
  | item :: rest =>
    if p.stopped then p
    else match item with
      | .text cs => pass rules (p.write cs) rest
      | .directive d => pass rules (p.directive rules d) rest
      | .time d format => pass rules (p.time rules d format) rest
      | .fault fault =>
        let ends := fault.status rules != 0
        pass rules { p.complain fault with stopped := ends } rest
      | .stop => { p with stopped := true }

end Progress

def Item.isDirective : Item → Bool
  | .directive _ | .time .. => true
  | _ => false

/-- Writes the items until the arguments are used up, but only once if they use none. -/
def Progress.passes (rules : Rules) (is : List Item) : Nat → Progress → Progress
  | 0, p => p
  | fuel + 1, p =>
    let q := p.pass rules is
    if q.stopped || q.args.isEmpty then q
    else if !is.any Item.isDirective then
      if rules = .system then q.complain (.excess (q.args.headD "")) else q
    else q.passes rules is fuel

/-- What a format and its arguments give. -/
def format (rules : Rules) (fmt : String) (args : List String) : List Output :=
  let is := items rules fmt.length fmt.toList
  (Progress.passes rules is (args.length + 1) ⟨[], args, false⟩).out.reverse

/-- The text among the output. -/
def textOf (out : List Output) : List Char :=
  out.flatMap fun
    | .text cs => cs
    | .fault _ | .time .. => []

def faultsOf (out : List Output) : List Fault :=
  out.filterMap fun
    | .text _ | .time .. => none
    | .fault fault => some fault

/-- The status behind the output. -/
def statusOf (rules : Rules) (out : List Output) : Nat :=
  (faultsOf out).foldl (fun n fault => max n (fault.status rules)) 0

/-! ## Lines -/

/-- Resolves the escapes of a line. Octal numbers begin with a zero, which the small shell does
without; where digits are missing the backslash stands for itself. -/
def echoed (rules : Rules) (fuel : Nat) (cs : List Char) : List Char × Bool :=
  match fuel, cs with
  | _, [] => ([], false)
  | 0, _ => ([], false)
  | _, '\\' :: 'c' :: _ => ([], true)
  | fuel + 1, '\\' :: rest =>
    let (text, rest) : List Char × List Char := match rest with
      | '0' :: more =>
        let digits := (more.take 3).takeWhile isOctal
        ([byte (number 8 digits)], more.drop digits.length)
      | '"' :: _ | '?' :: _ | '\x27' :: _ => (['\\'], rest)
      | c :: _ =>
        if isOctal c ∧ rules ≠ .shell then (['\\'], rest)
        else if rules = .system ∧ (c = 'u' ∨ c = 'U') then (['\\'], rest)
        else match formatEscape rules rest with
          | (.text text, rest) => (text, rest)
          | _ => (['\\'], rest)
      | [] => (['\\'], [])
    let (more, ends) := echoed rules fuel rest
    (text ++ more, ends)
  | fuel + 1, c :: rest =>
    let (more, ends) := echoed rules fuel rest
    (c :: more, ends)

/-- The text of `echo` where escapes are resolved. -/
def echo (rules : Rules) (newline : Bool) (args : List String) : List Char :=
  let cs := (" ".intercalate args).toList
  let (cs, ends) := echoed rules cs.length cs
  if newline && !ends then cs ++ ['\n'] else cs

end PlaybookScan.Shell.Printf

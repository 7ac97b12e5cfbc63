import PlaybookScan.Number.Binary
import PlaybookScan.Shell.Utility.Stream

/-!
# Programs on the order of lines

Lines are sorted by keys, which are parts of them. Keys are compared as texts, numbers, months or
versions.
-/

set_option autoImplicit false

namespace PlaybookScan.Shell.Utility

namespace Order

/-! ## Orders of texts -/

def isBlank (c : Char) : Bool := c == ' ' || c == '\t'

def ofTexts (a b : List Char) : Ordering := if a < b then .lt else if b < a then .gt else .eq

/-- A number in digits: whether it is negative, the digits in front of the point without zeros at
their start, and those behind it without zeros at their end. -/
structure Decimal where
  negative : Bool
  whole : List Char
  places : List Char

/-- The number that a text starts with, and what follows. -/
def Decimal.read (cs : List Char) : Decimal × List Char :=
  let cs := cs.dropWhile fun c => isBlank c || c == '\n'
  let (negative, cs) := match cs with
    | '-' :: cs => (true, cs)
    | cs => (false, cs)
  let whole := cs.takeWhile Char.isDigit
  let rest := cs.drop whole.length
  let (places, rest) := match rest with
    | '.' :: rest => (rest.takeWhile Char.isDigit, rest.dropWhile Char.isDigit)
    | rest => ([], rest)
  (⟨negative, whole.dropWhile (· == '0'), Binary.dropZeros places⟩, rest)

def Decimal.isZero (d : Decimal) : Bool := d.whole.isEmpty && d.places.isEmpty

/-- The order of sizes, without signs. -/
def Decimal.compareSize (x y : Decimal) : Ordering :=
  (compare x.whole.length y.whole.length).then
    ((ofTexts x.whole y.whole).then (ofTexts x.places y.places))

def Decimal.compare (x y : Decimal) : Ordering :=
  match x.negative && !x.isZero, y.negative && !y.isZero with
  | true, false => .lt
  | false, true => .gt
  | true, true => (x.compareSize y).swap
  | false, false => x.compareSize y

/-- The power that a letter behind a number stands for, with the number's sign. -/
def magnitude (d : Decimal) (rest : List Char) : Int :=
  if d.isZero then 0
  else
    let power : Nat := match rest with
      | 'k' :: _ => 1
      | c :: _ => "KMGTPEZY".toList.idxOf c % 8 + if "KMGTPEZY".contains c then 1 else 0
      | [] => 0
    if d.negative then -(power : Int) else power

/-- By the letter behind the number first. -/
def humanCompare (a b : List Char) : Ordering :=
  let (x, rest) := Decimal.read a
  let (y, rest') := Decimal.read b
  (compare (magnitude x rest) (magnitude y rest')).then (x.compare y)

def months : List String :=
  ["JAN", "FEB", "MAR", "APR", "MAY", "JUN", "JUL", "AUG", "SEP", "OCT", "NOV", "DEC"]

/-- The number of the month that a text starts with, or zero. -/
def month (cs : List Char) : Nat :=
  let name := String.ofList (((cs.dropWhile isBlank).take 3).map Char.toUpper)
  if months.contains name then months.idxOf name + 1 else 0

/-- Texts that are no numbers come first, then those that are undefined, then numbers. -/
def generalCompare (a b : List Char) : Ordering :=
  let rank : Option Binary.Reading → Nat
    | none => 0
    | some ⟨.undefined _, _, _⟩ => 1
    | some _ => 2
  let (x, y) := (Binary.read? .extended a, Binary.read? .extended b)
  (compare (rank x) (rank y)).then (match x, y with
    | some x, some y =>
      if Binary.less x.value y.value then .lt
      else if Binary.less y.value x.value then .gt else .eq
    | _, _ => .eq)

/-! ## Versions -/

/-- Where a character that is no digit stands in a version; `none` is the end of it. -/
def versionPlace (c : Option Char) : Int :=
  match c with
  | none => -1
  | some c =>
    if c.isDigit then 0 else if c.isAlpha then c.toNat else if c = '~' then -2 else c.toNat + 256

/-- The order of texts in which runs of digits are compared as numbers; `fuel` bounds the number of
steps. -/
def compareRuns : Nat → List Char → List Char → Ordering
  | 0, _, _ => .eq
  | fuel + 1, a, b =>
    let isWord (cs : List Char) : Bool := (cs.head?.map (!·.isDigit)).getD false
    if isWord a || isWord b then
      match compare (versionPlace a.head?) (versionPlace b.head?) with
      | .eq => compareRuns fuel a.tail b.tail
      | found => found
    else if a = [] ∧ b = [] then .eq
    else
      let digits (cs : List Char) : List Char := (cs.takeWhile Char.isDigit).dropWhile (· == '0')
      let (x, y) := (digits a, digits b)
      match (compare x.length y.length).then (ofTexts x y) with
      | .eq => compareRuns fuel (a.dropWhile Char.isDigit) (b.dropWhile Char.isDigit)
      | found => found

/-- The text without suffixes that begin with a point and a letter; at least one character stays. -/
def withoutSuffix (cs : List Char) : List Char :=
  let isSuffix (part : List Char) : Bool :=
    (part.head?.map fun c => c.isAlpha || c == '~').getD false &&
      part.all fun c => c.isAlphanum || c == '~'
  match cs.splitOn '.' with
  | [] => cs
  | first :: parts =>
    let kept := (parts.reverse.dropWhile isSuffix).reverse
    -- a suffix cannot be all of the text
    let kept := if first = [] ∧ kept = [] then parts.take 1 else kept
    ['.'].intercalate (first :: kept)

/-- The order of versions: hidden names first, then by what is in front of the suffixes. -/
def versionCompare (a b : List Char) : Ordering :=
  let rank (cs : List Char) : Nat := match cs with
    | [] => 0
    | ['.'] => 1
    | ['.', '.'] => 2
    | '.' :: _ => 3
    | _ => 4
  let fuel := a.length + b.length + 1
  (compare (rank a) (rank b)).then
    ((compareRuns fuel (withoutSuffix a) (withoutSuffix b)).then (compareRuns fuel a b))

/-! ## Keys -/

/-- A place in a line: a field and a character in it, both from 1 on. -/
structure KeyPlace where
  field : Nat
  char : Nat
  letters : List Char

/-- The part of a line by which it is sorted. -/
structure SortKey where
  start : KeyPlace
  stop : Option KeyPlace

def SortKey.letters (k : SortKey) : List Char :=
  k.start.letters ++ ((k.stop.map KeyPlace.letters).getD [])

/-- A place as it is written, and what follows. -/
def keyPlace? (cs : List Char) : Option (KeyPlace × List Char) :=
  let field := cs.takeWhile Char.isDigit
  if field = [] then none
  else
    let rest := cs.drop field.length
    let (char, rest) := match rest with
      | '.' :: rest => (rest.takeWhile Char.isDigit, rest.dropWhile Char.isDigit)
      | rest => ([], rest)
    let letters := rest.takeWhile "bdfgiMhnRrV".toList.contains
    some (⟨Printf.number 10 field, Printf.number 10 char, letters⟩, rest.drop letters.length)

/-- A key as it is written. -/
def SortKey.read (text : String) : Except String SortKey :=
  let complaint (what : String) : Except String SortKey :=
    .error (what ++ ": invalid field specification " ++ quoted text)
  let count (what rest : String) : Except String SortKey :=
    .error (what ++ ": invalid count at start of " ++ quoted rest)
  match keyPlace? text.toList with
  | none => count "invalid number at field start" text
  | some (start, rest) =>
    let offset := text.toList.drop ((text.toList.takeWhile Char.isDigit).length)
    if start.field = 0 then complaint "field number is zero"
    else match offset with
      | '.' :: digits =>
        if !(digits.head?.map Char.isDigit).getD false then
          count "invalid number after '.'" (String.ofList digits)
        else if start.char = 0 then complaint "character offset is zero"
        else ending start rest
      | _ => ending start rest
where
  ending (start : KeyPlace) (rest : List Char) : Except String SortKey :=
    let stray : Except String SortKey :=
      .error ("stray character in field spec: invalid field specification " ++ quoted text)
    match rest with
    | [] => .ok ⟨start, none⟩
    | ',' :: rest => match keyPlace? rest with
      | some (stop, []) =>
        if stop.field = 0 then
          .error ("field number is zero: invalid field specification " ++ quoted text)
        else .ok ⟨start, some stop⟩
      | some _ => stray
      | none => .error ("invalid number after ',': invalid count at start of " ++
          quoted (String.ofList rest))
    | _ => stray

/-- The offset at which a field begins; without separator, blanks begin it. `fuel` is its number. -/
def fieldStart (separator : Option Char) : Nat → Nat → List Char → Nat
  | 0, offset, _ => offset
  | fuel + 1, offset, cs =>
    match separator with
    | some d =>
      let field := cs.takeWhile (· != d)
      let rest := cs.drop field.length
      if rest = [] then offset + field.length
      else fieldStart separator fuel (offset + field.length + 1) rest.tail
    | none =>
      let blanks := cs.takeWhile isBlank
      let word := (cs.drop blanks.length).takeWhile (!isBlank ·)
      let size := blanks.length + word.length
      fieldStart separator fuel (offset + size) (cs.drop size)

/-- The offset at which a field ends. -/
def fieldEnd (separator : Option Char) (field : Nat) (cs : List Char) : Nat :=
  let start := fieldStart separator (field - 1) 0 cs
  let rest := cs.drop start
  match separator with
  | some d => start + (rest.takeWhile (· != d)).length
  | none =>
    let blanks := rest.takeWhile isBlank
    start + blanks.length + ((rest.drop blanks.length).takeWhile (!isBlank ·)).length

/-- The text of a key in a line. -/
def SortKey.text (k : SortKey) (separator : Option Char) (skips : Bool) (line : List Char) :
    List Char :=
  let start := fieldStart separator (k.start.field - 1) 0 line
  let blanks (from_ : Nat) (skips : Bool) : Nat :=
    if skips then ((line.drop from_).takeWhile isBlank).length else 0
  let first := start + blanks start (skips || k.start.letters.contains 'b') + (k.start.char - 1)
  let last := match k.stop with
    | none => line.length
    | some p =>
      if p.char = 0 then fieldEnd separator p.field line
      else
        let start := fieldStart separator (p.field - 1) 0 line
        start + blanks start (skips || p.letters.contains 'b') + p.char
  (line.take last).drop first

/-- The order that letters ask for. -/
def byLetters (letters : List Char) (a b : List Char) : Ordering :=
  let has (c : Char) : Bool := letters.contains c
  let found :=
    if has 'n' then (Decimal.read a).1.compare (Decimal.read b).1
    else if has 'g' then generalCompare a b
    else if has 'h' then humanCompare a b
    else if has 'M' then compare (month a) (month b)
    else if has 'V' then versionCompare a b
    else
      let kept (cs : List Char) : List Char :=
        let cs := if has 'd' then cs.filter fun c => isBlank c || c.isAlphanum
          else if has 'i' then cs.filter Quoting.isPrintable else cs
        if has 'f' then cs.map Char.toUpper else cs
      ofTexts (kept a) (kept b)
  if has 'r' then found.swap else found

/-- Letters that cannot stand side by side, in the order in which they are shown. -/
def clash? (letters : List Char) : Option String :=
  let kinds : List (List Char) := [['n'], ['g'], ['h'], ['M'], ['V', 'R', 'd', 'i']]
  if 1 < kinds.countP fun ls => ls.any letters.contains then
    some (String.ofList ("dfghiMnRV".toList.filter letters.contains))
  else none

/-- All that decides on the order of lines. -/
structure SortOrder where
  keys : List SortKey
  separator : Option Char
  /-- Hold where a key has no letters of its own. -/
  letters : List Char
  /-- Lines with equal keys stay in their order. -/
  stable : Bool

def SortOrder.byKeys (o : SortOrder) (a b : List Char) : Ordering :=
  let skips := o.letters.contains 'b'
  if o.keys.isEmpty then
    let part (line : List Char) := if skips then line.dropWhile isBlank else line
    byLetters o.letters (part a) (part b)
  else o.keys.foldl (fun found key => found.then (
    let own := key.letters
    let part := key.text o.separator (own.isEmpty && skips)
    byLetters (if own.isEmpty then o.letters else own) (part a) (part b))) .eq

/-- Nothing but the bytes of the lines decides. -/
def SortOrder.isPlain (o : SortOrder) : Bool := o.keys.isEmpty && o.letters.all (· == 'r')

def SortOrder.compare (o : SortOrder) (a b : List Char) : Ordering :=
  (if o.isPlain then .eq else o.byKeys a b).then (
    if o.stable && !o.isPlain then .eq
    else
      let found := ofTexts a b
      if o.letters.contains 'r' then found.swap else found)

end Order

/-- The letters that kinds of orders have. -/
def sortKinds : List (String × Char) :=
  [("general-numeric", 'g'), ("human-numeric", 'h'), ("month", 'M'), ("numeric", 'n'),
    ("random", 'R'), ("version", 'V')]

def sortOptions : Options :=
  .of "bcdfghik:mMno:rRsS:t:T:uVzCκ::σ:π:" [("ignore-leading-blanks", 'b'), ("check", 'κ'),
    ("dictionary-order", 'd'), ("ignore-case", 'f'), ("general-numeric-sort", 'g'),
    ("human-numeric-sort", 'h'), ("ignore-nonprinting", 'i'), ("key", 'k'), ("merge", 'm'),
    ("month-sort", 'M'), ("numeric-sort", 'n'), ("output", 'o'), ("parallel", 'π'),
    ("reverse", 'r'), ("random-sort", 'R'), ("stable", 's'), ("buffer-size", 'S'),
    ("field-separator", 't'), ("sort", 'σ'), ("temporary-directory", 'T'), ("unique", 'u'),
    ("version-sort", 'V'), ("zero-terminated", 'z')]

open PlaybookScan.Shell.Utility.Order in
/-- What lines are sorted by, or why it makes no sense. -/
def sortOrder (a : Arguments) : Except String SortOrder := do
  let keys ← (a.values 'k').mapM SortKey.read
  let kinds ← (a.values 'σ').mapM fun kind => match sortKinds.lookup kind with
    | some c => .ok c
    | none => .error ("invalid argument " ++ quoted kind ++ " for '--sort'")
  let separator := a.value? 't'
  if separator = some "" then throw "empty tab"
  if separator.any fun t => 1 < t.length ∧ t ≠ "\\0" then
    throw ("multi-character tab " ++ quoted (separator.getD ""))
  let letters := a.options.map Prod.fst ++ kinds
  let letters := letters.filter "bdfghiMnrRV".toList.contains
  let all := (if keys.isEmpty then [letters] else []) ++
    keys.map fun k => if k.letters.isEmpty then letters else k.letters
  match all.findSome? clash? with
  | some clash => throw ("options '-" ++ clash ++ "' are incompatible")
  | none =>
    let char := if separator = some "\\0" then some '\x00' else separator.bind (·.toList.head?)
    return ⟨keys, char, letters, a.has 's' || a.has 'u'⟩

/-- The first line that is not in order, with its number. -/
def disorder? (o : Order.SortOrder) (strict : Bool) (all : List (List Char)) :
    Option (Nat × List Char) :=
  let pairs := ((List.range all.length).map (· + 2)).zip (all.zip all.tail)
  (pairs.find? fun (_, x, y) => match o.compare x y with
    | .gt => true
    | .eq => strict
    | .lt => false).map fun (n, _, line) => (n, line)

def sort : Utility := withOptions sortOptions 2 fun a => do
  match sortOrder a with
  | .error message => complain message; return 2
  | .ok o =>
    let operands := if a.operands = [] then ["-"] else a.operands
    let checks := a.has 'c' || a.has 'C' || a.has 'κ'
    if checks ∧ 1 < operands.length then
      complain ("extra operand " ++ quoted (operands.getD 1 "") ++ " not allowed with -c")
      return 2
    let sources ← operands.mapM fun operand => do return (operand, ← readOperand operand)
    match sources.find? fun (_, text) => !text.toBool with
    | some (operand, .error e) =>
      let verb := if e = .isADirectory then "read failed: " else "cannot read: "
      complain (verb ++ ofOperand operand (cause e))
      return 2
    | _ =>
      let stop := if a.has 'z' then '\x00' else '\n'
      let parts := sources.map fun (_, text) => match text with
        | .ok text => linesUpTo stop text
        | .error _ => []
      if checks then
        match disorder? o (a.has 'u') parts.flatten with
        | none => return 0
        | some (n, line) =>
          let quiet := a.has 'C' || ["quiet", "silent"].contains ((a.value? 'κ').getD "")
          if !quiet then
            complain (operands.headD "-" ++ ":" ++ toString n ++ ": disorder: " ++
              String.ofList line)
          return 1
      let before (x y : List Char) : Bool := o.compare x y != .gt
      let sorted := if a.has 'm' then parts.foldl (fun xs ys => xs.merge ys before) []
        else parts.flatten.mergeSort before
      let kept := if a.has 'u' then
          (sorted.splitBy fun x y => o.byKeys x y == .eq).filterMap List.head?
        else sorted
      let text := kept.flatMap (· ++ [stop])
      match a.value? 'o' with
      | none => write text; return 0
      | some file =>
        match ← openOutput false file with
        | .ok n => modify fun s => (s.write n text).2; return 0
        | .error e => complain ("open failed: " ++ ofOperand file (cause e)); return 2

/-! ## Any order -/

/-- The whole numbers that a range like `2-5` has. -/
def numberRange? (text : String) : Option (List Nat) :=
  match text.splitOn "-" with
  | [low, high] => do
    let m ← low.toNat?
    let n ← high.toNat?
    if n < m then none else some ((List.range (n + 1 - m)).map (m + ·))
  | _ => none

/-- Writes lines in any order, of which this is one. -/
def shuf : Utility :=
  withOptions (.of "ei:n:o:rz" [("echo", 'e'), ("input-range", 'i'), ("head-count", 'n'),
    ("output", 'o'), ("repeat", 'r'), ("zero-terminated", 'z')]) 1 fun a => do
    let stop := if a.has 'z' then '\x00' else '\n'
    let count := (a.values 'n').getLast?
    if count.any (·.toNat?.isNone) then
      complain ("invalid line count: " ++ quoted (count.getD ""))
      return 1
    if a.has 'i' ∧ ((a.value? 'i').bind numberRange?).isNone then
      complain ("invalid input range: " ++ quoted ((a.value? 'i').getD ""))
      return 1
    if a.has 'e' ∧ a.has 'i' then return ← misuse 1 "cannot combine -e and -i options"
    let most := if a.has 'i' then 0 else 1
    if !a.has 'e' ∧ most < a.operands.length then
      return ← misuse 1 ("extra operand " ++ quoted (a.operands.getD most ""))
    let operand := a.operands.headD "-"
    let found : Except IoError (List (List Char)) ←
      if a.has 'e' then pure (.ok (a.operands.map String.toList))
      else match (a.value? 'i').bind numberRange? with
        | some ns => pure (.ok (ns.map (Nat.toDigits 10)))
        | none => do
          let text ← readOperand operand
          pure (text.map (linesUpTo stop))
    match found with
    | .error e => complain (ofOperand operand (cause e)); return 1
    | .ok all =>
      let limit := count.bind String.toNat?
      if a.has 'r' ∧ all = [] ∧ limit ≠ some 0 then
        complain "no lines to repeat"
        return 1
      let kept := if a.has 'r' then
          (List.replicate (limit.getD State.flood / max 1 all.length + 1) all).flatten.take
            (limit.getD State.flood)
        else all.take (limit.getD all.length)
      let text := kept.flatMap (· ++ [stop])
      match a.value? 'o' with
      | none => write text; return 0
      | some file =>
        match ← openOutput false file with
        | .ok n => modify fun s => (s.write n text).2; return 0
        | .error e => complain (ofOperand file (cause e)); return 1

/-! ## Orders from pairs -/

/-- Names in an order that suits all pairs. `ready` are those that nothing precedes any more; a name
sets those free that follow it alone. Those of circles are left over. `fuel` is their number. -/
def topological (fuel : Nat) (pairs : List (String × String)) (ready done : List String) :
    List String :=
  match fuel, ready with
  | fuel + 1, x :: ready =>
    let (mine, others) := pairs.partition (·.1 == x)
    let freed := ((mine.map Prod.snd).reverse.eraseDups).filter fun y =>
      !others.any (·.2 == y)
    topological fuel others (ready ++ freed) (x :: done)
  | _, _ => done.reverse

def tsort : Utility := withOptions (.of "" []) 1 fun a => do
  let operand := a.operands.headD "-"
  if 1 < a.operands.length then
    return ← misuse 1 ("extra operand " ++ quoted (a.operands.getD 1 ""))
  match ← readOperand operand with
  | .error e => complain (ofOperand operand (cause e)); return 1
  | .ok text =>
    let words := ((text.splitOnP Arithmetic.isSpace).filter (· ≠ [])).map String.ofList
    if words.length % 2 = 1 then
      complain (fileTitle operand ++ ": input contains an odd number of tokens")
      return 1
    let pairs := (List.range (words.length / 2)).map fun i =>
      (words.getD (2 * i) "", words.getD (2 * i + 1) "")
    let names := (words.eraseDups).mergeSort fun x y => x.toList ≤ y.toList
    let pairs := pairs.filter fun (x, y) => x != y
    let order := topological names.length pairs
      (names.filter fun x => !pairs.any (·.2 == x)) []
    let left := names.filter (!order.contains ·)
    if left ≠ [] then
      complain (fileTitle operand ++ ": input contains a loop:")
      left.forM complain
    (order ++ left).forM writeLine
    return if left = [] then 0 else 1

end PlaybookScan.Shell.Utility

import PlaybookScan.Shell.Utility.Stream

/-!
# Dates

Moments are seconds since the beginning of the year 1970. They are shown by formats, and read from
texts in which a date, a time of day and steps from there may stand in any order.
-/

set_option autoImplicit false

namespace PlaybookScan.Shell.Calendar

/-- A day of the calendar, with its month and day from 1 on. -/
structure Day where
  year : Int
  month : Nat
  day : Nat
  deriving DecidableEq

/-- Days since the beginning of 1970. The year is taken to begin in March, so that the day that some
years have in addition is its last. -/
def Day.number (d : Day) : Int :=
  let year := if d.month ≤ 2 then d.year - 1 else d.year
  let era := year.fdiv 400
  let yearOfEra := year.fmod 400
  let month : Int := (d.month + 9) % 12
  let dayOfYear := (153 * month + 2) / 5 + d.day - 1
  era * 146097 + yearOfEra * 365 + yearOfEra / 4 - yearOfEra / 100 + dayOfYear - 719468

def Day.ofNumber (n : Int) : Day :=
  let n := n + 719468
  let era := n.fdiv 146097
  let dayOfEra := n.fmod 146097
  let year := (dayOfEra - dayOfEra / 1460 + dayOfEra / 36524 - dayOfEra / 146096) / 365
  let dayOfYear := dayOfEra - (365 * year + year / 4 - year / 100)
  let m := (5 * dayOfYear + 2) / 153
  let month := (if m < 10 then m + 3 else m - 9).toNat
  let day := (dayOfYear - (153 * m + 2) / 5 + 1).toNat
  ⟨year + era * 400 + (if month ≤ 2 then 1 else 0), month, day⟩

def Day.isReal (d : Day) : Bool :=
  1 ≤ d.month && d.month ≤ 12 && 1 ≤ d.day && Day.ofNumber d.number == d

def monthNames : List String :=
  ["January", "February", "March", "April", "May", "June", "July", "August", "September",
    "October", "November", "December"]

def weekdayNames : List String :=
  ["Sunday", "Monday", "Tuesday", "Wednesday", "Thursday", "Friday", "Saturday"]

/-- A moment as clocks show it. -/
structure Moment where
  seconds : Int
  nanoseconds : Nat
  day : Day
  hour : Nat
  minute : Nat
  second : Nat
  /-- From Sunday on. -/
  weekday : Nat
  /-- Days of the year before it. -/
  dayOfYear : Nat

def Moment.ofSeconds (seconds : Int) (nanoseconds : Nat) : Moment :=
  let number := seconds.fdiv 86400
  let rest := (seconds.fmod 86400).toNat
  let day := Day.ofNumber number
  ⟨seconds, nanoseconds, day, rest / 3600, rest / 60 % 60, rest % 60, ((number + 4).fmod 7).toNat,
    (number - (Day.mk day.year 1 1).number).toNat⟩

/-! ## Formats -/

/-- The year and week in which most of the days of the moment's week are. -/
def Moment.week (m : Moment) : Int × Nat :=
  let number := m.seconds.fdiv 86400
  let thursday := number + 3 - ((m.weekday : Int) + 6) % 7
  let year := (Day.ofNumber thursday).year
  (year, ((thursday - (Day.mk year 1 1).number) / 7).toNat + 1)

/-- How a directive is filled up and cased. -/
structure Style where
  /-- `-` for nothing, `_` for blanks, `0` for zeros, `+` for zeros and a sign. -/
  fill : Option Char
  upper : Bool
  swapped : Bool
  width : Option Nat

def Style.text (s : Style) (cs : List Char) (swapsDown : Bool) : List Char :=
  let cs := if s.swapped then cs.map (if swapsDown then Char.toLower else Char.toUpper)
    else if s.upper then cs.map Char.toUpper else cs
  let c := if s.fill = some '0' ∨ s.fill = some '+' then '0' else ' '
  if s.fill = some '-' then cs else Printf.pad false c (s.width.getD 0) cs

/-- A number in so many digits, filled up with `fill` where nothing else is asked for. -/
def Style.number (s : Style) (fill : Char) (digits : Nat) (n : Int) : List Char :=
  let fill := match s.fill with
    | some '+' => '0'
    | some c => c
    | none => fill
  let ds := Nat.toDigits 10 n.natAbs
  let lead : List Char := if n < 0 then ['-'] else []
  if fill = '-' then lead ++ ds
  else
    let width := (s.width.getD digits) - lead.length
    if fill = '_' then
      List.replicate (s.width.getD digits - ds.length - lead.length) ' ' ++ lead ++ ds
    else lead ++ Printf.pad false '0' width ds

/-- What a letter of a format stands for; `none` if it is no directive. The directives that are made
of others are replaced before. -/
def Moment.directive (m : Moment) (s : Style) (c : Char) : Option (List Char) :=
  let number (fill : Char) (digits : Nat) (n : Int) := some (s.number fill digits n)
  let name (names : List String) (i size : Nat) :=
    some (s.text ((names.getD i "").toList.take size) false)
  let hour12 : Nat := if m.hour % 12 = 0 then 12 else m.hour % 12
  match c with
  | '%' => some ['%']
  | 'n' => some ['\n']
  | 't' => some ['\t']
  | 'a' => name weekdayNames m.weekday 3
  | 'A' => name weekdayNames m.weekday 20
  | 'b' | 'h' => name monthNames (m.day.month - 1) 3
  | 'B' => name monthNames (m.day.month - 1) 20
  | 'C' => number '0' 2 (m.day.year.fdiv 100)
  | 'd' => number '0' 2 m.day.day
  | 'e' => number '_' 2 m.day.day
  | 'g' => number '0' 2 (m.week.1.fmod 100)
  | 'G' => number '0' 4 m.week.1
  | 'H' => number '0' 2 m.hour
  | 'I' => number '0' 2 hour12
  | 'j' => number '0' 3 (m.dayOfYear + 1)
  | 'k' => number '_' 2 m.hour
  | 'l' => number '_' 2 hour12
  | 'm' => number '0' 2 m.day.month
  | 'M' => number '0' 2 m.minute
  | 'N' =>
    let digits := Printf.pad false '0' 9 (Nat.toDigits 10 m.nanoseconds)
    some (match s.width with
      | some n => digits.take n ++ List.replicate (n - 9) '0'
      | none => digits)
  | 'p' => some (s.text (if m.hour < 12 then ['A', 'M'] else ['P', 'M']) true)
  | 'P' => some (s.text (if m.hour < 12 then ['a', 'm'] else ['p', 'm']) false)
  | 'q' => number '0' 1 (((m.day.month - 1) / 3 + 1 : Nat) : Int)
  | 's' => number '0' 1 m.seconds
  | 'S' => number '0' 2 m.second
  | 'u' => number '0' 1 (((m.weekday + 6) % 7 + 1 : Nat) : Int)
  | 'U' => number '0' 2 (((m.dayOfYear + 7 - m.weekday) / 7 : Nat) : Int)
  | 'V' => number '0' 2 m.week.2
  | 'w' => number '0' 1 m.weekday
  | 'W' => number '0' 2 (((m.dayOfYear + 7 - (m.weekday + 6) % 7) / 7 : Nat) : Int)
  | 'y' => number '0' 2 (m.day.year.fmod 100)
  | 'Y' => number '0' 4 m.day.year
  | 'z' => some (s.text "+0000".toList false)
  | 'Z' => some (s.text "UTC".toList true)
  | _ => none

/-- The directives that others are short for. -/
def short? (c : Char) : Option String :=
  match c with
  | 'c' => some "%a %b %e %H:%M:%S %Y"
  | 'D' | 'x' => some "%m/%d/%y"
  | 'F' => some "%Y-%m-%d"
  | 'r' => some "%I:%M:%S %p"
  | 'R' => some "%H:%M"
  | 'T' | 'X' => some "%H:%M:%S"
  | _ => none

/-- Reads the letters and digits between a percent sign and its directive. -/
def style (s : Style) : List Char → Style × List Char
  | c :: cs =>
    if c = '-' ∨ c = '_' ∨ c = '0' ∨ c = '+' then style { s with fill := some c } cs
    else if c = '^' then style { s with upper := true } cs
    else if c = '#' then style { s with swapped := true } cs
    else
      let digits := (c :: cs).takeWhile Char.isDigit
      let rest := (c :: cs).drop digits.length
      let rest := match rest with
        | 'E' :: d :: rest | 'O' :: d :: rest => d :: rest
        | rest => rest
      ({ s with width := if digits = [] then none else some (Printf.number 10 digits) },
        rest)
  | [] => (s, [])

/-- Shows a moment by a format; `fuel` bounds the number of its directives. -/
def Moment.format (m : Moment) : Nat → List Char → List Char
  | 0, cs => cs
  | _, [] => []
  | fuel + 1, '%' :: cs =>
    let (s, rest) := style ⟨none, false, false, none⟩ cs
    let literal := '%' :: cs.take (cs.length - rest.length)
    let offset (text : String) (rest : List Char) := s.text text.toList false ++ m.format fuel rest
    match rest with
    | [] => literal
    | ':' :: ':' :: ':' :: 'z' :: rest => offset "+00" rest
    | ':' :: ':' :: 'z' :: rest => offset "+00:00:00" rest
    | ':' :: 'z' :: rest => offset "+00:00" rest
    | c :: rest =>
      match short? c, m.directive s c with
      | some text, _ => s.text (m.format fuel text.toList) false ++ m.format fuel rest
      | none, some text => text ++ m.format fuel rest
      | none, none => literal ++ c :: m.format fuel rest
  | fuel + 1, c :: cs => c :: m.format fuel cs

def Moment.show_ (m : Moment) (format : String) : String :=
  String.ofList (m.format (8 * format.length + 8) format.toList)

/-! ## Texts of dates -/

/-- What has been read of a text. -/
structure Reading where
  date : Option Day
  /-- Seconds of the day. -/
  time : Option Nat
  nanoseconds : Nat
  /-- Seconds that the clock of the text is in front. -/
  zone : Option Int
  /-- A day of the week, and the number of weeks to go on to it. -/
  weekday : Option (Nat × Int)
  months : Int
  days : Int
  seconds : Int
  /-- Steps have been read. -/
  relative : Bool
  /-- The last step, as months, days and seconds, so that it can be turned round. -/
  last : Int × Int × Int

def Reading.start : Reading := ⟨none, none, 0, none, none, 0, 0, 0, false, (0, 0, 0)⟩

/-- A piece of a text. -/
inductive Piece where
  | word (text : String)
  /-- Digits with a sign in front of them. -/
  | number (sign : Option Char) (digits : List Char)
  | mark (c : Char)
  deriving DecidableEq

/-- The pieces of a text; `fuel` is its length. -/
def pieces : Nat → List Char → List Piece
  | 0, _ | _, [] => []
  | fuel + 1, c :: cs =>
    if Arithmetic.isSpace c ∨ c = ',' then pieces fuel cs
    else if c.isDigit then
      let ds := (c :: cs).takeWhile Char.isDigit
      .number none ds :: pieces fuel ((c :: cs).drop ds.length)
    else if c.isAlpha then
      let w := (c :: cs).takeWhile fun c => c.isAlpha || c == '.'
      .word (String.ofList (w.map Char.toLower)) :: pieces fuel ((c :: cs).drop w.length)
    else if c = '+' ∨ c = '-' then
      let cs' := cs.dropWhile Arithmetic.isSpace
      let ds := cs'.takeWhile Char.isDigit
      if ds = [] then .mark c :: pieces fuel cs
      else .number (some c) ds :: pieces fuel (cs'.drop ds.length)
    else .mark c :: pieces fuel cs

def valueOf (ds : List Char) : Nat := Printf.number 10 ds

/-- The number of a name among those that have at least its first three letters. -/
def named? (names : List String) (word : String) : Option Nat :=
  let word := if word.endsWith "." then String.ofList word.toList.dropLast else word
  let shorts := if names = weekdayNames then ["tues", "wednes", "thur", "thurs"] else ["sept"]
  names.findIdx? fun n =>
    let n := n.map Char.toLower
    n == word || String.ofList (n.toList.take 3) == word ||
      (shorts.contains word && word.toList.isPrefixOf n.toList)

/-- The months, days and seconds of a unit. -/
def unit? (word : String) : Option (Int × Int × Int) :=
  let word := if word.endsWith "s" then String.ofList word.toList.dropLast else word
  match word with
  | "year" => some (12, 0, 0)
  | "month" => some (1, 0, 0)
  | "fortnight" => some (0, 14, 0)
  | "week" => some (0, 7, 0)
  | "day" => some (0, 1, 0)
  | "hour" => some (0, 0, 3600)
  | "minute" | "min" => some (0, 0, 60)
  | "second" | "sec" => some (0, 0, 1)
  | _ => none

/-- The number that a word stands for in front of a unit. -/
def ordinal? (word : String) : Option Int :=
  match word with
  | "last" => some (-1)
  | "this" => some 0
  | "next" => some 1
  | word =>
    (["first", "third", "fourth", "fifth", "sixth", "seventh", "eighth", "ninth", "tenth",
      "eleventh", "twelfth"].zip [1, 3, 4, 5, 6, 7, 8, 9, 10, 11, 12]).lookup word

/-- Takes a step of so many units. -/
def Reading.step (r : Reading) (n : Int) (unit : Int × Int × Int) : Reading :=
  let (m, d, s) := (n * unit.1, n * unit.2.1, n * unit.2.2)
  { r with
    months := r.months + m
    days := r.days + d
    seconds := r.seconds + s
    relative := true
    last := (m, d, s) }

/-- Sets the date once. -/
def Reading.on? (r : Reading) (year : Int) (month day : Nat) : Option Reading :=
  if r.date.isSome then none else some { r with date := some ⟨year, month, day⟩ }

/-- A year of two digits is one of the years around 2000. -/
def yearOf (ds : List Char) : Int :=
  let n := valueOf ds
  if ds.length = 2 then (if n < 69 then 2000 + n else 1900 + n) else n

/-- Sets the time of the day once, with what stands behind it: half of the day, and the zone. -/
def Reading.at? (r : Reading) (hour minute second : Nat) (rest : List Piece) :
    Option (Reading × List Piece) := do
  if r.time.isSome ∨ 59 < minute ∨ 60 < second then none
  let (hour, rest) ← match rest with
    | .word "am" :: rest | .word "a.m." :: rest =>
      if hour = 0 ∨ 12 < hour then none else some (hour % 12, rest)
    | .word "pm" :: rest | .word "p.m." :: rest =>
      if hour = 0 ∨ 12 < hour then none else some (hour % 12 + 12, rest)
    | rest => if 23 < hour then none else some (hour, rest)
  let r := { r with time := some (hour * 3600 + minute * 60 + second) }
  match rest with
  | .number (some c) ds :: .mark ':' :: .number none es :: rest =>
    let n : Int := valueOf ds * 3600 + valueOf es * 60
    return ({ r with zone := some (if c = '-' then -n else n) }, rest)
  | .number (some c) ds :: rest =>
    if (match rest with
        | .word w :: _ => (unit? w).isSome
        | _ => false) then return (r, .number (some c) ds :: rest)
    let n : Int := if ds.length ≤ 2 then valueOf ds * 3600
      else valueOf (ds.take (ds.length - 2)) * 3600 + valueOf (ds.drop (ds.length - 2)) * 60
    return ({ r with zone := some (if c = '-' then -n else n) }, rest)
  | rest => return (r, rest)

/-- Digits alone: a date, an hour, or an hour with minutes. -/
def Reading.bare? (r : Reading) (ds : List Char) (rest : List Piece) :
    Option (Reading × List Piece) := do
  let part (a n : Nat) : Nat := valueOf ((ds.drop a).take n)
  if r.date.isNone ∧ 4 < ds.length then
    let k := ds.length - 4
    return (← r.on? (yearOf (ds.take k)) (part k 2) (part (k + 2) 2), rest)
  else if r.time.isSome then none
  else if ds.length ≤ 2 then r.at? (part 0 2) 0 0 rest
  else r.at? (part 0 (ds.length - 2)) (part (ds.length - 2) 2) 0 rest

/-- Reads pieces; `fuel` bounds their number. -/
def Reading.pieces (r : Reading) : Nat → List Piece → Option Reading
  | 0, _ | _, [] => some r
  | fuel + 1, piece :: rest => do
    let go (found : Option (Reading × List Piece)) : Option Reading :=
      found.bind fun (r, rest) => r.pieces fuel rest
    match piece, rest with
    | .number none y, .number (some '-') m :: .number (some '-') d :: rest =>
      let rest := match rest with
        | .word "t" :: more => more
        | rest => rest
      (← r.on? (yearOf y) (valueOf m) (valueOf d)).pieces fuel rest
    | .number none a, .mark '/' :: .number none b :: .mark '/' :: .number none c :: rest =>
      if 4 ≤ a.length then (← r.on? (yearOf a) (valueOf b) (valueOf c)).pieces fuel rest
      else (← r.on? (yearOf c) (valueOf a) (valueOf b)).pieces fuel rest
    | .number none h, .mark ':' :: .number none m :: .mark ':' :: .number none s ::
        .mark '.' :: .number none f :: rest =>
      let ns := valueOf ((f ++ List.replicate 9 '0').take 9)
      go ({ r with nanoseconds := ns }.at? (valueOf h) (valueOf m) (valueOf s) rest)
    | .number none h, .mark ':' :: .number none m :: .mark ':' :: .number none s :: rest =>
      go (r.at? (valueOf h) (valueOf m) (valueOf s) rest)
    | .number none h, .mark ':' :: .number none m :: rest =>
      go (r.at? (valueOf h) (valueOf m) 0 rest)
    | .number sign ds, .word w :: rest =>
      let n : Int := if sign = some '-' then -(valueOf ds : Int) else valueOf ds
      match unit? w, named? monthNames w, sign, rest with
      | some u, _, _, rest => (r.step n u).pieces fuel rest
      | none, some m, none, .number none y :: rest =>
        (← r.on? (yearOf y) (m + 1) (valueOf ds)).pieces fuel rest
      | none, _, none, rest =>
        if ["am", "pm", "a.m.", "p.m."].contains w then
          go (r.at? (valueOf ds) 0 0 (.word w :: rest))
        else go (r.bare? ds (.word w :: rest))
      | _, _, _, _ => none
    | .number none ds, rest => go (r.bare? ds rest)
    | .word w, rest =>
      match w with
      | "now" | "today" => r.pieces fuel rest
      | "tomorrow" => (r.step 1 (0, 1, 0)).pieces fuel rest
      | "yesterday" => (r.step (-1) (0, 1, 0)).pieces fuel rest
      | "z" | "utc" | "gmt" | "ut" => Reading.pieces { r with zone := some 0 } fuel rest
      | "t" => r.pieces fuel rest
      | "ago" =>
        let (m, d, s) := r.last
        let turned := { r with
          months := r.months - 2 * m
          days := r.days - 2 * d
          seconds := r.seconds - 2 * s
          last := (0, 0, 0) }
        turned.pieces fuel rest
      | w =>
        match ordinal? w, unit? w, named? weekdayNames w, named? monthNames w, rest with
        | some n, _, _, _, .word u :: rest =>
          match unit? u, named? weekdayNames u with
          | some u, _ => (r.step n u).pieces fuel rest
          | none, some d => Reading.pieces { r with weekday := some (d, n) } fuel rest
          | none, none => none
        | none, some u, _, _, rest => (r.step 1 u).pieces fuel rest
        | _, _, some d, _, rest => Reading.pieces { r with weekday := some (d, 0) } fuel rest
        | _, _, _, some m, .number none d :: .number none y :: rest =>
          match rest with
          | .mark ':' :: _ => (← r.on? 0 (m + 1) (valueOf d)).pieces fuel (.number none y :: rest)
          | rest => (← r.on? (yearOf y) (m + 1) (valueOf d)).pieces fuel rest
        | _, _, _, _, _ => none
    | _, _ => none

/-- The moment that has been read; what has not been given is taken from `now`. -/
def Reading.moment? (r : Reading) (now : Moment) : Option Moment := do
  let day := r.date.getD now.day
  if !day.isReal then none
  let monthNumber := day.year * 12 + (day.month - 1 : Nat) + r.months
  let first : Day := ⟨monthNumber.fdiv 12, (monthNumber.fmod 12).toNat + 1, 1⟩
  let number := first.number + (day.day - 1 : Nat)
  let number := match r.weekday with
    | some (w, n) =>
      let today := ((number + 4).fmod 7).toNat
      let ahead : Int := ((w + 7 - today) % 7 : Nat)
      number + ahead + 7 * (if n < 0 then n else if n > 0 ∧ ahead ≠ 0 then n - 1 else n)
    | none => number
  let given := r.date.isSome || r.weekday.isSome
  let time : Nat := match r.time with
    | some t => t
    | none => if given || !r.relative then 0 else now.hour * 3600 + now.minute * 60 + now.second
  let seconds := (number + r.days) * 86400 + time + r.seconds - r.zone.getD 0
  return .ofSeconds seconds r.nanoseconds

/-- The moment that a text names, as it is read at `now`. -/
def moment? (now : Moment) (text : String) : Option Moment :=
  match Arithmetic.trim text.toList with
  | '@' :: cs =>
    let (negative, cs) := match cs with
      | '-' :: cs => (true, cs)
      | cs => (false, cs)
    let ds := cs.takeWhile Char.isDigit
    let fraction := match cs.drop ds.length with
      | [] => some []
      | '.' :: f => if f.all Char.isDigit then some f else none
      | _ => none
    match fraction with
    | some f =>
      let ns := valueOf ((f ++ List.replicate 9 '0').take 9)
      let n : Int := valueOf ds
      if ds = [] then none
      else if negative then
        some (if ns = 0 then .ofSeconds (-n) 0 else .ofSeconds (-n - 1) (1000000000 - ns))
      else some (.ofSeconds n ns)
    | none => none
  | cs => do
    let isNow : Bool := String.ofList (cs.map Char.toLower) == "now"
    if isNow then return now
    (← Reading.start.pieces (cs.length + 1) (pieces (cs.length + 1) cs)).moment? now

/-- The moment at which a run begins. -/
def beginning : Int := 1767225600

/-- The moment that the clock of a run shows. -/
def now (s : State) : Moment :=
  .ofSeconds (beginning + (s.clock / 1000 : Nat)) (s.clock % 1000 * 1000000)

end Calendar

namespace Utility

/-- The format for what an option asks for. -/
def dateFormat (a : Arguments) : Except String (Option String) := do
  let chosen ← (a.options.filter fun (c, _) => "IRρ".contains c).mapM fun (c, v) => match c with
    | 'R' => .ok "%a, %d %b %Y %H:%M:%S %z"
    | 'ρ' => do
      match ← named "--rfc-3339" ["date", "seconds", "ns"] v with
      | "date" => return "%Y-%m-%d"
      | "seconds" => return "%Y-%m-%d %H:%M:%S%:z"
      | _ => return "%Y-%m-%d %H:%M:%S.%N%:z"
    | _ => do
      match ← named "--iso-8601" ["hours", "minutes", "date", "seconds", "ns"]
          (if v = "" then "date" else v) with
      | "date" => return "%Y-%m-%d"
      | "hours" => return "%Y-%m-%dT%H%:z"
      | "minutes" => return "%Y-%m-%dT%H:%M%:z"
      | "seconds" => return "%Y-%m-%dT%H:%M:%S%:z"
      | _ => return "%Y-%m-%dT%H:%M:%S,%N%:z"
  if chosen.length > 1 then throw "multiple output formats specified"
  return chosen.head?
where
  named (option : String) (words : List String) (text : String) : Except String String :=
    match words.find? (·.startsWith text) with
    | some word => .ok word
    | none => .error ("invalid argument " ++ quoted text ++ " for '" ++ option ++
        "'\nValid arguments are:" ++ String.join (words.map fun w => "\n  - '" ++ w ++ "'"))

/-- Shows a moment. -/
def date : Utility :=
  withOptions (.of "d:f:I::r:Rs:uρ:" [("date", 'd'), ("file", 'f'), ("iso-8601", 'I'),
    ("reference", 'r'), ("rfc-email", 'R'), ("rfc-3339", 'ρ'), ("set", 's'), ("utc", 'u'),
    ("universal", 'u')]) 1 fun a => do
    let now := Calendar.now (← get)
    let invalid (text : String) : StateM State Nat := do
      complain ("invalid date " ++ quoted text)
      return 1
    let given := a.options.filter fun (c, _) => "dfr".contains c
    match dateFormat a, a.operands with
    | .error message, _ => misuse 1 message
    | _, _ :: extra :: _ => misuse 1 ("extra operand " ++ quoted extra)
    | .ok preset, operands =>
      if (given.map Prod.fst).eraseDups.length > 1 then
        return ← misuse 1 "the options to specify dates for printing are mutually exclusive"
      let format ← match operands with
        | operand :: _ =>
          match operand.toList with
          | '+' :: cs =>
            if preset.isSome then
              return ← misuse 1 "multiple output formats specified"
            pure (String.ofList cs)
          | _ =>
            if given = [] then return ← invalid operand
            return ← misuse 1 ("the argument " ++ quoted operand ++ " lacks a leading '+';\n" ++
              "when using an option to specify date(s), any non-option\n" ++
              "argument must be a format string beginning with '+'")
        | [] => pure (preset.getD "%a %b %e %H:%M:%S %Z %Y")
      match given.getLast? with
      | some ('d', text) =>
        match Calendar.moment? now text with
        | some m => writeLine (m.show_ format); return 0
        | none => invalid text
      | some ('f', file) =>
        match ← readOperand file with
        | .error e => complain (ofOperand file (cause e)); return 1
        | .ok text =>
          (linesUpTo '\n' text).foldlM (fun status line => do
            match Calendar.moment? now (String.ofList line) with
            | some m => writeLine (m.show_ format); return status
            | none => invalid (String.ofList line)) 0
      | some (_, file) =>
        let s ← get
        match s.disk.node s.cwd (State.path file) with
        | .ok _ => writeLine (now.show_ format); return 0
        | .error e => complain (ofOperand file (cause e)); return 1
      | none => writeLine (now.show_ format); return 0

end Utility

end PlaybookScan.Shell

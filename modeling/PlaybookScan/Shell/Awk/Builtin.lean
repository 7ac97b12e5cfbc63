import PlaybookScan.Shell.Awk.Machine
import PlaybookScan.Shell.Utility.Calendar

/-!
# Functions that every record program has
-/

set_option autoImplicit false

namespace PlaybookScan.Shell.Awk

open Utility (forever)

/-- A piece of a replacement: a text, or the match itself. -/
inductive Part where
  | text (cs : List Char)
  | whole

/-- The pieces of a replacement. An ampersand is the match unless a backslash stands before it;
`fuel` is the length of the text. -/
def parts (fuel : Nat) (cs : List Char) : List Part :=
  match fuel, cs with
  | 0, _ | _, [] => []
  | fuel + 1, '\\' :: '\\' :: '\\' :: '&' :: rest => .text ['\\', '&'] :: parts fuel rest
  | fuel + 1, '\\' :: '\\' :: '&' :: rest => .text ['\\'] :: .whole :: parts fuel rest
  | fuel + 1, '\\' :: '&' :: rest => .text ['&'] :: parts fuel rest
  | fuel + 1, '&' :: rest => .whole :: parts fuel rest
  | fuel + 1, c :: rest => .text [c] :: parts fuel rest

def Part.fill (found : List Char) : Part → List Char
  | text cs => cs
  | whole => found

/-- Replaces the matches from an offset on, up to `most` of them; answers the text behind the offset
and their number. An empty match does not follow another one at once. `fuel` bounds the number of
matches. -/
def replaced (f : Regex.Finder) (new : List Part) (text : List Char) :
    Nat → Option Nat → Nat → Option Nat → List (List Char) × Nat
  | 0, _, start, _ => ([text.drop start], 0)
  | _, some 0, start, _ => ([text.drop start], 0)
  | fuel + 1, most, start, last =>
    match f.find? text start with
    | none => ([text.drop start], 0)
    | some found =>
      let before := (text.take found.start).drop start
      if found.start = found.stop ∧ last = some found.start then
        match text.drop found.start with
        | [] => ([before], 0)
        | c :: _ =>
          let (rest, n) := replaced f new text fuel most (found.start + 1) none
          (before :: [c] :: rest, n)
      else
        let part := (text.take found.stop).drop found.start
        let (rest, n) := replaced f new text fuel (most.map (· - 1)) found.stop (some found.stop)
        (before :: new.flatMap (Part.fill part) :: rest, n + 1)

/-- The characters of a text from one to another, by their numbers. -/
def substring (text : String) (start : Float) (count : Option Float) : String :=
  let first := clipped (start + 0.5).floor
  let stop := match count with
    | some n => clipped (start + n + 0.5).floor
    | none => text.length + 1
  let from_ := max first 1
  if stop ≤ from_ then ""
  else String.ofList ((text.toList.drop (from_ - 1).toNat).take (stop - from_).toNat)

/-- Where a text begins within another one, counted from one; zero if it is not there. -/
def position (part : List Char) : Nat → List Char → Nat
  | n, [] => if part = [] then n else 0
  | n, c :: cs => if part.isPrefixOf (c :: cs) then n else position part (n + 1) cs

/-- A random number below one, and what the next one comes from. -/
def nextChance (n : UInt64) : Float × UInt64 :=
  let n := n * 6364136223846793005 + 1442695040888963407
  ((n >>> 11).toFloat / 9007199254740992.0, n)

/-- The seconds that a text of six numbers stands for. -/
def secondsOf (text : String) : Option Int :=
  let ns := (text.splitOn " ").filterMap String.toInt?
  match ns with
  | year :: month :: day :: hour :: minute :: second :: _ =>
    let months := year * 12 + month - 1
    let first : Calendar.Day := ⟨months / 12, (months % 12).toNat + 1, 1⟩
    some ((first.number + day - 1) * 86400 + hour * 3600 + minute * 60 + second)
  | _ => none

namespace Act

/-- A function whose arguments are values. -/
def builtin (name : String) (args : List Value) : Act Value := do
  let real (f : Float → Float) : Act Value := do
    return .number (f ((args.headD .missing).toNumber))
  let text (v : Value) : Act String := shown v
  let now := (Calendar.now (← get).shell).seconds
  match name, args with
  | "sin", _ => real Float.sin
  | "cos", _ => real Float.cos
  | "exp", _ => real Float.exp
  | "log", _ => real Float.log
  | "sqrt", _ => real Float.sqrt
  | "int", _ => real cut
  | "atan2", [y, x] => return .number (Float.atan2 y.toNumber x.toNumber)
  | "rand", _ =>
    let (x, chance) := nextChance (← get).chance
    modify fun m => { m with chance }
    return .number x
  | "srand", args =>
    let old := (← get).seed
    let new := match args with
      | v :: _ => v.toNumber
      | [] => Float.ofInt now
    modify fun m => { m with seed := new, chance := new.toBits }
    return .number old
  | "length", v :: _ => return .number (Float.ofNat (← text v).length)
  | "length", [] => return .number (Float.ofNat (← recordText).length)
  | "substr", v :: start :: rest =>
    return .text (substring (← text v) start.toNumber (rest.head?.map Value.toNumber))
  | "index", [v, part] =>
    return .number (Float.ofNat (position (← text part).toList 1 (← text v).toList))
  | "tolower", [v] => return .text (String.map Char.toLower (← text v))
  | "toupper", [v] => return .text (String.map Char.toUpper (← text v))
  | "sprintf", f :: args =>
    let f ← text f
    let numbers ← format
    match formatted (Value.shown numbers) f.length 0 args f.toList with
    | (cs, none) => return .text (String.ofList cs)
    | (_, some fault) => formatFault "sprintf" f fault
  | "system", [v] => return .number (endingNumber (← run ["sh", "-c", ← text v]))
  | "close", [v] => return .number (← close (← text v))
  | "fflush", args =>
    let name ← match args with
      | v :: _ => text v
      | [] => pure ""
    let known := ["", "/dev/stdout", "/dev/stderr", "-"].contains name ||
      (← get).sinks.any fun s => s.name == name
    flush
    return .number (if known then 0 else -1)
  | "systime", _ => return .number (Float.ofInt now)
  | "mktime", [v] => return .number (((secondsOf (← text v)).map Float.ofInt).getD (-1))
  | "strftime", args =>
    let f ← match args with
      | v :: _ => text v
      | [] => pure "%c"
    let seconds := match args with
      | _ :: v :: _ => clipped v.toNumber
      | _ => now
    return .text ((Calendar.Moment.ofSeconds seconds 0).show_ f)
  | _, _ => return .missing
where
  /-- What is wrong with a format. -/
  formatFault (name f : String) : FormatFault → Act Value
    | .tooFew => fault ("not enough arguments passed to " ++ name ++ "(\"" ++ f ++ "\")")
    | .improper n =>
      fault ("improper conversion(number " ++ toString n ++ ") in " ++ name ++ "(\"" ++ f ++ "\")")

end Act

end PlaybookScan.Shell.Awk

import PlaybookScan.Log.Record
import PlaybookScan.Text.CharClass
import PlaybookScan.Text.JsonString
import PlaybookScan.Text.Quoted

/-!
# Log formats

A log record is printed as a compact line for people or as a JSON object for programs. The message
of a compact line may hold newlines; characters that could steer a terminal are written by number.
-/

set_option autoImplicit false

namespace PlaybookScan.Log

inductive Format where
  | json
  | compact
  deriving DecidableEq, Repr

/-- The text names no log format. -/
structure UnknownFormat where
  deriving DecidableEq, Repr

def UnknownFormat.message (_ : UnknownFormat) : String := "Matching variant not found"

namespace Format

def display : Format → String
  | json => "json"
  | compact => "compact"

/-- Reads the name of a format, in any letter case. -/
def parse (text : String) : Except UnknownFormat Format :=
  if Text.eqIgnoreCase text "json" then .ok .json
  else if Text.eqIgnoreCase text "compact" then .ok .compact
  else .error ⟨⟩

end Format

def FieldValue.compact : FieldValue → String
  | number n => toString n
  | flag b => if b then "true" else "false"
  | text s => Text.quote s
  | shown s => s
  | list xs => Text.quoteList xs

/-- A character of a message: terminal controls by number, others as they are. -/
def messageChar (c : Char) : List Char :=
  let n := c.toNat
  if n == 0x1B || n == 0x07 || n == 0x08 || n == 0x0C || n == 0x7F then
    ['\\', 'x'] ++ (if n < 16 then ['0'] else []) ++ Text.hexNumber c
  else if 0x80 ≤ n && n ≤ 0x9F then ['\\', 'u', '\x7b'] ++ Text.hexNumber c ++ ['\x7d']
  else [c]

/-- The level, right-aligned, the target, the message and the fields. -/
def Record.compact (r : Record) : String :=
  let level := String.ofList (List.replicate (5 - r.level.text.length) ' ') ++ r.level.text
  let message := String.ofList (r.message.toList.flatMap messageChar)
  level ++ " " ++ r.target ++ ": " ++ message ++
    String.join (r.fields.map fun (name, value) => " " ++ name ++ "=" ++ value.compact)

/-! ## JSON -/

def FieldValue.json : FieldValue → String
  | number n => toString n
  | flag b => if b then "true" else "false"
  | text s => Text.jsonString s
  | shown s => Text.jsonString s
  | list xs => Text.jsonString (Text.quoteList xs)

/-- A JSON object of the time, the level, the message, the fields and the target. -/
def Record.json (time : String) (r : Record) : String :=
  let members := [("timestamp", Text.jsonString time), ("level", Text.jsonString r.level.text),
      ("message", Text.jsonString r.message)] ++
    r.fields.map (fun (name, value) => (name, value.json)) ++ [("target", Text.jsonString r.target)]
  let texts := members.map fun (name, value) => Text.jsonString name ++ ":" ++ value
  "\x7b" ++ ",".intercalate texts ++ "\x7d"

/-- The line, with its newline, that a record makes at `time`. -/
def Format.render (f : Format) (time : String) (r : Record) : String :=
  match f with
  | json => r.json time ++ "\n"
  | compact => r.compact ++ "\n"

end PlaybookScan.Log

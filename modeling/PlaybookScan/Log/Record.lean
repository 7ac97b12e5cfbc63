/-!
# Log records

What a log line says: a level, the part of the program that speaks, a message, and named fields.
-/

set_option autoImplicit false

namespace PlaybookScan.Log

inductive Level where
  | error
  | warn
  | info
  | debug
  | trace
  deriving DecidableEq, Repr

namespace Level

/-- 1 for the gravest level. -/
def rank : Level → Nat
  | error => 1
  | warn => 2
  | info => 3
  | debug => 4
  | trace => 5

def text : Level → String
  | error => "ERROR"
  | warn => "WARN"
  | info => "INFO"
  | debug => "DEBUG"
  | trace => "TRACE"

end Level

inductive FieldValue where
  | number (n : Int)
  | flag (b : Bool)
  /-- A text, in quotes where a line is for people. -/
  | text (s : String)
  /-- A text without quotes. -/
  | shown (s : String)
  /-- A list of texts, in quotes and brackets. -/
  | list (xs : List String)
  deriving DecidableEq, Repr

structure Record where
  level : Level
  target : String
  message : String
  fields : List (String × FieldValue)
  deriving DecidableEq, Repr

end PlaybookScan.Log

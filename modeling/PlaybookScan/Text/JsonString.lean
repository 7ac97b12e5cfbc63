/-!
# JSON strings

Quotes, backslashes and the characters below the space are escaped, five of the latter by name and
the others by number. Every other character stands for itself. `jsonPieces` is the same text in the
pieces in which it is written.
-/

set_option autoImplicit false

namespace PlaybookScan.Text

/-- Four hexadecimal digits. -/
def fourDigits (n : Nat) : List Char :=
  let ds := Nat.toDigits 16 n
  List.replicate (4 - ds.length) '0' ++ ds

def jsonChar (c : Char) : List Char :=
  match c with
  | '"' => ['\\', '"']
  | '\\' => ['\\', '\\']
  | '\x08' => ['\\', 'b']
  | '\x0c' => ['\\', 'f']
  | '\n' => ['\\', 'n']
  | '\r' => ['\\', 'r']
  | '\t' => ['\\', 't']
  | c => if c.toNat < 0x20 then ['\\', 'u'] ++ fourDigits c.toNat else [c]

/-- A JSON string. Quotes, backslashes and the characters below the space are escaped. -/
def jsonString (s : String) : String := String.ofList ('"' :: s.toList.flatMap jsonChar ++ ['"'])

/-- Two characters that are written at once: neither is escaped. -/
def sameRun (c d : Char) : Bool := jsonChar c == [c] && jsonChar d == [d]

/-- The pieces of a JSON string: its quotes, each escape, and each run of other characters. -/
def jsonPieces (s : String) : List (List Char) :=
  ['"'] :: (s.toList.splitBy sameRun).map (·.flatMap jsonChar) ++ [['"']]

end PlaybookScan.Text

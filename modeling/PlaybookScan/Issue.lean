import PlaybookScan.InputFile
import PlaybookScan.Rule.Catalogue
import PlaybookScan.Text.JsonString

/-!
# Issues

An issue is what the host keeps of a finding: a rule, and a line of a file of which it copies key
and URI. It is written as a JSON object on one line; the message is left out if there is none.
`json` is the text of the object, and `pieces` are the pieces in which it is written.
-/

set_option autoImplicit false

namespace PlaybookScan

structure Issue where
  rule : RuleKey
  /-- Display key of the file. -/
  component : String
  uri : FileUri
  line : UInt32
  message : Option String
  deriving DecidableEq, Repr

namespace Issue

/-- An issue on a line of a file. The line is counted from 1 and within the file's known lines. -/
def create (rule : RuleKey) (file : InputFile) (line : UInt32) : Except HostError Issue :=
  if file.hasLine line then .ok ⟨rule, file.key, file.uri, line, none⟩
  else .error (.lineOutOfRange file.key line (file.lines.getD 0))

def withMessage (i : Issue) (message : Option String) : Issue := { i with message }

/-- The object of an issue, without the newline that ends its line. -/
def json (i : Issue) : String :=
  let message := match i.message with
    | some message => ",\"message\":" ++ Text.jsonString message
    | none => ""
  "\x7b\"rule\":" ++ Text.jsonString i.rule.display ++
    ",\"file\":" ++ Text.jsonString i.component ++ ",\"line\":" ++ Text.decimal i.line ++
    message ++ "\x7d"

/-- A member of the object, in pieces. -/
def memberPieces (name : String) (value : List (List Char)) : List (List Char) :=
  Text.jsonPieces name ++ [[':']] ++ value

/-- The pieces in which the object is written, in order. -/
def pieces (i : Issue) : List (List Char) :=
  let message := match i.message with
    | some message => [[',']] ++ memberPieces "message" (Text.jsonPieces message)
    | none => []
  [['\x7b']] ++ memberPieces "rule" (Text.jsonPieces i.rule.display) ++
    [[',']] ++ memberPieces "file" (Text.jsonPieces i.component) ++
    [[',']] ++ memberPieces "line" [(Text.decimal i.line).toList] ++ message ++ [['\x7d']]

end Issue

end PlaybookScan

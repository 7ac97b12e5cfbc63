import PlaybookScan.Path
import PlaybookScan.Text.CharClass

/-!
# Why the host rejects a file or an issue
-/

set_option autoImplicit false

namespace PlaybookScan

inductive HostError where
  /-- The path has no URI. -/
  | invalidPath (path : Path)
  /-- The file with the key `file` has `lines` lines (0 if unknown), and `line` is none of them. -/
  | lineOutOfRange (file : String) (line lines : UInt32)
  deriving DecidableEq, Repr

namespace HostError

def message : HostError → String
  | invalidPath path => "path '" ++ path.text ++ "' cannot be converted to a file URI"
  | lineOutOfRange file line lines =>
    "line " ++ Text.decimal line ++ " is out of range for '" ++ file ++ "' (" ++
      Text.decimal lines ++ " lines)"

end HostError

end PlaybookScan

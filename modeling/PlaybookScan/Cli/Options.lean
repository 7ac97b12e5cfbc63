import PlaybookScan.Cli.Error
import PlaybookScan.Log.Format
import PlaybookScan.Rule.Catalogue
import PlaybookScan.Text.Cut

/-!
# Options of a scan
-/

set_option autoImplicit false

namespace PlaybookScan

structure Options where
  /-- Directory whose files are analysed. -/
  baseDir : Path
  properties : List (String × String)
  /-- Identifiers of the active rules; all rules are active if there is no list. -/
  rules : Option (List String)
  logFilter : String
  logFormat : Log.Format
  /-- Arguments passed on to the linter. -/
  lintArgs : List String
  deriving DecidableEq, Repr

namespace Options

def standard : Options := ⟨⟨"."⟩, [], none, "info", .compact, []⟩

/-- Splits `KEY=VALUE` at the first equals sign. The key is trimmed and not blank. -/
def parseProperty (text : String) : Except ScanError (String × String) :=
  match Text.cut? ['='] text.toList with
  | some (key, value) =>
    if Text.trimChars key = [] then .error (.invalidProperty text)
    else .ok (String.ofList (Text.trimChars key), String.ofList value)
  | none => .error (.invalidProperty text)

/-- The catalogue of a list of rules. Blank entries count for nothing. -/
def catalogue (rules : Option (List String)) : Catalogue :=
  match rules with
  | none => .allOf RuleKey.ansible
  | some ids =>
    ((ids.map Text.trim).filter (· ≠ "")).foldl
      (fun c id => c.activate ⟨RuleKey.ansible, id⟩) .empty

end Options

end PlaybookScan

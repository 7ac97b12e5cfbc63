import PlaybookScan.Lint.Runner
import PlaybookScan.Text.CharClass
import PlaybookScan.Text.Cut

/-!
# The linter's version

The version text has one or two lines: the linter, and what it runs on. A one-line text may name
the latter behind ` using `.
-/

set_option autoImplicit false

namespace PlaybookScan

structure LintVersion where
  /-- The first line. -/
  lint : Option String
  /-- What the linter runs on. -/
  ansible : Option String
  deriving DecidableEq, Repr

namespace LintVersion

/-- What stands behind the first ` using `, if it starts with `ansible`. -/
def usingSuffix? (line : String) : Option String := do
  let (_, rest) ← Text.cut? " using ".toList line.toList
  let rest := Text.trimChars rest
  if "ansible".toList.isPrefixOf rest then some (String.ofList rest) else none

def ofLines : List String → LintVersion
  | [] => ⟨none, none⟩
  | [line] => ⟨some line, usingSuffix? line⟩
  | first :: second :: _ => ⟨some first, some second⟩

/-- The version that a reply reports. The lines printed are logged, two at most. -/
def ofReply (reply : Reply) : Logged (Option LintVersion) := do
  .logAll reply.events
  match reply.result with
  | .error e =>
    .log (.probeFailed e)
    .log .versionUnknown
    return none
  | .ok output =>
    let version := ofLines output.stdout
    .log .versionHeader
    .logAll ((output.stdout.take 2).map .versionLine)
    if version.ansible.isNone then .log .versionUnknown
    return some version

/-- The command line that asks for the version. -/
def command (lintPath : String) : List String := [lintPath, "--version"]

def probe {σ : Type} (runner : Runner σ) (lintPath : String) (s : σ) :
    Logged (Option LintVersion) × σ :=
  let (reply, s) := runner.run (command lintPath) s
  (ofReply reply, s)

end LintVersion

end PlaybookScan

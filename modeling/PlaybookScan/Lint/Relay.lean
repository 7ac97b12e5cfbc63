import PlaybookScan.Log.Event
import PlaybookScan.Text.Cut

/-!
# Relay of the error output

The lines that the linter prints on its error output are logged, one event per run. Warning lines
can be left out; that they are is said once.
-/

set_option autoImplicit false

namespace PlaybookScan

structure Relay where
  disableWarnings : Bool
  /-- It has been said that warnings are hidden. -/
  noticed : Bool
  deriving DecidableEq, Repr

namespace Relay

def start (disableWarnings : Bool) : Relay := ⟨disableWarnings, false⟩

def isWarning (line : String) : Bool := Text.containsText "WARNING " line

/-- The lines that are passed on. -/
def retained (r : Relay) (lines : List String) : List String :=
  if r.disableWarnings then lines.filter (!isWarning ·) else lines

/-- Passes on the lines of one run. -/
def report (r : Relay) (lines : List String) : Logged Relay := do
  let kept := r.retained lines
  let notice := kept.length < lines.length && !r.noticed
  if notice then .log .warningsHidden
  unless kept.isEmpty do .log (.errorOutput kept)
  return { r with noticed := r.noticed || notice }

end Relay

end PlaybookScan

import PlaybookScan.InputFile
import PlaybookScan.Issue
import PlaybookScan.Settings

/-!
# Contexts

What the host gives to an analysis, and the issues it has been given back, in the order in which
they were saved.
-/

set_option autoImplicit false

namespace PlaybookScan

structure Context where
  files : FileSet
  settings : Settings
  rules : Catalogue
  issues : List Issue

namespace Context

/-- A context without issues. -/
def create (files : FileSet) (settings : Settings) (rules : Catalogue) : Context :=
  ⟨files, settings, rules, []⟩

def save (c : Context) (issue : Issue) : Context := { c with issues := c.issues ++ [issue] }

def addFile (c : Context) (file : InputFile) : Context := { c with files := c.files.add file }

def set (c : Context) (key value : String) : Context :=
  { c with settings := c.settings.set key value }

end Context

end PlaybookScan

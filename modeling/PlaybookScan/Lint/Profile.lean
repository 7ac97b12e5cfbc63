import PlaybookScan.InputFile
import PlaybookScan.Settings

/-!
# Profiles

A profile says under which name the linter is presented, which files it gets, and which arguments
it gets besides the standard ones.
-/

set_option autoImplicit false

namespace PlaybookScan

structure Profile where
  name : String
  /-- Language of the files to analyse. -/
  language : String
  extraArgs : List String
  deriving DecidableEq, Repr

/-- How an analysis presents itself to the host. -/
structure Descriptor where
  name : Option String
  language : Option String
  deriving DecidableEq, Repr

namespace Profile

/-- Playbooks: YAML files, no extra arguments. -/
def ansible : Profile := ⟨"Ansible Lint Sensor", "yaml", []⟩

def describe (p : Profile) (_ : Descriptor) : Descriptor := ⟨some p.name, some p.language⟩

/-- The command line for one file: the executable, the standard arguments, the configuration file,
the profile's and the caller's arguments, and the file's path. -/
def command (p : Profile) (settings : LintSettings) (extraArgs : List String) (file : InputFile) :
    List String :=
  [settings.lintPath, "-p", "--nocolor", "-q"] ++
    (match settings.confPath with
      | some path => ["-c", path]
      | none => []) ++
    p.extraArgs ++ extraArgs ++ [file.path.text]

end Profile

end PlaybookScan

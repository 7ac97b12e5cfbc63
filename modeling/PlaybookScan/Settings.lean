import PlaybookScan.Text.CharClass

/-!
# Settings

A flat store of texts. The value of a key is the one set last. What the settings say about the
linter is read once when an analysis starts; a blank path counts as none.
-/

set_option autoImplicit false

namespace PlaybookScan

structure Settings where
  /-- The values set, the last one first. -/
  entries : List (String × String)
  deriving Repr

namespace Settings

def empty : Settings := ⟨[]⟩

def set (s : Settings) (key value : String) : Settings := ⟨(key, value) :: s.entries⟩

/-- The settings that hold `entries`, set one after another. -/
def ofList (entries : List (String × String)) : Settings := ⟨entries.reverse⟩

def get? (s : Settings) (key : String) : Option String := s.entries.lookup key

/-- The value is `true`, whatever its case and the blanks around it. -/
def isTrue (s : Settings) (key : String) : Bool :=
  (s.get? key).any fun value => Text.eqIgnoreCase (Text.trim value) "true"

@[simp] theorem get?_empty (key : String) : empty.get? key = none := rfl

@[simp] theorem get?_set (s : Settings) (key value k : String) :
    (s.set key value).get? k = if k = key then some value else s.get? k := by
  simp only [get?, set, List.lookup_cons]
  split <;> simp_all

end Settings

/-! ## The linter's settings -/

structure LintSettings where
  /-- The executable. -/
  lintPath : String
  /-- The configuration file. -/
  confPath : Option String
  /-- Hide the warnings on the linter's error output. -/
  disableWarnings : Bool
  deriving DecidableEq, Repr

namespace LintSettings

def lintPathKey : String := "sonar.ansible.ansible-lint.path"
def confPathKey : String := "sonar.ansible.ansible-lint.conf.path"
def disableWarningsKey : String := "sonar.ansible.ansible-lint.disable-warnings"

def standard : LintSettings := ⟨"ansible-lint", none, false⟩

/-- The value of `key`, unless it is blank. -/
def nonBlank? (s : Settings) (key : String) : Option String :=
  (s.get? key).filter (!Text.isBlankText ·)

def ofSettings (s : Settings) : LintSettings where
  lintPath := (nonBlank? s lintPathKey).getD standard.lintPath
  confPath := nonBlank? s confPathKey
  disableWarnings := s.isTrue disableWarningsKey

end LintSettings

end PlaybookScan

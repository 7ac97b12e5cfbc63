/-!
# Rules

A rule is addressed by a repository and an identifier. A catalogue says which rules are active: the
ones activated one by one, and all rules of its open repositories. `resolve?` finds the active rule
that an identifier printed by the linter means: the identifier itself, else its other spelling,
which has or lacks a leading `E`.
-/

set_option autoImplicit false

namespace PlaybookScan

structure RuleKey where
  repository : String
  rule : String
  deriving DecidableEq, Hashable, Repr

namespace RuleKey

def display (k : RuleKey) : String := k.repository ++ ":" ++ k.rule

/-- By repository, then by rule. -/
def le (a b : RuleKey) : Bool :=
  a.repository < b.repository || (a.repository == b.repository && a.rule ≤ b.rule)

/-- The keys in order, each once. -/
def sorted (keys : List RuleKey) : List RuleKey := (keys.eraseDups).mergeSort le

/-- The repository of the linter's rules. -/
def ansible : String := "ansible"

/-- The other spelling of an identifier: without its leading `E` if something remains, else with an
`E` in front. -/
def otherSpelling (id : String) : String :=
  match id.toList with
  | 'E' :: c :: cs => String.ofList (c :: cs)
  | _ => "E" ++ id

end RuleKey

structure Catalogue where
  /-- The rules activated one by one. -/
  activated : List RuleKey
  /-- The repositories whose rules are all active. -/
  openRepositories : List String
  deriving DecidableEq, Repr

namespace Catalogue

def empty : Catalogue := ⟨[], []⟩

/-- Every rule of `repository` is active. -/
def allOf (repository : String) : Catalogue := ⟨[], [repository]⟩

def activate (c : Catalogue) (k : RuleKey) : Catalogue :=
  { c with activated := c.activated.insert k }

def isActive (c : Catalogue) (k : RuleKey) : Bool :=
  c.activated.contains k || c.openRepositories.contains k.repository

/-- The active rule that the printed identifier `id` means. -/
def resolve? (c : Catalogue) (id : String) : Option RuleKey :=
  [id, RuleKey.otherSpelling id].map (RuleKey.mk RuleKey.ansible) |>.find? c.isActive

end Catalogue

end PlaybookScan

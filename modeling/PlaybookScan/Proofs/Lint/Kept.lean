import PlaybookScan.Proofs.Lint.Runs
import PlaybookScan.Proofs.Rule.Spelling

/-!
# Issues and the identifiers that were printed

An issue bears the rule that is meant by the identifier that the linter printed, and not the
identifier. `kept` follows both.
-/

set_option autoImplicit false

namespace PlaybookScan

/-- What tells issues apart. -/
def Issue.content (i : Issue) : RuleKey × FileUri × UInt32 × Option String :=
  (i.rule, i.uri, i.line, i.message)

namespace Analysis

/-- The issues that the host makes of findings, each with the identifier that was printed. -/
def kept (c : Context) (found : List (FileUri × Finding)) : List (Issue × String) :=
  found.filterMap fun p => (accept? c p).map (·, p.2.rule)

variable {c : Context} {found : List (FileUri × Finding)}

theorem map_fst_kept : (kept c found).map Prod.fst = found.filterMap (accept? c) := by
  rw [kept, List.map_filterMap]
  refine congrArg (List.filterMap · found) (funext fun p => ?_)
  rw [Option.map_map]
  exact Option.map_id'

theorem content_of_accept? {p : FileUri × Finding} {issue : Issue} (h : accept? c p = some issue) :
    c.rules.resolve? p.2.rule = some issue.rule ∧
      issue.content = (issue.rule, p.1, p.2.line, p.2.message) := by
  obtain ⟨file, rule, hfile, hrule, -, rfl⟩ := accept?_eq_some_iff.1 h
  have huri : file.uri = p.1 := by simpa using List.find?_some hfile
  exact ⟨hrule, by rw [← huri]; rfl⟩

theorem resolve?_of_mem_kept {a : Issue × String} (h : a ∈ kept c found) :
    c.rules.resolve? a.2 = some a.1.rule := by
  obtain ⟨p, -, hp⟩ := List.mem_filterMap.1 h
  obtain ⟨issue, hissue, rfl⟩ := Option.map_eq_some_iff.1 hp
  exact (content_of_accept? hissue).1

end Analysis

end PlaybookScan

import Mathlib.Data.List.Nodup
import Mathlib.Data.List.Perm.Subperm
import PlaybookScan.Lint.Session
import PlaybookScan.Proofs.Lint.Kept

/-!
# When an analysis saves an issue twice

Findings are told apart by the identifier that was printed, issues by the rule that it means. So an
issue comes up again only when its rule was printed under another spelling
(`execute_distinct_but_spellings`): never for rules that are printed as they are called, and three
times at most.

What the host makes of the findings is followed together with the printed identifiers (`kept`): the
identifier tells apart what the issues do not (`pairwise_kept`).
-/

set_option autoImplicit false

namespace PlaybookScan

open Findings Grouping

namespace Analysis

variable {σ : Type}

theorem nodup_reported (cwd : WorkingDir) (base : Path) (lines : List String) :
    (reported cwd base lines).Nodup :=
  nodup_ungroup_group (nodup_eraseDups _)

/-! ## Issues that are alike -/

/-- The printed identifier is the name of an active rule. -/
def namesActive (c : Context) (a : Issue × String) : Bool :=
  c.rules.isActive ⟨RuleKey.ansible, a.2⟩

section
variable {c : Context} {found : List (FileUri × Finding)}

theorem pairwise_kept (h : found.Nodup) :
    (kept c found).Pairwise fun a b => a.1.content = b.1.content → a.2 ≠ b.2 := by
  refine List.Pairwise.filterMap _ ?_ h
  intro ⟨uri, line, id, message⟩ ⟨uri', line', id', message'⟩ hne a ha b hb hcontent hid
  obtain ⟨i, hi, rfl⟩ := Option.map_eq_some_iff.1 ha
  obtain ⟨j, hj, rfl⟩ := Option.map_eq_some_iff.1 hb
  have hsame := (content_of_accept? hi).2.symm.trans (hcontent.trans (content_of_accept? hj).2)
  simp only [Prod.mk.injEq] at hsame
  obtain ⟨-, rfl, rfl, rfl⟩ := hsame
  obtain rfl : id = id' := hid
  exact hne rfl

/-- Of two identifiers for one rule, one is not its name. -/
theorem not_both_namesActive {a b : Issue × String} (ha : a ∈ kept c found) (hb : b ∈ kept c found)
    (hcontent : a.1.content = b.1.content) (hid : a.2 ≠ b.2) :
    namesActive c a = false ∨ namesActive c b = false := by
  by_contra hboth
  simp only [not_or, Bool.not_eq_false] at hboth
  have hrule : a.1.rule = b.1.rule := congrArg Prod.fst hcontent
  have ha' := Catalogue.rule_eq_of_resolve? (resolve?_of_mem_kept ha) hboth.1
  have hb' := Catalogue.rule_eq_of_resolve? (resolve?_of_mem_kept hb) hboth.2
  exact hid (ha'.symm.trans ((congrArg RuleKey.rule hrule).trans hb'))

theorem count_content_le (h : found.Nodup) (content : RuleKey × FileUri × UInt32 × Option String) :
    ((kept c found).map (·.1.content)).count content ≤ 3 := by
  let copies := (kept c found).filter (·.1.content == content)
  have hcontent : ∀ a ∈ copies, a.1.content = content := fun a ha =>
    beq_iff_eq.1 (List.mem_filter.1 ha).2
  have hnodup : (copies.map Prod.snd).Nodup := by
    rw [List.Nodup, List.pairwise_map]
    refine ((pairwise_kept h).filter _).imp_of_mem fun ha hb hab => hab ?_
    exact (hcontent _ ha).trans (hcontent _ hb).symm
  have hspelled : copies.map Prod.snd ⊆ RuleKey.spellings content.1.rule := by
    intro id hid
    obtain ⟨a, ha, rfl⟩ := List.mem_map.1 hid
    have hrule : a.1.rule = content.1 := congrArg Prod.fst (hcontent a ha)
    exact hrule ▸ Catalogue.mem_spellings_of_resolve?
      (resolve?_of_mem_kept (List.mem_filter.1 ha).1)
  calc ((kept c found).map (·.1.content)).count content
      = (copies.map Prod.snd).length := by
        rw [List.count_eq_countP, List.countP_map, List.countP_eq_length_filter, List.length_map]
        rfl
    _ ≤ 3 := (List.subperm_of_subset hnodup hspelled).length_le

end

/-! ## The analysis -/

section
variable (runner : Runner σ) (profile : Profile) (extraArgs : List String) (cwd : WorkingDir)
  (c : Context) (s : σ)

/-- **An analysis saves an issue twice only for two spellings of its rule**, which are not both
names of active rules. Issues that are printed under such names are distinct, and none comes up more
than three times. -/
theorem execute_distinct_but_spellings :
    let after : Context := (execute runner profile extraArgs cwd c s).1.value.2
    let appended := kept c (foundIn cwd c (lintReplies runner profile extraArgs c s))
    after.issues = c.issues ++ appended.map Prod.fst ∧
      (∀ a ∈ appended, c.rules.resolve? a.2 = some a.1.rule) ∧
      appended.Pairwise (fun a b => a.1.content = b.1.content →
        a.2 ≠ b.2 ∧ (namesActive c a = false ∨ namesActive c b = false)) ∧
      ((appended.filter (namesActive c)).map (·.1.content)).Nodup ∧
      ∀ content, (appended.map (·.1.content)).count content ≤ 3 := by
  intro after appended
  have hnodup : (foundIn cwd c (lintReplies runner profile extraArgs c s)).Nodup :=
    nodup_reported ..
  have hpairwise : appended.Pairwise fun a b => a.1.content = b.1.content →
      a.2 ≠ b.2 ∧ (namesActive c a = false ∨ namesActive c b = false) :=
    (pairwise_kept hnodup).imp_of_mem fun ha hb hab hcontent =>
      ⟨hab hcontent, not_both_namesActive ha hb hcontent (hab hcontent)⟩
  refine ⟨?_, fun a => resolve?_of_mem_kept, hpairwise, ?_, count_content_le hnodup⟩
  · rw [map_fst_kept, show after = _ from congrArg Prod.snd (value_execute_eq ..)]
  · rw [List.Nodup, List.pairwise_map]
    refine (hpairwise.filter _).imp_of_mem fun ha hb hab hcontent => ?_
    obtain ⟨-, hoff | hoff⟩ := hab hcontent
    · exact Bool.false_ne_true (hoff.symm.trans (List.mem_filter.1 ha).2)
    · exact Bool.false_ne_true (hoff.symm.trans (List.mem_filter.1 hb).2)

/-- The linter prints one finding under both spellings of the rule `301`. -/
theorem execute_repeats_issue :
    let file : InputFile := ⟨"f.yml", ⟨"/p/f.yml"⟩, ⟨"file:///p/f.yml"⟩, "yaml", none⟩
    let rules := Catalogue.empty.activate ⟨"ansible", "301"⟩
    let c : Context := .create ⟨⟨"/p"⟩, [file]⟩ .empty rules
    let s : Prepared := .ofReplies [fun _ => ⟨.ok ⟨[], [], 0⟩, []⟩,
      fun _ => ⟨.ok ⟨["f.yml:5: E301", "f.yml:5: 301"], [], 0⟩, []⟩]
    let issue : Issue := ⟨⟨"ansible", "301"⟩, "f.yml", ⟨"file:///p/f.yml"⟩, 5, none⟩
    let after : Context := (execute Prepared.runner .ansible [] .top c s).1.value.2
    c.issues = [] ∧ after.issues = [issue, issue] ∧
      ¬ (after.issues.map Issue.content).Nodup := by
  intro file rules c s issue after
  have hissues : after.issues = [issue, issue] := by
    rw [show after = _ from congrArg Prod.snd (value_execute_eq ..)]
    decide +kernel
  refine ⟨rfl, hissues, ?_⟩
  rw [hissues]
  decide +kernel

end

end Analysis

end PlaybookScan

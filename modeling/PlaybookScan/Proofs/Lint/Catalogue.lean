import Mathlib.Data.List.Forall2
import PlaybookScan.Lint.Session
import PlaybookScan.Proofs.Lint.Accounts
import PlaybookScan.Proofs.Lint.Kept

/-!
# The catalogue of an analysis

Of its context an analysis sees the files, the linter's settings and, of the catalogue, what
identifiers mean (`Alike`). A finding whose identifier means no active rule is dropped
(`droppedForRule`), and an event says so (`tally_inactive_ownLog`). An issue is kept when more rules
become active (`accept?_of_within`), but a finding that was printed under the other spelling of its
rule goes to the rule that is called as it was printed, once that one is active.
-/

set_option autoImplicit false

namespace PlaybookScan.Analysis

variable {σ : Type}

/-! ## What an analysis sees -/

theorem events_saveFound_congr {c d : Context} (hfiles : c.files = d.files)
    (hrules : c.rules.resolve? = d.rules.resolve?) (uri : FileUri) (f : Finding) :
    (saveFound c uri f).events = (saveFound d uri f).events := by
  unfold saveFound saveFinding
  rw [hfiles, hrules]
  cases d.files.find? uri with
  | none => rfl
  | some file =>
    cases d.rules.resolve? f.rule with
    | none => rfl
    | some rule =>
      simp only
      cases issueOf rule file f <;> rfl

theorem events_saveAll (c : Context) (found : List (FileUri × Finding)) :
    (saveAll c found).events = found.flatMap fun p => (saveFound c p.1 p.2).events := by
  refine Logged.events_foldlM_eq_flatMap
    (I := fun t : Nat × Nat × Context => t.2.2.files = c.files ∧ t.2.2.rules = c.rules)
    (fun ⟨_, _, d⟩ ⟨uri, f⟩ hd => ?log) (fun ⟨_, _, d⟩ ⟨uri, f⟩ hd => ?kept) found ⟨rfl, rfl⟩
  case log =>
    rw [Logged.events_bind, events_saveFound_congr hd.1 (congrArg _ hd.2)]
    exact List.append_nil _
  case kept =>
    rw [Logged.value_bind]
    rcases saveFound_cases d uri f with ⟨issue, h⟩ | ⟨e, -, h⟩ <;>
      simpa [h, Context.save] using hd

/-- The finding is dropped because its identifier means no active rule. -/
def droppedForRule (c : Context) (p : FileUri × Finding) : Bool :=
  (saveFound c p.1 p.2).events == [.inactiveRule p.2.rule]

theorem droppedForRule_iff {c : Context} {p : FileUri × Finding} : droppedForRule c p = true ↔
    (c.files.find? p.1).isSome = true ∧ c.rules.resolve? p.2.rule = none := by
  unfold droppedForRule saveFound
  rw [beq_iff_eq]
  cases c.files.find? p.1 with
  | none => simp
  | some file =>
    unfold saveFinding
    cases c.rules.resolve? p.2.rule with
    | none => simp
    | some rule =>
      simp only
      cases issueOf rule file p.2 <;> simp

theorem tally_inactive_saveAll (c : Context) (found : List (FileUri × Finding)) :
    tally .inactive (saveAll c found).events = found.countP (droppedForRule c) := by
  rw [events_saveAll]
  induction found with
  | nil => rfl
  | cons p found ih =>
    rw [List.flatMap_cons, tally_append, ih, List.countP_cons, Nat.add_comm]
    congr 1
    rcases saveFound_cases c p.1 p.2 with ⟨issue, h⟩ | ⟨e, rfl | rfl | ⟨file, error, rfl⟩, h⟩ <;>
      simp [droppedForRule, h, Event.weight]

theorem accept?_congr {c d : Context} (hfiles : c.files = d.files)
    (hrules : c.rules.resolve? = d.rules.resolve?) : accept? c = accept? d := by
  funext p
  unfold accept?
  rw [hfiles, hrules]

section
variable (runner : Runner σ) (profile : Profile) (extraArgs : List String) (cwd : WorkingDir)
  (c : Context) (s : σ)

theorem gathered_runsOf :
    gathered cwd c (runsOf runner profile extraArgs c s) =
      foundIn cwd c (lintReplies runner profile extraArgs c s) :=
  drain_progressOf runner profile extraArgs cwd c s

theorem tally_inactive_ownLog :
    tally .inactive (ownLog cwd c (probed runner c s).1 (runsOf runner profile extraArgs c s)) =
      (foundIn cwd c (lintReplies runner profile extraArgs c s)).countP (droppedForRule c) := by
  rw [tally_ownLog_of_saving _ _ _ _ rfl, tally_inactive_saveAll, gathered_runsOf]

theorem events_execute :
    let execution := (execute runner profile extraArgs cwd c s).1
    let runs := runsOf runner profile extraArgs c s
    execution.events = (LintVersion.ofReply (probed runner c s).1).events ++
      ((absorbAll cwd (startOf c) runs).events ++ ((saveAll c (gathered cwd c runs)).events ++
        [.analysisFinished execution.value.1.scanned.length execution.value.1.saved
          execution.value.1.dropped execution.value.1.aborted])) :=
  events_outcomeOf ..

end

/-- An analysis sees no difference between the contexts: of the settings it sees those of the
linter, and of the catalogue what identifiers mean. -/
structure Alike (c d : Context) : Prop where
  files : c.files = d.files
  issues : c.issues = d.issues
  settings : LintSettings.ofSettings c.settings = LintSettings.ofSettings d.settings
  rules : c.rules.resolve? = d.rules.resolve?

namespace Alike

section
variable (runner : Runner σ) (profile : Profile) (extraArgs : List String) (cwd : WorkingDir)
  (s : σ) {c d : Context} (h : Alike c d)
include h

theorem probed_eq : probed runner c s = probed runner d s := by
  rw [probed, probed, h.settings]

theorem runsOf_eq : runsOf runner profile extraArgs c s = runsOf runner profile extraArgs d s := by
  rw [runsOf, runsOf, h.settings, h.files]

theorem lintReplies_eq :
    lintReplies runner profile extraArgs c s = lintReplies runner profile extraArgs d s := by
  have hcommand : commandFor profile extraArgs c = commandFor profile extraArgs d := by
    funext file
    rw [commandFor, commandFor, h.settings]
  rw [lintReplies, lintReplies, h.probed_eq, h.files, hcommand]

theorem startOf_eq : startOf c = startOf d := by
  rw [startOf, startOf, h.settings, h.files]

theorem events_saveAll_eq (found : List (FileUri × Finding)) :
    (saveAll c found).events = (saveAll d found).events := by
  rw [events_saveAll, events_saveAll]
  simp only [events_saveFound_congr h.files h.rules]

theorem value_eq :
    let execution := (execute runner profile extraArgs cwd c s).1.value
    let execution' := (execute runner profile extraArgs cwd d s).1.value
    execution.1 = execution'.1 ∧ execution.2.issues = execution'.2.issues := by
  simp only [value_execute_eq, foundIn, h.probed_eq, h.lintReplies_eq, h.files, h.issues,
    accept?_congr h.files h.rules, and_self]

/-- **Contexts that are alike are analysed alike.** -/
theorem execute_eq :
    let execution := execute runner profile extraArgs cwd c s
    let execution' := execute runner profile extraArgs cwd d s
    execution.1.events = execution'.1.events ∧ execution.1.value.1 = execution'.1.value.1 ∧
      execution.1.value.2.issues = execution'.1.value.2.issues ∧ execution.2 = execution'.2 := by
  intro execution execution'
  obtain ⟨hreport, hissues⟩ := h.value_eq runner profile extraArgs cwd s
  refine ⟨?_, hreport, hissues, ?_⟩
  · have hlog : execution.1.events = _ := events_execute runner profile extraArgs cwd c s
    have hlog' : execution'.1.events = _ := events_execute runner profile extraArgs cwd d s
    rw [hlog, hlog', hreport, h.probed_eq, h.runsOf_eq, gathered, gathered, h.startOf_eq,
      h.events_saveAll_eq]
  · simp only [execution, execution', execute, h.settings, h.files]

end

end Alike

/-- **An analysis sees of the catalogue what identifiers mean.** -/
theorem execute_congr (runner : Runner σ) (profile : Profile) (extraArgs : List String)
    (cwd : WorkingDir) (c : Context) (s : σ) {rules : Catalogue}
    (h : c.rules.resolve? = rules.resolve?) :
    let d := { c with rules }
    let execution := (execute runner profile extraArgs cwd c s).1
    let execution' := (execute runner profile extraArgs cwd d s).1
    execution'.events = execution.events ∧ execution'.value.1 = execution.value.1 ∧
      execution'.value.2.issues = execution.value.2.issues ∧
      (execute runner profile extraArgs cwd d s).2 =
        (execute runner profile extraArgs cwd c s).2 :=
  have halike : Alike { c with rules } c := ⟨rfl, rfl, rfl, h.symm⟩
  halike.execute_eq runner profile extraArgs cwd s

/-! ## More active rules -/

/-- If single elements have counterparts, then so have the elements of lists, in order. -/
theorem sublistForall₂_filterMap {α β γ : Type} {R : β → γ → Prop} {f : α → Option β}
    {g : α → Option γ} (h : ∀ a b, f a = some b → ∃ c, g a = some c ∧ R b c) (as : List α) :
    List.SublistForall₂ R (as.filterMap f) (as.filterMap g) := by
  induction as with
  | nil => exact .nil
  | cons a as ih =>
    rw [List.filterMap_cons, List.filterMap_cons]
    cases hf : f a with
    | none =>
      cases g a with
      | none => exact ih
      | some c => exact ih.cons_right
    | some b =>
      obtain ⟨c, hg, hR⟩ := h a b hf
      rw [hg]
      exact .cons hR ih

theorem length_le_of_sublistForall₂ {α β : Type} {R : α → β → Prop} {as : List α} {bs : List β}
    (h : List.SublistForall₂ R as bs) : as.length ≤ bs.length := by
  obtain ⟨cs, hcs, hsub⟩ := List.sublistForall₂_iff.1 h
  rw [hcs.length_eq]
  exact hsub.length_le

/-- `b` is the issue that a finding makes by `rules₂` when it makes `a` by `rules₁`. Only the rule
may differ, where the printed identifier names a rule that is active in `rules₂` only. -/
structure Follows (rules₁ rules₂ : Catalogue) (a b : Issue × String) : Prop where
  printed : b.2 = a.2
  component : b.1.component = a.1.component
  uri : b.1.uri = a.1.uri
  line : b.1.line = a.1.line
  message : b.1.message = a.1.message
  rule : b.1.rule =
    if rules₁.isActive ⟨RuleKey.ansible, a.2⟩ = false ∧
      rules₂.isActive ⟨RuleKey.ansible, a.2⟩ = true then ⟨RuleKey.ansible, a.2⟩
    else a.1.rule

section
variable {rules₁ rules₂ : Catalogue} (h : rules₁.Within rules₂) (c : Context)
include h

/-- **What is accepted by some rules is accepted by more.** -/
theorem accept?_of_within {p : FileUri × Finding} {i : Issue}
    (hi : accept? { c with rules := rules₁ } p = some i) :
    ∃ j, accept? { c with rules := rules₂ } p = some j ∧
      Follows rules₁ rules₂ (i, p.2.rule) (j, p.2.rule) := by
  obtain ⟨file, rule, hfile, hrule, hlines, rfl⟩ := accept?_eq_some_iff.1 hi
  have hrule₂ := Catalogue.resolve?_of_within h hrule
  exact ⟨_, accept?_eq_some_iff.2 ⟨file, _, hfile, hrule₂, hlines, rfl⟩, rfl, rfl, rfl, rfl, rfl,
    rfl⟩

theorem sublistForall₂_kept (found : List (FileUri × Finding)) :
    List.SublistForall₂ (Follows rules₁ rules₂) (kept { c with rules := rules₁ } found)
      (kept { c with rules := rules₂ } found) := by
  refine sublistForall₂_filterMap (fun p a ha => ?_) found
  obtain ⟨i, hi, rfl⟩ := Option.map_eq_some_iff.1 ha
  obtain ⟨j, hj, hfollows⟩ := accept?_of_within h c hi
  exact ⟨(j, p.2.rule), by rw [hj]; rfl, hfollows⟩

/-- **More active rules save more issues.** Those that the first analysis saves follow each other in
the same order among those of the second, with the same files, lines and messages, and with the same
rules but for identifiers that name a rule active in the second alone. -/
theorem execute_more_rules (runner : Runner σ) (profile : Profile) (extraArgs : List String)
    (cwd : WorkingDir) (s : σ) :
    let c₁ := { c with rules := rules₁ }
    let c₂ := { c with rules := rules₂ }
    let outcome₁ := (execute runner profile extraArgs cwd c₁ s).1.value
    let outcome₂ := (execute runner profile extraArgs cwd c₂ s).1.value
    let appended₁ := kept c₁ (foundIn cwd c₁ (lintReplies runner profile extraArgs c₁ s))
    let appended₂ := kept c₂ (foundIn cwd c₂ (lintReplies runner profile extraArgs c₂ s))
    outcome₁.2.issues = c.issues ++ appended₁.map Prod.fst ∧
      outcome₂.2.issues = c.issues ++ appended₂.map Prod.fst ∧
      List.SublistForall₂ (Follows rules₁ rules₂) appended₁ appended₂ ∧
      outcome₁.1.saved ≤ outcome₂.1.saved := by
  intro c₁ c₂ outcome₁ outcome₂ appended₁ appended₂
  -- what is run and found does not depend on the rules
  have hfound : foundIn cwd c₂ (lintReplies runner profile extraArgs c₂ s) =
      foundIn cwd c₁ (lintReplies runner profile extraArgs c₁ s) := rfl
  have hfollow : List.SublistForall₂ (Follows rules₁ rules₂) appended₁ appended₂ := by
    rw [show appended₂ = kept c₂ _ from congrArg (kept c₂) hfound]
    exact sublistForall₂_kept h c _
  have hvalue₁ : outcome₁ = _ := value_execute_eq runner profile extraArgs cwd c₁ s
  have hvalue₂ : outcome₂ = _ := value_execute_eq runner profile extraArgs cwd c₂ s
  rw [hvalue₁, hvalue₂, ← map_fst_kept, ← map_fst_kept]
  refine ⟨rfl, rfl, hfollow, ?_⟩
  dsimp only
  rw [List.length_map, List.length_map]
  exact length_le_of_sublistForall₂ hfollow

end

/-- The linter prints a rule under two spellings. Where only `301` is active both mean it; where all
rules are, `E301` is a rule of its own, and `no-tabs` is one too. -/
theorem execute_all_rules :
    let file : InputFile := ⟨"f.yml", ⟨"/p/f.yml"⟩, ⟨"file:///p/f.yml"⟩, "yaml", none⟩
    let rules₁ := Catalogue.empty.activate ⟨"ansible", "301"⟩
    let rules₂ := Catalogue.allOf "ansible"
    let c : Context := .create ⟨⟨"/p"⟩, [file]⟩ .empty .empty
    let c₁ := { c with rules := rules₁ }
    let c₂ := { c with rules := rules₂ }
    let s : Prepared := .ofReplies [fun _ => ⟨.ok ⟨[], [], 0⟩, []⟩,
      fun _ => ⟨.ok ⟨["f.yml:5: E301", "f.yml:6: no-tabs", "f.yml:5: 301"], [], 0⟩, []⟩]
    let issue (rule : String) (line : UInt32) : Issue :=
      ⟨⟨"ansible", rule⟩, "f.yml", ⟨"file:///p/f.yml"⟩, line, none⟩
    let outcome₁ := (execute Prepared.runner .ansible [] .top c₁ s).1.value
    let outcome₂ := (execute Prepared.runner .ansible [] .top c₂ s).1.value
    rules₁.Within rules₂ ∧
      outcome₁.2.issues = [issue "301" 5, issue "301" 5] ∧
      outcome₂.2.issues = [issue "E301" 5, issue "no-tabs" 6, issue "301" 5] ∧
      List.SublistForall₂ (Follows rules₁ rules₂)
        [(issue "301" 5, "E301"), (issue "301" 5, "301")]
        [(issue "E301" 5, "E301"), (issue "no-tabs" 6, "no-tabs"), (issue "301" 5, "301")] ∧
      outcome₁.1.saved ≤ outcome₂.1.saved := by
  intro file rules₁ rules₂ c c₁ c₂ s issue outcome₁ outcome₂
  have hwithin : rules₁.Within rules₂ := by
    intro k hk
    have hkey : k = ⟨"ansible", "301"⟩ := by
      simpa [rules₁, Catalogue.isActive, Catalogue.activate, Catalogue.empty] using hk
    rw [hkey]
    decide +kernel
  obtain ⟨hissues₁, hissues₂, hfollow, hsaved⟩ :=
    execute_more_rules hwithin c Prepared.runner .ansible [] .top s
  have hkept₁ : kept c₁ (foundIn .top c₁ (lintReplies Prepared.runner .ansible [] c₁ s)) =
      [(issue "301" 5, "E301"), (issue "301" 5, "301")] := by decide +kernel
  have hkept₂ : kept c₂ (foundIn .top c₂ (lintReplies Prepared.runner .ansible [] c₂ s)) =
      [(issue "E301" 5, "E301"), (issue "no-tabs" 6, "no-tabs"), (issue "301" 5, "301")] := by
    decide +kernel
  rw [hkept₁] at hissues₁ hfollow
  rw [hkept₂] at hissues₂ hfollow
  refine ⟨hwithin, ?_, ?_, hfollow, ?_⟩
  · rw [hissues₁]
    rfl
  · rw [hissues₂]
    rfl
  · unfold outcome₁ outcome₂ c₁ c₂
    exact hsaved

end PlaybookScan.Analysis

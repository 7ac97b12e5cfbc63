import PlaybookScan.Proofs.InputFile
import PlaybookScan.Proofs.Lint.Independence

/-!
# The order of the files

A finding on one file may be printed while the linter runs on another, and more than once, so the
order of the files decides which run reports it first and where its issue stands. It decides nothing
else, if what the linter prints depends on the command line alone (`execute_reordered`): the lines
printed are the same but for their order (`printed_perm`), so are the distinct findings among them
(`reported_perm`), and the host accepts the same ones (`accept?_eq_of_reordered`).
-/

set_option autoImplicit false

namespace PlaybookScan

open Grouping

/-- The contexts hold the same files, perhaps in different orders, and offer the same settings and
rules. The issues saved in them may be any. -/
structure Context.Reordered (c₁ c₂ : Context) : Prop where
  baseDir : c₁.files.baseDir = c₂.files.baseDir
  files : c₁.files.files.Perm c₂.files.files
  settings : c₁.settings = c₂.settings
  rules : c₁.rules = c₂.rules

/-- In any state, the command line succeeds and prints these lines. -/
def Runner.Prints {σ : Type} (runner : Runner σ) (argv lines : List String) : Prop :=
  ∀ s, (runner.run argv s).1.printed? = some lines

namespace Analysis

variable {σ : Type}

/-! ## What is printed and found -/

section
variable {runner : Runner σ} {print : List String → List String}

theorem printed_replies {argvs : List (List String)}
    (h : ∀ argv ∈ argvs, runner.Prints argv (print argv)) (s : σ) :
    printed (replies runner argvs s) = argvs.flatMap print := by
  induction argvs generalizing s with
  | nil => rfl
  | cons argv argvs ih =>
    have hprinted := h argv List.mem_cons_self s
    have hfailed : (runner.run argv s).1.failed = false := by
      rw [Reply.failed_eq_isNone_printed?, hprinted]
      rfl
    have hstdout : (runner.run argv s).1.stdout = print argv := by
      rw [Reply.stdout_eq_getD_printed?, hprinted]
      rfl
    have hrest := ih (fun a ha => h a (List.mem_cons_of_mem _ ha)) (runner.run argv s).2
    rw [replies, printed, List.takeWhile_cons_of_pos (by simp [hfailed]), List.flatMap_cons,
      hstdout, ← printed, hrest, List.flatMap_cons]

theorem printed_perm {argvs₁ argvs₂ : List (List String)} (hperm : argvs₁.Perm argvs₂)
    (h : ∀ argv ∈ argvs₁, runner.Prints argv (print argv)) (s₁ s₂ : σ) :
    (printed (replies runner argvs₁ s₁)).Perm (printed (replies runner argvs₂ s₂)) := by
  rw [printed_replies h, printed_replies fun argv hm => h argv (hperm.mem_iff.2 hm)]
  exact hperm.flatMap_right print

end

theorem reported_perm_eraseDups (cwd : WorkingDir) (base : Path) (lines : List String) :
    (reported cwd base lines).Perm (lines.filterMap (Findings.located? cwd base)).eraseDups :=
  perm_ungroup_group (nodup_eraseDups _)

theorem reported_perm (cwd : WorkingDir) (base : Path) {lines₁ lines₂ : List String}
    (h : lines₁.Perm lines₂) : (reported cwd base lines₁).Perm (reported cwd base lines₂) := by
  have hdistinct : (lines₁.filterMap (Findings.located? cwd base)).eraseDups.Perm
      (lines₂.filterMap (Findings.located? cwd base)).eraseDups :=
    perm_eraseDups (h.filterMap _)
  exact (reported_perm_eraseDups cwd base lines₁).trans
    (hdistinct.trans (reported_perm_eraseDups cwd base lines₂).symm)

/-! ## Two orders of the files -/

section
variable {c₁ c₂ : Context} (h : c₁.Reordered c₂)
include h

theorem commandFor_eq_of_reordered (profile : Profile) (extraArgs : List String) :
    commandFor profile extraArgs c₁ = commandFor profile extraArgs c₂ := by
  unfold commandFor
  rw [h.settings]

theorem commands_perm (profile : Profile) (extraArgs : List String) :
    ((c₁.files.ofLanguage profile.language).map (commandFor profile extraArgs c₁)).Perm
      ((c₂.files.ofLanguage profile.language).map (commandFor profile extraArgs c₂)) := by
  rw [commandFor_eq_of_reordered h]
  exact (h.files.filter _).map _

theorem accept?_eq_of_reordered (hc : c₁.files.Built) : accept? c₁ = accept? c₂ := by
  funext p
  unfold accept?
  rw [FileSet.find?_eq_of_perm hc h.files, h.rules]

/-- **The order of the files has no influence on what is saved**, if the lint runs succeed and print
what their command lines say: the same issues are appended but for their order, and the same numbers
of findings are saved and dropped. -/
theorem execute_reordered (hc : c₁.files.Built) (runner : Runner σ) (profile : Profile)
    (extraArgs : List String) (cwd : WorkingDir) {print : List String → List String}
    (hprint : ∀ file ∈ c₁.files.ofLanguage profile.language,
      let argv := profile.command (.ofSettings c₁.settings) extraArgs file
      runner.Prints argv (print argv)) (s₁ s₂ : σ) :
    let outcome₁ := (execute runner profile extraArgs cwd c₁ s₁).1.value
    let outcome₂ := (execute runner profile extraArgs cwd c₂ s₂).1.value
    (∃ appended₁ appended₂ : List Issue,
      outcome₁.2.issues = c₁.issues ++ appended₁ ∧ outcome₂.2.issues = c₂.issues ++ appended₂ ∧
        appended₁.Perm appended₂) ∧
      outcome₁.1.saved = outcome₂.1.saved ∧ outcome₁.1.dropped = outcome₂.1.dropped := by
  intro outcome₁ outcome₂
  have hcommands : ∀ argv ∈ (c₁.files.ofLanguage profile.language).map
      (commandFor profile extraArgs c₁), runner.Prints argv (print argv) := by
    intro argv hargv
    obtain ⟨file, hfile, rfl⟩ := List.mem_map.1 hargv
    exact hprint file hfile
  have hprinted : (printed (lintReplies runner profile extraArgs c₁ s₁)).Perm
      (printed (lintReplies runner profile extraArgs c₂ s₂)) :=
    printed_perm (commands_perm h profile extraArgs) hcommands _ _
  have hfound : (foundIn cwd c₁ (lintReplies runner profile extraArgs c₁ s₁)).Perm
      (foundIn cwd c₂ (lintReplies runner profile extraArgs c₂ s₂)) := by
    unfold foundIn
    rw [h.baseDir]
    exact reported_perm cwd _ hprinted
  have haccept := accept?_eq_of_reordered h hc
  have happended := hfound.filterMap (accept? c₁)
  have hdropped := hfound.countP_eq fun p => (accept? c₁ p).isNone
  rw [show outcome₁ = _ from value_execute_eq .., show outcome₂ = _ from value_execute_eq ..,
    ← haccept]
  dsimp only
  exact ⟨⟨_, _, rfl, rfl, happended⟩, happended.length_eq, hdropped⟩

end

/-- The linter prints findings on both files whichever it runs on, and one of them twice. In the
other order of the files the issues come in another order. -/
theorem execute_reordered_two_files :
    let file (name : String) : InputFile :=
      ⟨name, ⟨"/p/" ++ name⟩, ⟨"file:///p/" ++ name⟩, "yaml", none⟩
    let files₁ := ((FileSet.empty ⟨"/p"⟩).add (file "a.yml")).add (file "b.yml")
    let files₂ := ((FileSet.empty ⟨"/p"⟩).add (file "b.yml")).add (file "a.yml")
    let c₁ : Context := .create files₁ .empty (.allOf "ansible")
    let c₂ : Context := .create files₂ .empty (.allOf "ansible")
    let print (argv : List String) : List String :=
      if argv.getLast? = some "/p/a.yml" then ["a.yml:1: r", "b.yml:2: r", "/q/c.yml:1: r"]
      else ["b.yml:2: r", "b.yml:9: s", "a.yml:3: r"]
    let runner : Runner Nat := ⟨fun argv n => (⟨.ok ⟨print argv, [toString n], n⟩, []⟩, n + 1)⟩
    let issue (name rule : String) (line : UInt32) : Issue :=
      ⟨⟨"ansible", rule⟩, name, ⟨"file:///p/" ++ name⟩, line, none⟩
    let outcome₁ := (execute runner .ansible [] .top c₁ 0).1.value
    let outcome₂ := (execute runner .ansible [] .top c₂ 7).1.value
    files₁.Built ∧ c₁.Reordered c₂ ∧
      (∀ file ∈ files₁.ofLanguage "yaml",
        let argv := Profile.ansible.command (.ofSettings .empty) [] file
        runner.Prints argv (print argv)) ∧
      outcome₁.2.issues =
        [issue "a.yml" "r" 1, issue "a.yml" "r" 3, issue "b.yml" "r" 2, issue "b.yml" "s" 9] ∧
      outcome₁.2.issues.Perm outcome₂.2.issues ∧ outcome₁.2.issues ≠ outcome₂.2.issues ∧
      outcome₁.1.saved = outcome₂.1.saved ∧ outcome₁.1.dropped = outcome₂.1.dropped := by
  intro file files₁ files₂ c₁ c₂ print runner issue outcome₁ outcome₂
  have built (name : String) (h : InputFile.create .top ⟨"/p/" ++ name⟩ "yaml" =
      .ok { file name with key := "/p/" ++ name }) : (file name).Built :=
    (InputFile.Built.create h).withKey name
  have hbuilt : files₁.Built :=
    ((FileSet.Built.empty _).add (built "a.yml" (by decide +kernel))).add
      (built "b.yml" (by decide +kernel))
  have hreordered : c₁.Reordered c₂ :=
    ⟨rfl, List.Perm.swap (file "b.yml") (file "a.yml") [], rfl, rfl⟩
  have hprint : ∀ file ∈ files₁.ofLanguage "yaml",
      let argv := Profile.ansible.command (.ofSettings .empty) [] file
      runner.Prints argv (print argv) := fun _ _ _ => rfl
  obtain ⟨⟨appended₁, appended₂, happended₁, happended₂, hperm⟩, hsaved, hdropped⟩ :=
    execute_reordered hreordered hbuilt runner .ansible [] .top hprint 0 7
  have hfirst : outcome₁.2.issues = [issue "a.yml" "r" 1, issue "a.yml" "r" 3,
      issue "b.yml" "r" 2, issue "b.yml" "s" 9] := by
    rw [show outcome₁ = _ from value_execute_eq ..]
    decide +kernel
  have hhead : outcome₂.2.issues.head? = some (issue "b.yml" "r" 2) := by
    rw [show outcome₂ = _ from value_execute_eq ..]
    decide +kernel
  refine ⟨hbuilt, hreordered, hprint, hfirst, ?_, ?_, ?_, ?_⟩
  · rw [happended₁, happended₂]
    exact hperm
  · intro he
    rw [← he, hfirst] at hhead
    exact absurd hhead (by decide +kernel)
  · rw [hsaved]
  · rw [hdropped]

end Analysis

end PlaybookScan

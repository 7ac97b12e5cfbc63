import PlaybookScan.Lint.Session
import PlaybookScan.Proofs.Lint.Runs

/-!
# What an analysis does not depend on

Of the replies to its lint command lines an analysis uses whether they failed and what they printed
(`Reply.printed?`); the reply to the question for the version, exit codes and error output have no
influence on what is run, scanned, saved and dropped, nor has the setting that hides warnings.
`execute_independent` states it of two analyses, side by side.
-/

set_option autoImplicit false

namespace PlaybookScan

/-- The lines printed, unless the run failed. -/
def Reply.printed? (r : Reply) : Option (List String) := r.result.toOption.map Output.stdout

theorem Reply.failed_eq_isNone_printed? (r : Reply) : r.failed = r.printed?.isNone := by
  unfold failed printed?
  cases r.result <;> rfl

theorem Reply.stdout_eq_getD_printed? (r : Reply) : r.stdout = r.printed?.getD [] := by
  unfold stdout printed?
  cases r.result <;> rfl

namespace Analysis

variable {σ₁ σ₂ : Type}

/-! ## What is used of the replies -/

/-- The replies of the runs that are made. -/
def made (rs : List Reply) : List Reply := rs.take (attempts rs)

section
variable {rs₁ rs₂ : List Reply} (h : (made rs₁).map Reply.printed? = (made rs₂).map Reply.printed?)
include h

theorem attempts_eq_of_printed? : attempts rs₁ = attempts rs₂ := by
  have hlength := congrArg List.length h
  simp only [made, List.length_map, List.length_take] at hlength
  have h₁ := attempts_le rs₁
  have h₂ := attempts_le rs₂
  omega

theorem any_failed_eq_of_printed? : (made rs₁).any Reply.failed = (made rs₂).any Reply.failed := by
  have hany (rs : List Reply) :
      rs.any Reply.failed = (rs.map Reply.printed?).any Option.isNone := by
    rw [List.any_map]
    exact congrArg rs.any (funext Reply.failed_eq_isNone_printed?)
  rw [hany, hany, h]

theorem printed_eq_of_printed? : printed rs₁ = printed rs₂ := by
  have hprinted (rs : List Reply) :
      printed rs = ((made rs).map Reply.printed?).flatMap (·.getD []) := by
    rw [printed_eq_flatMap_take, List.flatMap_map]
    exact congrArg (made rs).flatMap (funext Reply.stdout_eq_getD_printed?)
  rw [hprinted, hprinted, h]

end

/-! ## What is used of the settings -/

/-- The settings agree on all that is not about warnings. -/
def AgreeButWarnings (s₁ s₂ : Settings) : Prop :=
  ∀ key, key ≠ LintSettings.disableWarningsKey → s₁.get? key = s₂.get? key

namespace AgreeButWarnings

variable {s₁ s₂ : Settings} (h : AgreeButWarnings s₁ s₂)
include h

theorem lintPath_eq :
    (LintSettings.ofSettings s₁).lintPath = (LintSettings.ofSettings s₂).lintPath := by
  simp only [LintSettings.ofSettings, LintSettings.nonBlank?]
  rw [h LintSettings.lintPathKey (by decide)]

theorem confPath_eq :
    (LintSettings.ofSettings s₁).confPath = (LintSettings.ofSettings s₂).confPath := by
  simp only [LintSettings.ofSettings, LintSettings.nonBlank?]
  rw [h LintSettings.confPathKey (by decide)]

theorem commandFor_eq (profile : Profile) (extraArgs : List String) (c : Context) :
    commandFor profile extraArgs { c with settings := s₁ } =
      commandFor profile extraArgs { c with settings := s₂ } := by
  funext file
  simp only [commandFor, Profile.command, h.lintPath_eq, h.confPath_eq]

end AgreeButWarnings

/-! ## Two analyses -/

/-- **An analysis does not depend on exit codes, error output, the version or hidden warnings.** If
what two runners print for the lint runs and which of these fail is the same, then so are the
command lines, the issues and the report. -/
theorem execute_independent (runner₁ : Runner σ₁) (runner₂ : Runner σ₂) (profile : Profile)
    (extraArgs : List String) (cwd : WorkingDir) (c : Context) {settings₁ settings₂ : Settings}
    (hsettings : AgreeButWarnings settings₁ settings₂) (s₁ : σ₁) (s₂ : σ₂)
    (hreplies :
      let rs₁ := lintReplies runner₁ profile extraArgs { c with settings := settings₁ } s₁
      let rs₂ := lintReplies runner₂ profile extraArgs { c with settings := settings₂ } s₂
      (made rs₁).map Reply.printed? = (made rs₂).map Reply.printed?) :
    let execution₁ := execute runner₁.recorded profile extraArgs cwd
      { c with settings := settings₁ } (s₁, [])
    let execution₂ := execute runner₂.recorded profile extraArgs cwd
      { c with settings := settings₂ } (s₂, [])
    let report₁ := execution₁.1.value.1
    let report₂ := execution₂.1.value.1
    execution₁.2.2 = execution₂.2.2 ∧
      execution₁.1.value.2.issues = execution₂.1.value.2.issues ∧
      report₁.scanned = report₂.scanned ∧ report₁.saved = report₂.saved ∧
      report₁.dropped = report₂.dropped ∧ report₁.aborted = report₂.aborted := by
  intro execution₁ execution₂ report₁ report₂
  have hattempts := attempts_eq_of_printed? hreplies
  have hfailed := any_failed_eq_of_printed? hreplies
  have hprinted := printed_eq_of_printed? hreplies
  have hcommand := hsettings.commandFor_eq profile extraArgs c
  have hrecorded₁ := execute_recorded runner₁ profile extraArgs cwd
    { c with settings := settings₁ } s₁ []
  have hrecorded₂ := execute_recorded runner₂ profile extraArgs cwd
    { c with settings := settings₂ } s₂ []
  have hvalue₁ : execution₁.1.value = _ :=
    (congrArg (·.1.value) hrecorded₁).trans (value_execute_eq ..)
  have hvalue₂ : execution₂.1.value = _ :=
    (congrArg (·.1.value) hrecorded₂).trans (value_execute_eq ..)
  have hfound : foundIn cwd { c with settings := settings₁ } _ =
      foundIn cwd { c with settings := settings₂ } _ :=
    congrArg (reported cwd c.files.baseDir) hprinted
  refine ⟨?_, ?_, ?_, ?_, ?_, ?_⟩
  · refine (congrArg (·.2.2) hrecorded₁).trans (Eq.trans ?_ (congrArg (·.2.2) hrecorded₂).symm)
    simp only [hattempts, hcommand, hsettings.lintPath_eq]
  · rw [hvalue₁, hvalue₂]
    exact congrArg (c.issues ++ List.filterMap (accept? c) ·) hfound
  · simp only [report₁, report₂, hvalue₁, hvalue₂, hattempts]
  · simp only [report₁, report₂, hvalue₁, hvalue₂]
    exact congrArg (fun found => (List.filterMap (accept? c) found).length) hfound
  · simp only [report₁, report₂, hvalue₁, hvalue₂]
    exact congrArg (List.countP fun p => (accept? c p).isNone) hfound
  · simp only [report₁, report₂, hvalue₁, hvalue₂]
    exact hfailed

/-- Versions, exit codes and warnings differ, and the second run is interrupted both times. -/
theorem execute_independent_of_warnings :
    let file (name : String) : InputFile :=
      ⟨name, ⟨"/p/" ++ name⟩, ⟨"file:///p/" ++ name⟩, "yaml", none⟩
    let c : Context :=
      .create ⟨⟨"/p"⟩, [file "a.yml", file "b.yml"]⟩ .empty (.allOf "ansible")
    let shown := Settings.empty
    let hidden := Settings.empty.set LintSettings.disableWarningsKey "true"
    let ok (stderr : List String) (code : Int) : List String → Reply :=
      fun _ => ⟨.ok ⟨["a.yml:3: no-tabs"], stderr, code⟩, []⟩
    let interrupted : List String → Reply := fun argv => ⟨.error (.interrupted (argv.headD "")), []⟩
    let s₁ : Prepared := .ofReplies [ok [] 0, ok ["WARNING tabs"] 0, interrupted]
    let s₂ : Prepared := .ofReplies [interrupted, ok [] 2, interrupted]
    let rs₁ := lintReplies Prepared.runner .ansible [] { c with settings := shown } s₁
    let rs₂ := lintReplies Prepared.runner .ansible [] { c with settings := hidden } s₂
    let execution₁ := execute Prepared.runner.recorded .ansible [] .top
      { c with settings := shown } (s₁, [])
    let execution₂ := execute Prepared.runner.recorded .ansible [] .top
      { c with settings := hidden } (s₂, [])
    let report₁ := execution₁.1.value.1
    let report₂ := execution₂.1.value.1
    AgreeButWarnings shown hidden ∧
      (made rs₁).map Reply.printed? = (made rs₂).map Reply.printed? ∧
      execution₁.2.2 = execution₂.2.2 ∧
      execution₁.1.value.2.issues = execution₂.1.value.2.issues ∧
      report₁.scanned = report₂.scanned ∧ report₁.saved = report₂.saved ∧
      report₁.dropped = report₂.dropped ∧ report₁.aborted = report₂.aborted := by
  intro file c shown hidden ok interrupted s₁ s₂ rs₁ rs₂ execution₁ execution₂ report₁ report₂
  have hsettings : AgreeButWarnings shown hidden := by
    intro key hkey
    simp [shown, hidden, hkey]
  have hreplies : (made rs₁).map Reply.printed? = (made rs₂).map Reply.printed? := by
    decide +kernel
  obtain ⟨hcalls, hissues, hscanned, hsaved, hdropped, haborted⟩ :=
    execute_independent Prepared.runner Prepared.runner .ansible [] .top c hsettings s₁ s₂ hreplies
  refine ⟨hsettings, hreplies, ?_, ?_, ?_, ?_, ?_, ?_⟩
  · rw [hcalls]
  · rw [hissues]
  · rw [hscanned]
  · rw [hsaved]
  · rw [hdropped]
  · rw [haborted]

end Analysis

end PlaybookScan

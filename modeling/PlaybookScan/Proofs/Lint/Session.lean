import PlaybookScan.Lint.Session
import PlaybookScan.Proofs.Lint.Runs

/-!
# What sessions leave

A session may do anything in any order: change settings, add files and put others in their place,
save issues and findings, run analyses. The issues are what its steps have appended, one after
another (`issues_after`), and what a step appends depends on the files as they are then
(`Turn.Sound`). `sound_take` says it of one step, whatever came before, and `sound_turns` of all.
-/

set_option autoImplicit false

namespace PlaybookScan

/-- The issue is on a line of `file`, as far as its lines are known, and bears its key and URI. -/
structure Issue.StandsOn (i : Issue) (file : InputFile) : Prop where
  one_le_line : 1 ≤ i.line
  line_le : ∀ n, file.lines = some n → i.line ≤ n
  component : i.component = file.key
  uri : i.uri = file.uri

namespace Session

/-! ## Steps and what comes of them -/

/-- A step, with the profile under which and the directory in which it is taken. -/
structure Move where
  profile : Profile
  cwd : WorkingDir
  step : Step

/-- A step that has been taken. -/
structure Turn where
  before : Context
  step : Step
  answer : Answer
  after : Context

def Move.take (m : Move) (c : Context) : Turn :=
  let outcome := (Session.step m.profile m.cwd c m.step).value
  ⟨c, m.step, outcome.1, outcome.2⟩

/-- The turns of a session that starts from `c`. -/
def turns (c : Context) : List Move → List Turn
  | [] => []
  | m :: ms => m.take c :: turns (m.take c).after ms

/-- The context after the moves. -/
def after (c : Context) (ms : List Move) : Context := ms.foldl (fun c m => (m.take c).after) c

/-- An issue or a finding was not saved. -/
def Answer.refused : Answer → Bool
  | saved accepted => !accepted
  | rejected _ => true
  | done | report .. => false

namespace Turn

/-- The issues that have come up behind the others. -/
def appended (t : Turn) : List Issue := t.after.issues.drop t.before.issues.length

/-- The files that issues are made of: the one given, or those that are there. -/
def sources (t : Turn) : List InputFile :=
  match t.step with
  | .save _ file _ _ | .saveFinding file _ => [file]
  | .execute .. => t.before.files.files
  | .set .. | .addFile .. => []

/-- Issues are only appended: none by what is refused, those that are counted by an analysis, and
each on a line of its file. -/
structure Sound (t : Turn) : Prop where
  issues_eq : t.after.issues = t.before.issues ++ t.appended
  of_refused : t.answer.refused = true → t.after = t.before
  of_report : ∀ report calls, t.answer = .report report calls → t.appended.length = report.saved
  standsOn : ∀ issue ∈ t.appended, ∃ file ∈ t.sources, issue.StandsOn file

theorem appended_eq {t : Turn} {issues : List Issue}
    (h : t.after.issues = t.before.issues ++ issues) : t.appended = issues := by
  rw [appended, h, List.drop_left]

end Turn

/-! ## One step -/

theorem standsOn_of_hasLine {file : InputFile} {line : UInt32} (h : file.hasLine line = true)
    (rule : RuleKey) (message : Option String) :
    Issue.StandsOn ⟨rule, file.key, file.uri, line, message⟩ file := by
  simp only [InputFile.hasLine, Bool.and_eq_true, bne_iff_ne] at h
  refine ⟨?_, fun n hn => by simpa [hn] using h.2, rfl, rfl⟩
  have hline : line.toNat ≠ 0 := fun h0 => h.1 (UInt32.toNat_inj.1 h0)
  rw [UInt32.le_iff_toNat_le]
  exact Nat.one_le_iff_ne_zero.2 hline

namespace Turn

variable {t : Turn}

theorem sound_of_unchanged (hissues : t.after.issues = t.before.issues)
    (hrefused : t.answer.refused = true → t.after = t.before)
    (hreport : ∀ report calls, t.answer ≠ .report report calls) : t.Sound := by
  have happended : t.appended = [] := appended_eq (by rw [hissues, List.append_nil])
  refine ⟨?_, hrefused, fun report calls h => absurd h (hreport report calls), ?_⟩
  · rw [happended, hissues, List.append_nil]
  · rw [happended]
    exact List.forall_mem_nil _

theorem sound_of_saved {issue : Issue} {file : InputFile} (hafter : t.after = t.before.save issue)
    (hanswer : t.answer = .saved true) (hfile : file ∈ t.sources) (hissue : issue.StandsOn file) :
    t.Sound := by
  have hissues : t.after.issues = t.before.issues ++ [issue] := by
    rw [hafter]
    rfl
  have happended : t.appended = [issue] := appended_eq hissues
  refine ⟨by rw [happended, hissues], fun h => ?_, fun report calls h => ?_, fun i hi => ?_⟩
  · rw [hanswer] at h
    cases h
  · rw [hanswer] at h
    cases h
  · rw [happended, List.mem_singleton] at hi
    exact ⟨file, hfile, hi ▸ hissue⟩

theorem sound_of_report {report : Report} {calls : List (List String)} {issues : List Issue}
    (hanswer : t.answer = .report report calls)
    (hissues : t.after.issues = t.before.issues ++ issues) (hsaved : report.saved = issues.length)
    (hstands : ∀ issue ∈ issues, ∃ file ∈ t.sources, issue.StandsOn file) : t.Sound := by
  have happended : t.appended = issues := appended_eq hissues
  refine ⟨by rw [happended, hissues], fun h => ?_, fun report' calls' h => ?_, ?_⟩
  · rw [hanswer] at h
    cases h
  · rw [hanswer] at h
    cases h
    rw [happended, hsaved]
  · rw [happended]
    exact hstands

end Turn

theorem take_save (profile : Profile) (cwd : WorkingDir) (rule : RuleKey) (file : InputFile)
    (line : UInt32) (message : Option String) (c : Context) :
    Move.take ⟨profile, cwd, .save rule file line message⟩ c =
      if file.hasLine line then ⟨c, .save rule file line message, .saved true,
        c.save ⟨rule, file.key, file.uri, line, message⟩⟩
      else ⟨c, .save rule file line message,
        .rejected (.lineOutOfRange file.key line (file.lines.getD 0)), c⟩ := by
  unfold Move.take Session.step Issue.create
  by_cases hline : file.hasLine line = true
  · simp [hline, Issue.withMessage]
  · simp [hline]

theorem take_saveFinding (profile : Profile) (cwd : WorkingDir) (file : InputFile) (f : Finding)
    (c : Context) :
    Move.take ⟨profile, cwd, .saveFinding file f⟩ c =
      ⟨c, .saveFinding file f, .saved (Analysis.saveFinding c file f).value.1,
        (Analysis.saveFinding c file f).value.2⟩ := rfl

theorem take_execute (profile : Profile) (cwd : WorkingDir) (extraArgs : List String)
    (replies : List (List String → Reply)) (c : Context) :
    let execution :=
      Analysis.execute Prepared.runner profile extraArgs cwd c (.ofReplies replies)
    Move.take ⟨profile, cwd, .execute extraArgs replies⟩ c =
      ⟨c, .execute extraArgs replies, .report execution.1.value.1 execution.2.calls,
        execution.1.value.2⟩ := rfl

theorem standsOn_of_accept? {c : Context} {p : FileUri × Finding} {issue : Issue}
    (hp : p.2.line ≠ 0) (h : Analysis.accept? c p = some issue) :
    ∃ file ∈ c.files.files, issue.StandsOn file := by
  obtain ⟨file, rule, hfile, -, hlines, rfl⟩ := Analysis.accept?_eq_some_iff.1 h
  have hline : file.hasLine p.2.line = true := by rwa [Analysis.hasLine_of_ne_zero hp]
  exact ⟨file, List.mem_of_find?_eq_some hfile, standsOn_of_hasLine hline rule p.2.message⟩

/-- **A step appends what it should and nothing else**, whatever has happened before. -/
theorem sound_take (m : Move) (c : Context) : (m.take c).Sound := by
  obtain ⟨profile, cwd, step⟩ := m
  cases step with
  | set key value => exact Turn.sound_of_unchanged rfl (fun h => nomatch h) fun _ _ h => nomatch h
  | addFile file => exact Turn.sound_of_unchanged rfl (fun h => nomatch h) fun _ _ h => nomatch h
  | save rule file line message =>
    rw [take_save]
    split
    · rename_i hline
      exact Turn.sound_of_saved rfl rfl (List.mem_singleton_self file)
        (standsOn_of_hasLine hline rule message)
    · exact Turn.sound_of_unchanged rfl (fun _ => rfl) fun _ _ h => nomatch h
  | saveFinding file f =>
    rw [take_saveFinding]
    rcases Analysis.saveFinding_cases c file f with ⟨rule, hline, h⟩ | ⟨e, -, h⟩
    · rw [h]
      exact Turn.sound_of_saved rfl rfl (List.mem_singleton_self file)
        (standsOn_of_hasLine hline rule f.message)
    · rw [h]
      exact Turn.sound_of_unchanged rfl (fun _ => rfl) fun _ _ h => nomatch h
  | execute extraArgs replies =>
    rw [take_execute, Analysis.value_execute_eq]
    refine Turn.sound_of_report rfl rfl rfl fun issue hissue => ?_
    obtain ⟨p, hp, haccept⟩ := List.mem_filterMap.1 hissue
    exact standsOn_of_accept? (Analysis.line_ne_zero_of_reported hp) haccept

theorem saveFound_refused (c : Context) (uri : FileUri) (f : Finding)
    (h : (Analysis.saveFound c uri f).value.1 = false) :
    (Analysis.saveFound c uri f).value.2 = c := by
  rcases Analysis.saveFound_cases c uri f with ⟨issue, hsaved⟩ | ⟨e, -, hrefused⟩
  · rw [hsaved] at h
    cases h
  · rw [hrefused]

/-! ## Any runner -/

theorem runAll_prepared {σ : Type} (runner : Runner σ) (command : InputFile → List String)
    (files : List InputFile) (s : σ) (calls : List (List String)) :
    (Analysis.runAll Prepared.runner command files
      ⟨(Analysis.replies runner (files.map command) s).map fun r _ => r, calls⟩).1 =
        (Analysis.runAll runner command files s).1 := by
  induction files generalizing s calls with
  | nil => rfl
  | cons file files ih =>
    simp only [Analysis.runAll, Analysis.replies, List.map_cons, Prepared.runner]
    split
    · rfl
    · exact congrArg _ (ih _ _)

/-- Prepared replies stand for any runner: the ones that it gives. -/
theorem exists_execute_prepared {σ : Type} (runner : Runner σ) (profile : Profile)
    (extraArgs : List String) (cwd : WorkingDir) (c : Context) (s : σ) :
    ∃ replies, (Analysis.execute Prepared.runner profile extraArgs cwd c (.ofReplies replies)).1 =
      (Analysis.execute runner profile extraArgs cwd c s).1 := by
  let rs := Analysis.lintReplies runner profile extraArgs c s
  refine ⟨((Analysis.probed runner c s).1 :: rs).map fun r _ => r, ?_⟩
  have hruns := runAll_prepared runner (Analysis.commandFor profile extraArgs c)
    (c.files.ofLanguage profile.language) (Analysis.probed runner c s).2
    [LintVersion.command (LintSettings.ofSettings c.settings).lintPath]
  rw [Analysis.fst_execute, Analysis.fst_execute]
  exact congrArg (Analysis.outcomeOf cwd c _) hruns

/-! ## A whole session -/

theorem sound_turns (c : Context) (ms : List Move) : ∀ t ∈ turns c ms, t.Sound := by
  induction ms generalizing c with
  | nil => exact List.forall_mem_nil _
  | cons m ms ih => exact List.forall_mem_cons.2 ⟨sound_take m c, ih _⟩

/-- **The issues of a session** are what its turns have appended. -/
theorem issues_after (c : Context) (ms : List Move) :
    (after c ms).issues = c.issues ++ (turns c ms).flatMap Turn.appended := by
  induction ms generalizing c with
  | nil => exact (List.append_nil _).symm
  | cons m ms ih =>
    have htake : (m.take c).after.issues = c.issues ++ (m.take c).appended :=
      (sound_take m c).issues_eq
    rw [turns, List.flatMap_cons, after, List.foldl_cons, ← after, ih, htake, List.append_assoc]

theorem after_append (c : Context) (ms later : List Move) :
    after c (ms ++ later) = after (after c ms) later :=
  List.foldl_append

/-- **Sessions only append issues**, in any order of their steps. What is refused changes nothing,
an analysis appends as many issues as it reports as saved, and each is on a line of a file that was
there or was given at its turn, under the key and the URI that the file had then. -/
theorem session_appends (files : FileSet) (settings : Settings) (rules : Catalogue)
    (ms : List Move) :
    let c := Context.create files settings rules
    (after c ms).issues = (turns c ms).flatMap Turn.appended ∧
      (∀ later, (after c ms).issues <+: (after c (ms ++ later)).issues) ∧
      (∀ t ∈ turns c ms, t.Sound) ∧
      (∀ issue ∈ (after c ms).issues,
        ∃ t ∈ turns c ms, issue ∈ t.appended ∧ ∃ file ∈ t.sources, issue.StandsOn file) ∧
      (∀ d uri f, (Analysis.saveFound d uri f).value.1 = false →
        (Analysis.saveFound d uri f).value.2 = d) ∧
      ∀ {σ : Type} (runner : Runner σ) profile extraArgs cwd d s, ∃ replies,
        (Analysis.execute Prepared.runner profile extraArgs cwd d (.ofReplies replies)).1 =
          (Analysis.execute runner profile extraArgs cwd d s).1 := by
  intro c
  have hissues : (after c ms).issues = (turns c ms).flatMap Turn.appended := issues_after c ms
  have hsound := sound_turns c ms
  refine ⟨hissues, fun later => ?_, hsound, fun issue hissue => ?_, saveFound_refused,
    exists_execute_prepared⟩
  · rw [after_append, issues_after (after c ms)]
    exact List.prefix_append ..
  · rw [hissues] at hissue
    obtain ⟨t, ht, hissue⟩ := List.mem_flatMap.1 hissue
    exact ⟨t, ht, hissue, (hsound t ht).standsOn issue hissue⟩

end Session

end PlaybookScan

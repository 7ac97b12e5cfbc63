import Mathlib.Data.List.Infix
import PlaybookScan.Proofs.Lint.Accounts
import PlaybookScan.Proofs.Lint.Messages

/-!
# What becomes of the error output

The error output of a run comes into the log as one warning. Where warning lines are left out, the
first run that has some is announced, and no other (`relayed`). `execute_relays` finds these records
in the log of an analysis, run by run, whatever the runner itself logs in between.

* `Relay.report_eq`: what one call of the relay logs, and what it remembers.
* `Analysis.relay_absorb`: after a run the relay remembers whether lines have been left out so far.
* `Analysis.events_absorbAll`: the log of the runs is cut into what is logged about each (`logsOf`).
* `Analysis.relayRecords_logsOf`: of these pieces the relayed records are those of `relayedAll`.
-/

set_option autoImplicit false

namespace PlaybookScan

open Log

theorem Text.isSome_cut?_iff {sep cs : List Char} : (cut? sep cs).isSome ↔ sep <:+: cs := by
  induction cs with
  | nil =>
    rw [cut?, List.infix_nil]
    split <;> simp_all
  | cons c cs ih =>
    rw [cut?, List.infix_cons_iff, ← List.isPrefixOf_iff_prefix,
      ← List.isSome_isPrefixOf?_eq_isPrefixOf]
    cases sep.isPrefixOf? (c :: cs) with
    | none => simp [ih]
    | some after => simp

/-! ## One error output -/

/-- A line that counts as a warning. -/
def Warns (line : String) : Prop := "WARNING ".toList <:+: line.toList

instance : DecidablePred Warns := fun line =>
  inferInstanceAs (Decidable ("WARNING ".toList <:+: line.toList))

def HasWarning (lines : List String) : Prop := ∃ line ∈ lines, Warns line

instance : DecidablePred HasWarning := fun lines =>
  inferInstanceAs (Decidable (∃ line ∈ lines, Warns line))

/-- The warning that is made of lines, if there are any. -/
def warningOf (lines : List String) : List Record :=
  if lines = [] then []
  else [⟨.warn, Event.record.sensor,
    Event.errorOutputHeader ++ "\n" ++ "\n".intercalate lines, []⟩]

/-- The announcement that warnings are left out. -/
def announcement : Record := ⟨.info, Event.record.sensor, Event.hiddenNotice, []⟩

/-- What is logged about the error output of a run, after runs with these error outputs. If
warnings are hidden, the first run that has some is announced, and the other lines are logged. -/
def relayed (hide : Bool) (earlier : List (List String)) (lines : List String) : List Record :=
  if hide then
    (if HasWarning lines ∧ ∀ before ∈ earlier, ¬ HasWarning before then [announcement] else []) ++
      warningOf (lines.filter fun line => ¬ Warns line)
  else warningOf lines

/-- An event that comes of the error output of a run. -/
def Event.isRelay (e : Event) : Bool := e.phase = .relaying

/-- The records in a log that come of error outputs. -/
def relayRecords (log : List Event) : List Record := (log.filter Event.isRelay).map Event.record

theorem relayRecords_append (log rest : List Event) :
    relayRecords (log ++ rest) = relayRecords log ++ relayRecords rest := by
  rw [relayRecords, List.filter_append, List.map_append]
  rfl

theorem relayRecords_flatten (logs : List (List Event)) :
    relayRecords logs.flatten = (logs.map relayRecords).flatten := by
  induction logs with
  | nil => rfl
  | cons log logs ih => rw [List.flatten_cons, relayRecords_append, ih, List.map_cons,
      List.flatten_cons]

theorem relayRecords_eq_nil {ph : Phase} {log : List Event} (h : ∀ e ∈ log, e.phase = ph)
    (hph : ph ≠ .relaying) : relayRecords log = [] := by
  have hnone : log.filter Event.isRelay = [] := by
    refine List.filter_eq_nil_iff.2 fun e he => ?_
    rw [Event.isRelay, h e he]
    simpa using hph
  rw [relayRecords, hnone, List.map_nil]

namespace Relay

theorem isWarning_iff {line : String} : isWarning line = true ↔ Warns line :=
  Text.isSome_cut?_iff

theorem retained_eq (r : Relay) (lines : List String) : r.retained lines =
    if r.disableWarnings then lines.filter (fun line => ¬ Warns line) else lines := by
  have hwarns : (fun line => !isWarning line) = fun line => decide (¬ Warns line) := by
    funext line
    rw [Bool.eq_iff_iff, Bool.not_eq_true', ← Bool.not_eq_true, isWarning_iff, decide_eq_true_iff]
  rw [retained, hwarns]

theorem length_retained_lt_iff {r : Relay} {lines : List String} :
    (r.retained lines).length < lines.length ↔
      r.disableWarnings = true ∧ HasWarning lines := by
  rw [retained_eq, HasWarning]
  cases r.disableWarnings with
  | false => simp
  | true => simp [List.length_filter_lt_length_iff_exists]

/-- What a relay logs and remembers of an error output. -/
theorem report_eq (r : Relay) (lines : List String) :
    let kept := r.retained lines
    let hidden : Bool := kept.length < lines.length
    r.report lines =
      ⟨(if hidden && !r.noticed then [.warningsHidden] else []) ++
          if kept.isEmpty then [] else [.errorOutput kept],
        { r with noticed := r.noticed || (hidden && !r.noticed) }⟩ := by
  intro kept hidden
  have hreport : r.report lines = (do
      if hidden && !r.noticed then .log .warningsHidden
      unless kept.isEmpty do .log (.errorOutput kept)
      return { r with noticed := r.noticed || (hidden && !r.noticed) }) := rfl
  rw [hreport]
  cases hidden && !r.noticed <;> cases kept.isEmpty <;> rfl

/-- A relay that hides warnings if `hide`, after runs with these error outputs. -/
def after (hide : Bool) (earlier : List (List String)) : Relay :=
  ⟨hide, hide && earlier.any fun lines => lines.any isWarning⟩

theorem any_isWarning_iff {lines : List String} :
    lines.any isWarning = true ↔ HasWarning lines := by
  simp only [List.any_eq_true, isWarning_iff, HasWarning]

theorem map_record_errorOutput (lines : List String) :
    (if lines.isEmpty then [] else [Event.errorOutput lines]).map Event.record =
      warningOf lines := by
  cases lines <;> rfl

/-- **One error output**: what is logged about it, and what is remembered. -/
theorem report_after (hide : Bool) (earlier : List (List String)) (lines : List String) :
    ((after hide earlier).report lines).events.map Event.record = relayed hide earlier lines ∧
      ((after hide earlier).report lines).value = after hide (earlier ++ [lines]) := by
  have hhidden : decide (((after hide earlier).retained lines).length < lines.length) =
      (hide && lines.any isWarning) := by
    rw [Bool.eq_iff_iff, decide_eq_true_iff, length_retained_lt_iff, Bool.and_eq_true,
      any_isWarning_iff]
    rfl
  rw [report_eq, hhidden, retained_eq]
  cases hide with
  | false => exact ⟨map_record_errorOutput lines, rfl⟩
  | true =>
    refine ⟨?_, ?_⟩
    · have hfirst : (lines.any isWarning && !earlier.any fun lines => lines.any isWarning) = true ↔
          HasWarning lines ∧ ∀ before ∈ earlier, ¬ HasWarning before := by
        simp only [Bool.and_eq_true, any_isWarning_iff, Bool.not_eq_true', List.any_eq_false]
      simp only [after, relayed, if_true, Bool.true_and, List.map_append, map_record_errorOutput,
        hfirst]
      split <;> rfl
    · simp only [after, Bool.true_and, List.any_append, List.any_cons, List.any_nil, Bool.or_false]
      cases earlier.any fun lines => lines.any isWarning <;> simp

end Relay

/-! ## The runs in turn -/

/-- What is logged about the error outputs of runs, run by run. -/
def relayedAll (hide : Bool) (earlier : List (List String)) :
    List (List String) → List (List Record)
  | [] => []
  | lines :: outputs =>
    relayed hide earlier lines :: relayedAll hide (earlier ++ [lines]) outputs

theorem getElem?_relayedAll (hide : Bool) (earlier outputs : List (List String)) (i : Nat) :
    (relayedAll hide earlier outputs)[i]? =
      outputs[i]?.map fun lines => relayed hide (earlier ++ outputs.take i) lines := by
  induction outputs generalizing earlier i with
  | nil => rfl
  | cons lines outputs ih =>
    cases i with
    | zero => simp [relayedAll]
    | succ i => simp [relayedAll, ih]

theorem count_announcement_warningOf (lines : List String) :
    (warningOf lines).count announcement = 0 := by
  unfold warningOf
  split <;> simp [announcement]

/-- The announcement is made once, if some line is left out and none has been left out before. -/
theorem count_announcement_relayedAll (hide : Bool) (earlier outputs : List (List String)) :
    (relayedAll hide earlier outputs).flatten.count announcement =
      if hide = true ∧ (∃ lines ∈ outputs, HasWarning lines) ∧
          ∀ before ∈ earlier, ¬ HasWarning before then 1 else 0 := by
  induction outputs generalizing earlier with
  | nil => simp [relayedAll]
  | cons lines outputs ih =>
    rw [relayedAll, List.flatten_cons, List.count_append, ih, relayed]
    cases hide with
    | false => simp [count_announcement_warningOf]
    | true =>
      rw [if_pos rfl, List.count_append, count_announcement_warningOf]
      by_cases hnew : HasWarning lines
      · -- from here on a warning has been left out
        have hseen : ¬ ∀ before ∈ earlier ++ [lines], ¬ HasWarning before := fun h =>
          h lines (List.mem_append_right _ List.mem_cons_self) hnew
        have hsome : ∃ ls ∈ lines :: outputs, HasWarning ls := ⟨lines, List.mem_cons_self, hnew⟩
        by_cases hfirst : ∀ before ∈ earlier, ¬ HasWarning before
        · rw [if_pos ⟨hnew, hfirst⟩, if_neg fun h => hseen h.2.2, if_pos ⟨rfl, hsome, hfirst⟩]
          rfl
        · rw [if_neg fun h => hfirst h.2, if_neg fun h => hseen h.2.2, if_neg fun h => hfirst h.2.2]
          rfl
      · simp [hnew, or_imp, forall_and]

/-- The lines of the error output of a run. A failed run has none. -/
def Reply.stderr (r : Reply) : List String :=
  match r.result with
  | .ok output => output.stderr
  | .error _ => []

namespace Analysis

variable {σ : Type} (cwd : WorkingDir)

/-- What the analysis logs about each of the runs when it has come to its end. -/
def logsOf : Progress → List LintRun → List (List Event)
  | _, [] => []
  | p, run :: runs => logOf cwd p run :: logsOf (absorb cwd p run).value runs

/-- The log of runs: their beginnings, what the runner logs about them, and these logs. -/
def runLogs (runs : List LintRun) (own : List (List Event)) : List Event :=
  (runs.zip own).flatMap fun (run, log) =>
    .running run.file.key run.argv :: (run.reply.events ++ log)

theorem events_absorbAll (p : Progress) (runs : List LintRun) :
    (absorbAll cwd p runs).events = runLogs runs (logsOf cwd p runs) := by
  rw [absorbAll]
  induction runs generalizing p with
  | nil => rfl
  | cons run runs ih =>
    rw [List.foldlM_cons, Logged.events_bind, ih, events_absorb]
    rfl

theorem length_logsOf (p : Progress) (runs : List LintRun) :
    (logsOf cwd p runs).length = runs.length := by
  induction runs generalizing p with
  | nil => rfl
  | cons run runs ih => rw [logsOf, List.length_cons, ih, List.length_cons]

section
variable {p : Progress} {hide : Bool} {earlier : List (List String)}

theorem relay_absorb (h : p.relay = .after hide earlier) (run : LintRun) :
    (absorb cwd p run).value.relay = .after hide (earlier ++ [run.reply.stderr]) := by
  unfold absorb Reply.stderr
  cases run.reply.result with
  | error e => simp [h, Relay.after]
  | ok output => simp [h, Relay.report_after]

/-- **One run**: of what is logged about it, these records come of its error output. -/
theorem relayRecords_logOf (h : p.relay = .after hide earlier) (run : LintRun) :
    relayRecords (logOf cwd p run) = relayed hide earlier run.reply.stderr := by
  unfold logOf Reply.stderr
  cases run.reply.result with
  | error e => cases hide <;> rfl
  | ok output =>
    have hread := relayRecords_eq_nil
      (Findings.phase_registerAll cwd (p.findings.noteScanned run.file) run.reply.stdout)
      (by decide)
    have hreport : (p.relay.report output.stderr).events.filter Event.isRelay =
        (p.relay.report output.stderr).events :=
      List.filter_eq_self.2 fun e he => decide_eq_true (phase_report _ _ e he)
    have hown (e : Event) (he : e.phase ≠ .relaying) (log : List Event) :
        relayRecords (e :: log) = relayRecords log := by
      simp [relayRecords, Event.isRelay, he]
    rw [← (Relay.report_after hide earlier output.stderr).1, ← h, ← hreport]
    dsimp only
    rw [List.cons_append, hown _ (by simp [Event.phase]), relayRecords_append, hread,
      hown _ (by simp [Event.phase])]
    rfl

theorem relayRecords_logsOf (h : p.relay = .after hide earlier) (runs : List LintRun) :
    (logsOf cwd p runs).map relayRecords =
      relayedAll hide earlier (runs.map (·.reply.stderr)) := by
  induction runs generalizing p earlier with
  | nil => rfl
  | cons run runs ih =>
    rw [logsOf, List.map_cons, relayRecords_logOf cwd h, ih (relay_absorb cwd h run)]
    rfl

end

theorem messages_logOf (p : Progress) (run : LintRun) :
    (messages (logOf cwd p run)).flatten = p.relay.retained run.reply.stderr := by
  unfold logOf Reply.stderr
  cases run.reply.result with
  | error e => simp [Event.errorLines?, Relay.retained]
  | ok output =>
    simp only [messages_cons, messages_append, Findings.messages_registerAll, messages_report,
      Relay.messageOf]
    split <;> simp_all [Event.errorLines?]

/-- No line is lost or moved, but for the ones that are left out. -/
theorem messages_logsOf (p : Progress) (runs : List LintRun) :
    (messages (logsOf cwd p runs).flatten).flatten =
      p.relay.retained (runs.flatMap (·.reply.stderr)) := by
  induction runs generalizing p with
  | nil => simp [logsOf, Relay.retained]
  | cons run runs ih =>
    rw [logsOf, List.flatten_cons, messages_append, List.flatten_append, messages_logOf, ih,
      List.flatMap_cons]
    simp only [Relay.retained, disableWarnings_absorb]
    split <;> simp

/-! ## The analysis -/

/-- **The error output of an analysis.** In the log of a run stands one warning with its lines or,
if warnings are hidden, with those that are none, behind the announcement if it is the first run to
have some. Nothing else is logged of this kind. -/
theorem execute_relays (runner : Runner σ) (profile : Profile) (extraArgs : List String)
    (c : Context) (s : σ) :
    let hide := (LintSettings.ofSettings c.settings).disableWarnings
    let runs := runsOf runner profile extraArgs c s
    ∃ opening closing : List Event, ∃ own : List (List Event),
      (execute runner profile extraArgs cwd c s).1.events =
        (probed runner c s).1.events ++ opening ++ runLogs runs own ++ closing ∧
      relayRecords (opening ++ closing) = [] ∧
      own.length = runs.length ∧
      (∀ i run log, runs[i]? = some run → own[i]? = some log → relayRecords log =
        relayed hide ((runs.take i).map (·.reply.stderr)) run.reply.stderr) ∧
      (relayRecords own.flatten).count announcement =
        (if hide = true ∧ ∃ run ∈ runs, HasWarning run.reply.stderr then 1 else 0) ∧
      (messages own.flatten).flatten = (runs.flatMap (·.reply.stderr)).filter
        fun line => ¬ (hide = true ∧ Warns line) := by
  intro hide runs
  have hstart : (startOf c).relay = .after hide [] := by
    simp [startOf, Relay.start, Relay.after, hide]
  have hrecords := relayRecords_logsOf cwd hstart runs
  have hlength := length_logsOf cwd (startOf c) runs
  have hsilent : ∀ scanned saved dropped aborted,
      relayRecords [.analysisFinished scanned saved dropped aborted] = [] := fun _ _ _ _ => rfl
  let report := (execute runner profile extraArgs cwd c s).1.value.1
  refine ⟨(LintVersion.ofReply (probed runner c s).1.quiet).events,
    (saveAll c (gathered cwd c runs)).events ++
      [.analysisFinished report.scanned.length report.saved report.dropped report.aborted],
    logsOf cwd (startOf c) runs, ?_, ?_, hlength, ?_, ?_, ?_⟩
  · simp only [report, fst_execute, events_outcomeOf, events_absorbAll]
    rw [ofReply_quiet]
    simp only [List.append_assoc]
    rfl
  · rw [relayRecords_append, relayRecords_append, hsilent,
      relayRecords_eq_nil (phase_ofReply_quiet _) (by decide),
      relayRecords_eq_nil (phase_saveAll _ _) (by decide)]
    rfl
  · intro i run log hrun hlog
    have hrecord := congrArg (·[i]?) hrecords
    simpa [getElem?_relayedAll, hrun, hlog, List.map_take] using hrecord
  · rw [relayRecords_flatten, hrecords, count_announcement_relayedAll]
    simp
  · rw [messages_logsOf, Relay.retained_eq, hstart]
    by_cases hhide : hide = true <;> simp [Relay.after, hhide]

end Analysis

end PlaybookScan

import PlaybookScan.Proofs.Lint.Runs
import PlaybookScan.Proofs.Log.Tally

/-!
# The messages of an analysis

The error output of a run comes into the log as one message, without the lines that are left out
(`Relay.messageOf`). `messages_execute`: these, and what the runner itself logs, are all the
messages of an analysis. A run that failed has none.
-/

set_option autoImplicit false

namespace PlaybookScan

/-- The lines of error output that an event passes on. -/
def Event.errorLines? : Event → Option (List String)
  | errorOutput lines => some lines
  | _ => none

/-- The error output that is passed on in a log, one entry for each message. -/
def messages (log : List Event) : List (List String) := log.filterMap Event.errorLines?

@[simp] theorem messages_nil : messages [] = [] := rfl

@[simp] theorem messages_cons (e : Event) (log : List Event) :
    messages (e :: log) = e.errorLines?.toList ++ messages log := by
  unfold messages
  rw [List.filterMap_cons]
  cases e.errorLines? <;> rfl

@[simp] theorem messages_append (log rest : List Event) :
    messages (log ++ rest) = messages log ++ messages rest :=
  List.filterMap_append ..

theorem messages_foldlM {α β : Type} {f : β → α → Logged β}
    (h : ∀ b a, messages (f b a).events = []) (as : List α) (b : β) :
    messages (as.foldlM f b).events = [] := by
  refine Logged.events_foldlM (P := fun log => messages log = []) rfl
    (fun log rest hlog hrest => ?_) h as b
  rw [messages_append, hlog, hrest, List.append_nil]

/-! ## What the parts of an analysis log -/

/-- The message that is made of an error output, if lines of it are left. -/
def Relay.messageOf (r : Relay) (lines : List String) : List (List String) :=
  if r.retained lines = [] then [] else [r.retained lines]

theorem messages_report (r : Relay) (lines : List String) :
    messages (r.report lines).events = r.messageOf lines := by
  unfold Relay.report Relay.messageOf
  simp only [List.isEmpty_iff]
  split <;> split <;> simp [Event.errorLines?]

@[simp] theorem disableWarnings_report (r : Relay) (lines : List String) :
    (r.report lines).value.disableWarnings = r.disableWarnings := by
  unfold Relay.report
  simp only
  split <;> split <;> rfl

theorem messages_ofReply (r : Reply) :
    messages (LintVersion.ofReply r).events = messages r.events := by
  have hlines (lines : List String) : messages (lines.map Event.versionLine) = [] := by
    induction lines with
    | nil => rfl
    | cons line lines ih => simp [ih, Event.errorLines?]
  unfold LintVersion.ofReply
  cases r.result with
  | error e => simp [Event.errorLines?]
  | ok output =>
    simp only [Logged.events_bind, Logged.events_logAll, messages_append, hlines]
    split <;> simp [Event.errorLines?]

namespace Findings

theorem messages_register (cwd : WorkingDir) (s : Findings) (line : String) :
    messages (s.register cwd line).events = [] := by
  unfold register
  cases Diagnostic.parse? line with
  | none => rfl
  | some d =>
    simp only
    cases FileUri.resolve cwd s.baseDir d.filename with
    | error e => rfl
    | ok uri =>
      simp only
      split <;> rfl

theorem messages_registerAll (cwd : WorkingDir) (s : Findings) (lines : List String) :
    messages (s.registerAll cwd lines).events = [] :=
  messages_foldlM (fun _ line => by simp [messages_register]) lines (0, s)

end Findings

namespace Analysis

variable {σ : Type}

theorem messages_saveFound (c : Context) (uri : FileUri) (f : Finding) :
    messages (saveFound c uri f).events = [] := by
  unfold saveFound saveFinding
  cases c.files.find? uri with
  | none => rfl
  | some file =>
    simp only
    cases c.rules.resolve? f.rule with
    | none => rfl
    | some rule =>
      simp only
      cases issueOf rule file f <;> rfl

theorem messages_saveAll (c : Context) (found : List (FileUri × Finding)) :
    messages (saveAll c found).events = [] := by
  refine messages_foldlM (fun t p => ?_) found (0, 0, c)
  simp only [Logged.events_bind, messages_append, messages_saveFound]
  split <;> rfl

/-! ## The runs -/

/-- The messages that come of a run. -/
def heard (disableWarnings : Bool) (r : Reply) : List (List String) :=
  match r.result with
  | .ok output => messages r.events ++ (Relay.start disableWarnings).messageOf output.stderr
  | .error _ => messages r.events

theorem disableWarnings_absorb (cwd : WorkingDir) (p : Progress) (run : LintRun) :
    (absorb cwd p run).value.relay.disableWarnings = p.relay.disableWarnings := by
  unfold absorb
  cases run.reply.result <;> simp

theorem messages_absorb (cwd : WorkingDir) (p : Progress) (run : LintRun) :
    messages (absorb cwd p run).events = heard p.relay.disableWarnings run.reply := by
  unfold absorb heard
  cases run.reply.result with
  | error e => simp [Event.errorLines?]
  | ok output =>
    have hrelay : p.relay.messageOf output.stderr =
        (Relay.start p.relay.disableWarnings).messageOf output.stderr := rfl
    simp [Event.errorLines?, Findings.messages_registerAll, messages_report, hrelay]

theorem messages_absorbAll (cwd : WorkingDir) (p : Progress) (runs : List LintRun) :
    messages (absorbAll cwd p runs).events =
      runs.flatMap fun run => heard p.relay.disableWarnings run.reply := by
  rw [absorbAll]
  induction runs generalizing p with
  | nil => rfl
  | cons run runs ih =>
    rw [List.foldlM_cons, Logged.events_bind, messages_append, messages_absorb, ih,
      disableWarnings_absorb, List.flatMap_cons]

/-- **The messages of an analysis** come of its runs, and before them of the question for the
version. -/
theorem messages_execute (runner : Runner σ) (profile : Profile) (extraArgs : List String)
    (cwd : WorkingDir) (c : Context) (s : σ) :
    let rs := lintReplies runner profile extraArgs c s
    messages (execute runner profile extraArgs cwd c s).1.events =
      messages (probed runner c s).1.events ++
        (rs.take (attempts rs)).flatMap
          (heard (LintSettings.ofSettings c.settings).disableWarnings) := by
  intro rs
  have hreplies := map_reply_runAll runner (commandFor profile extraArgs c)
    (c.files.ofLanguage profile.language) (probed runner c s).2
  rw [show rs.take (attempts rs) = _ from hreplies.symm, List.flatMap_map]
  simp only [execute, LintVersion.probe, Logged.events_bind, messages_append, messages_ofReply,
    messages_absorbAll, messages_saveAll, Logged.events_log, Logged.events_pure, Relay.start,
    messages_cons, messages_nil, Event.errorLines?, Option.toList_none, List.append_nil, probed,
    List.append_cancel_left_eq]
  rfl

end Analysis

end PlaybookScan

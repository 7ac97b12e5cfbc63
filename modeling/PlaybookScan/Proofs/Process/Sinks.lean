import PlaybookScan.Proofs.Process.Run

/-!
# What a run leaves in its sinks

`sinks_of_run`: a run that comes to an exit code has put all lines of both pipes behind what the
sinks held before. A run that fails leaves both sinks as they were, unless its child ended and its
standard output was read: then these lines are in the sink although the run fails on the error
output (`exists_failed_run_with_output`).
-/

set_option autoImplicit false

namespace PlaybookScan.Process

variable {σ : Type}

theorem collect_of_stderr_failed (program : String) {child : Child} (sinks : Sinks) (code : Int)
    {out : List String} {cause : IoError} (hout : child.stdout.lines = .ok out)
    (herr : child.stderr.lines = .error cause) :
    collect program child sinks (.ok code) =
      (.error (.io program cause), ⟨sinks.stdout ++ out, sinks.stderr⟩) := by
  unfold collect
  rw [hout, herr]

/-- Taking over a child's output succeeds with both pipes, or fails before it has touched the
sinks, or fails on the error output. -/
theorem collect_cases (program : String) (child : Child) (sinks : Sinks)
    (status : Except LintError Int) :
    (∃ code out err, child.stdout.lines = .ok out ∧ child.stderr.lines = .ok err ∧
      collect program child sinks status =
        (.ok code, ⟨sinks.stdout ++ out, sinks.stderr ++ err⟩)) ∨
    (∃ e, collect program child sinks status = (.error e, sinks)) ∨
    ∃ out cause, child.stdout.lines = .ok out ∧ child.stderr.lines = .error cause ∧
      collect program child sinks status =
        (.error (.io program cause), ⟨sinks.stdout ++ out, sinks.stderr⟩) := by
  cases status with
  | error e => exact .inr (.inl ⟨e, rfl⟩)
  | ok code =>
    cases hout : child.stdout.lines with
    | error cause => exact .inr (.inl ⟨.io program cause, by simp [collect, hout]⟩)
    | ok out =>
      cases herr : child.stderr.lines with
      | error cause =>
        exact .inr (.inr ⟨out, cause, rfl, rfl, collect_of_stderr_failed _ _ _ hout herr⟩)
      | ok err => exact .inl ⟨code, out, err, rfl, rfl, by simp [collect, hout, herr]⟩

/-- **What a run leaves in its sinks**, whatever they held before and whatever comes of starting the
child, of waiting for it and of reading its pipes. -/
theorem sinks_of_run (os : OperatingSystem σ) (argv : List String) (sinks : Sinks) (s : σ) :
    let (result, after) := (run os argv sinks s).1.value
    match result with
    | .ok _ => ∃ child out err, started? os argv s = some child ∧
        child.stdout.lines = .ok out ∧ child.stderr.lines = .ok err ∧
        after = ⟨sinks.stdout ++ out, sinks.stderr ++ err⟩
    | .error e => after = sinks ∨ ∃ child out cause, started? os argv s = some child ∧
        child.stdout.lines = .ok out ∧ child.stderr.lines = .error cause ∧
        e.cause? = some cause ∧ after = ⟨sinks.stdout ++ out, sinks.stderr⟩ := by
  rcases run_cases os argv sinks s with
    ⟨p, e, -, hrun, -⟩ | ⟨program, args, child, hchild, hrun, -⟩
  · rw [hrun]
    exact .inl rfl
  rw [hrun]
  rcases collect_cases program child sinks _ with
    ⟨code, out, err, hout, herr, h⟩ | ⟨e, h⟩ | ⟨out, cause, hout, herr, h⟩
  · rw [h]
    exact ⟨child, out, err, hchild, hout, herr, rfl⟩
  · rw [h]
    exact .inl rfl
  · rw [h]
    exact .inr ⟨child, out, cause, hchild, hout, herr, rfl, rfl⟩

/-- A failed run can have filled a sink: the child ends with code 0 and its standard output is read,
but not its error output. -/
theorem exists_failed_run_with_output :
    let child : Child := ⟨1, 0, .ok (.exited 0), .delivered "new\n".toUTF8.toList,
      .failed (.system 5)⟩
    let os : OperatingSystem Unit :=
      { spawn := fun _ s => (.ok child, s)
        interrupted := fun s => (false, s)
        sleep := fun _ s => s
        kill := fun _ s => s }
    let outcome := (run os ["lint"] ⟨["old"], ["old"]⟩ ()).1.value
    outcome.1 = .error (.io "lint" (.system 5)) ∧ outcome.2 = ⟨["old", "new"], ["old"]⟩ := by
  intro child os outcome
  have hout : child.stdout.lines = .ok ["new"] :=
    congrArg Except.ok (by decide +kernel : Text.Lines.read "new\n".toUTF8.toList = ["new"])
  have hrun : outcome = collect "lint" child ⟨["old"], ["old"]⟩ (.ok 0) := rfl
  rw [hrun, collect_of_stderr_failed _ _ _ hout rfl]
  exact ⟨rfl, rfl⟩

end PlaybookScan.Process

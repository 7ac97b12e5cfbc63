import PlaybookScan.Machine.Basic
import PlaybookScan.Proofs.Process.Interrupt

/-!
# Runs on a machine

On a machine time does not run backwards, so a raised interrupt flag stays raised (`neverLowers`),
and what is proved of interrupts holds on it. A child is started at once or not at all, since an
executable that is busy stays so (`keepsBusy`). Then the clock says whether the run is interrupted,
which it is if the flag is raised by the last exit check (`run_interrupted_iff`); else it takes until
that check (`run_of_not_raised`).
-/

set_option autoImplicit false

namespace PlaybookScan

/-! ## Busy executables -/

/-- An executable that is open for writing stays so while one waits. -/
structure OperatingSystem.KeepsBusy {σ : Type} (os : OperatingSystem σ) : Prop where
  busy : ∀ argv s n, (os.spawn argv s).1 = .error .textFileBusy →
    (os.spawn argv (os.sleep n (os.spawn argv s).2)).1 = .error .textFileBusy

/-- Then a child is started at the first attempt or not at all. -/
theorem Process.spawn_of_keepsBusy {σ : Type} {os : OperatingSystem σ} (hos : os.KeepsBusy)
    (program : String) (argv : List String) (attempt left : Nat) {s : σ} {child : Child}
    (h : (spawn os program argv attempt left s).1.value = .ok child) :
    (spawn os program argv attempt left s).2 = (os.spawn argv s).2 ∧
      (os.spawn argv s).1 = .ok child := by
  induction left generalizing attempt s with
  | zero => exact ⟨rfl, h⟩
  | succ left ih =>
    cases hstart : (os.spawn argv s).1 with
    | ok child' =>
      rw [spawn_succ_of_ok _ _ _ hstart] at h ⊢
      exact ⟨rfl, h⟩
    | error e =>
      by_cases he : e = .textFileBusy
      · subst he
        rw [spawn_succ_of_busy _ _ _ hstart] at h
        have hlater := (hos.busy argv s _ hstart).symm.trans (ih _ h).2
        cases hlater
      · rw [spawn_succ_of_error _ _ _ hstart he] at h
        cases h

namespace Machine

open Process

variable {m : Machine}

/-! ## The flag -/

/-- The flag is raised after so many milliseconds. -/
def RaisedAfter (m : Machine) (n : Nat) : Prop :=
  m.interrupted = true ∨ ∃ t, m.interruptAt = some t ∧ t ≤ m.clock + n

theorem RaisedAfter.mono {n n' : Nat} (h : m.RaisedAfter n) (hn : n ≤ n') : m.RaisedAfter n' := by
  rcases h with hraised | ⟨t, ht, hle⟩
  · exact .inl hraised
  · exact .inr ⟨t, ht, by omega⟩

theorem raisedAfter_sleep (k n : Nat) :
    (operatingSystem.sleep k m).RaisedAfter n ↔ m.RaisedAfter (k + n) := by
  simp only [RaisedAfter, operatingSystem, Nat.add_assoc]

theorem raised_iff : operatingSystem.raised m = true ↔ m.RaisedAfter 0 := by
  rw [show operatingSystem.raised m = m.flag from rfl]
  cases h : m.interruptAt <;> simp [flag, RaisedAfter, h]

theorem lowered_of_not_raisedAfter {n : Nat} (h : ¬ m.RaisedAfter n) :
    operatingSystem.raised m = false := by
  rw [← Bool.not_eq_true, raised_iff]
  exact fun hm => h (hm.mono (Nat.zero_le n))

theorem interrupted_of_lowered (h : operatingSystem.raised m = false) :
    (operatingSystem.interrupted m).2 = m := by
  have hflag : m.flag = false := h
  have hm : m.interrupted = false := (Bool.or_eq_false_iff.1 hflag).1
  simp only [operatingSystem, hflag, ← hm]

/-- Starting a child, the machine gets another disk and counts its processes, and that is all. -/
theorem spawn_eq (argv : List String) (m : Machine) :
    ∃ disk nextPid, (spawn argv m).2 = { m with disk, nextPid } := by
  unfold spawn
  split
  · exact ⟨m.disk, m.nextPid, rfl⟩
  · exact ⟨_, _, rfl⟩

theorem raisedAfter_spawn (argv : List String) (n : Nat) :
    (spawn argv m).2.RaisedAfter n ↔ m.RaisedAfter n := by
  obtain ⟨disk, nextPid, h⟩ := spawn_eq argv m
  rw [h]
  rfl

/-- **A machine never lowers the interrupt flag.** -/
theorem neverLowers : operatingSystem.NeverLowers where
  spawn argv _ h := raised_iff.2 ((raisedAfter_spawn argv 0).2 (raised_iff.1 h))
  interrupted _ h := raised_iff.2 (.inl h)
  sleep n _ h := raised_iff.2 ((raisedAfter_sleep n 0).2 ((raised_iff.1 h).mono (Nat.zero_le _)))
  kill _ _ h := h

/-! ## Waiting -/

/-- A wait is interrupted if and only if the flag is raised by the last exit check. -/
theorem waitForExit_interrupted_iff (program : String) (child : Child) (left : Nat) (m : Machine) :
    (waitForExit operatingSystem program child left m).1.value = .error (.interrupted program) ↔
      m.RaisedAfter (pollInterval * left) := by
  induction left generalizing m with
  | zero =>
    rw [Nat.mul_zero, ← raised_iff]
    cases hm : operatingSystem.raised m with
    | true => simp [waitForExit_of_raised program child 0 hm]
    | false =>
      rw [waitForExit_zero program child hm]
      cases child.status <;> simp
  | succ left ih =>
    cases hm : operatingSystem.raised m with
    | true =>
      rw [waitForExit_of_raised program child _ hm]
      exact iff_of_true rfl ((raised_iff.1 hm).mono (Nat.zero_le _))
    | false =>
      rw [waitForExit_succ program child left hm, interrupted_of_lowered hm, ih,
        raisedAfter_sleep, Nat.mul_succ, Nat.add_comm]

theorem waitForExit_of_not_raised (program : String) (child : Child) (left : Nat)
    (h : ¬ m.RaisedAfter (pollInterval * left)) :
    let w := waitForExit operatingSystem program child left m
    w.1.value = (child.status.map ExitStatus.code).mapError (.io program) ∧
      w.2 = operatingSystem.sleep (pollInterval * left) m := by
  induction left generalizing m with
  | zero =>
    have hm := lowered_of_not_raisedAfter h
    rw [waitForExit_zero program child hm, interrupted_of_lowered hm]
    cases child.status <;> exact ⟨rfl, rfl⟩
  | succ left ih =>
    have hm := lowered_of_not_raisedAfter h
    have htime : pollInterval * (left + 1) = pollInterval + pollInterval * left := by
      rw [Nat.mul_succ, Nat.add_comm]
    rw [htime] at h ⊢
    rw [waitForExit_succ program child left hm, interrupted_of_lowered hm]
    obtain ⟨hvalue, hstate⟩ := ih fun hm => h ((raisedAfter_sleep _ _).1 hm)
    refine ⟨hvalue, hstate.trans ?_⟩
    simp only [operatingSystem, Nat.add_assoc]

/-- The last exit check comes when the child has ended, and less than one interval later. -/
theorem polls_bounds {duration : Nat} (h : duration ≤ pollInterval * endless) :
    duration ≤ pollInterval * polls duration ∧
      pollInterval * polls duration < duration + pollInterval := by
  simp only [polls, pollInterval, endless] at h ⊢
  omega

/-! ## Starting -/

theorem spawn_of_error {argv : List String} {e : IoError} (h : (spawn argv m).1 = .error e) :
    (spawn argv m).2 = m ∧ ∀ n, (spawn argv (operatingSystem.sleep n m)).1 = .error e := by
  unfold spawn at h ⊢
  cases hexecute : m.disk.execute m.busy.contains m.cwd Disk.searchPath argv with
  | ok p => simp [hexecute] at h
  | error e' =>
    simp only [hexecute, Except.error.injEq] at h
    subst h
    refine ⟨rfl, fun n => ?_⟩
    simp only [operatingSystem, hexecute]

theorem keepsBusy : operatingSystem.KeepsBusy where
  busy argv m n h := by
    obtain ⟨hsame, hlater⟩ := spawn_of_error h
    rw [show (operatingSystem.spawn argv m).2 = m from hsame]
    exact hlater n

/-! ## Runs -/

section
variable {argv : List String} (sinks : Sinks) {child : Child}
  (h : started? operatingSystem argv m = some child)
include h

theorem run_of_started :
    let w := waitForExit operatingSystem (argv.headD "") child child.runningPolls (spawn argv m).2
    (run argv sinks m).1.value = collect (argv.headD "") child sinks w.1.value ∧
      (run argv sinks m).2 = w.2 := by
  cases argv with
  | nil => cases h
  | cons program args =>
    rw [started?] at h
    split at h
    · cases h
    · rename_i hnul
      cases hstart : (Process.start operatingSystem program args m).1.value with
      | error e => simp [hstart, Except.toOption] at h
      | ok child' =>
        obtain rfl : child' = child := by simpa [hstart, Except.toOption] using h
        obtain ⟨hstate, -⟩ := spawn_of_keepsBusy keepsBusy program (program :: args) 1 _ hstart
        rw [Machine.run, Process.run_of_started operatingSystem sinks hnul hstart]
        simp only [Process.start, hstate]
        exact ⟨rfl, rfl⟩

/-- **A run is interrupted if and only if the flag is raised by the last exit check.** -/
theorem run_interrupted_iff :
    (run argv sinks m).1.value.1 = .error (.interrupted (argv.headD "")) ↔
      m.RaisedAfter (pollInterval * child.runningPolls) := by
  rw [(run_of_started sinks h).1, ← raisedAfter_spawn argv,
    ← waitForExit_interrupted_iff (argv.headD "") child]
  refine ⟨eq_interrupted_of_collect, fun hwait => ?_⟩
  rw [hwait]
  rfl

/-- **A run that is not interrupted takes until the last exit check**, and its child decides. -/
theorem run_of_not_raised (hm : ¬ m.RaisedAfter (pollInterval * child.runningPolls)) :
    let status := (child.status.map ExitStatus.code).mapError (.io (argv.headD ""))
    (run argv sinks m).1.value = collect (argv.headD "") child sinks status ∧
      (run argv sinks m).2 =
        operatingSystem.sleep (pollInterval * child.runningPolls) (spawn argv m).2 := by
  intro status
  obtain ⟨hvalue, hstate⟩ := run_of_started sinks h
  rw [← raisedAfter_spawn argv] at hm
  obtain ⟨hwait, hlater⟩ :=
    waitForExit_of_not_raised (argv.headD "") child child.runningPolls hm
  rw [hvalue, hwait, hstate, hlater]
  exact ⟨rfl, rfl⟩

end

end Machine

end PlaybookScan

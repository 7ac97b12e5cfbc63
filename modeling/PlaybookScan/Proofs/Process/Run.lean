import PlaybookScan.Process.Runner

/-!
# Runs, case by case

What starting a child, waiting for it and the whole run come to, by what the operating system
answers: an executable is busy or not, the flag is raised or not, a child has been started or not.
-/

set_option autoImplicit false

namespace PlaybookScan

variable {σ : Type}

/-- The interrupt flag is raised. -/
def OperatingSystem.raised (os : OperatingSystem σ) (s : σ) : Bool := (os.interrupted s).1

namespace Process

/-! ## Starting and waiting -/

section
variable {os : OperatingSystem σ} {argv : List String} {s : σ}

theorem spawn_succ_of_ok (program : String) (attempt left : Nat) {child : Child}
    (h : (os.spawn argv s).1 = .ok child) :
    spawn os program argv attempt (left + 1) s = (pure (.ok child), (os.spawn argv s).2) := by
  rw [spawn]
  generalize os.spawn argv s = start at h
  obtain ⟨result, t⟩ := start
  cases h
  rfl

theorem spawn_succ_of_busy (program : String) (attempt left : Nat)
    (h : (os.spawn argv s).1 = .error .textFileBusy) :
    spawn os program argv attempt (left + 1) s =
      let r := spawn os program argv (attempt + 1) left
        (os.sleep (retryDelay * attempt) (os.spawn argv s).2)
      (.log (.executableBusy program attempt) >>= fun _ => r.1, r.2) := by
  rw [spawn]
  generalize os.spawn argv s = start at h
  obtain ⟨result, t⟩ := start
  cases h
  rfl

theorem spawn_succ_of_error (program : String) (attempt left : Nat) {e : IoError}
    (h : (os.spawn argv s).1 = .error e) (he : e ≠ .textFileBusy) :
    spawn os program argv attempt (left + 1) s = (pure (.error e), (os.spawn argv s).2) := by
  rw [spawn]
  generalize os.spawn argv s = start at h
  obtain ⟨result, t⟩ := start
  cases h
  exact if_neg he

theorem waitForExit_of_raised (program : String) (child : Child) (left : Nat)
    (h : os.raised s = true) :
    waitForExit os program child left s =
      (⟨[.interruptRequested program, .terminating program child.pid],
        .error (.interrupted program)⟩, os.kill child (os.interrupted s).2) := by
  rw [waitForExit]
  exact if_pos h

theorem waitForExit_succ (program : String) (child : Child) (left : Nat)
    (h : os.raised s = false) :
    waitForExit os program child (left + 1) s =
      waitForExit os program child left (os.sleep pollInterval (os.interrupted s).2) := by
  rw [waitForExit]
  exact if_neg (by rw [OperatingSystem.raised] at h; simp [h])

theorem waitForExit_zero (program : String) (child : Child) (h : os.raised s = false) :
    waitForExit os program child 0 s =
      match child.status with
      | .ok status => (⟨[.exited program status.waitStatus], .ok status.code⟩, (os.interrupted s).2)
      | .error e => (⟨[.terminating program child.pid], .error (.io program e)⟩,
          os.kill child (os.interrupted s).2) := by
  rw [waitForExit]
  rw [OperatingSystem.raised] at h
  simp only [h, Bool.false_eq_true, if_false]
  cases child.status <;> rfl

end

/-! ## The run -/

/-- Starts the child of a command line. -/
def start (os : OperatingSystem σ) (program : String) (args : List String) (s : σ) :
    Logged (Except IoError Child) × σ :=
  spawn os program (program :: args) 1 (spawnAttempts - 1) s

/-- The child that a command line starts, if it starts one. -/
def started? (os : OperatingSystem σ) (argv : List String) (s : σ) : Option Child :=
  match argv with
  | [] => none
  | program :: args =>
    if argv.any hasNul then none else (start os program args s).1.value.toOption

section
variable (os : OperatingSystem σ) {program : String} {args : List String} (sinks : Sinks) (s : σ)

theorem run_nil : run os [] sinks s =
    (⟨[], .error (.io "" (.other "empty command line")), sinks⟩, s) := rfl

theorem run_of_nul (hnul : (program :: args).any hasNul = true) :
    run os (program :: args) sinks s =
      (⟨[.spawning program args],
        .error (.io program (.other "nul byte found in provided data")), sinks⟩, s) := by
  rw [run]
  exact if_pos hnul

variable {s}

theorem run_of_not_started (hnul : ¬ (program :: args).any hasNul = true) {e : IoError}
    (h : (start os program args s).1.value = .error e) :
    run os (program :: args) sinks s =
      let r := start os program args s
      (do
        .log (.spawning program args)
        let _ ← r.1
        return (.error (.io program e), sinks), r.2) := by
  rw [start] at h
  simp only [run, if_neg hnul, h]
  rfl

theorem run_of_started (hnul : ¬ (program :: args).any hasNul = true) {child : Child}
    (h : (start os program args s).1.value = .ok child) :
    run os (program :: args) sinks s =
      let r := start os program args s
      let w := waitForExit os program child child.runningPolls r.2
      (do
        .log (.spawning program args)
        let _ ← r.1
        return collect program child sinks (← w.1), w.2) := by
  rw [start] at h
  simp only [run, if_neg hnul, h]
  rfl

end

/-- A run starts no child and fails, and the sinks stay; or it waits for its child, and the wait and
the two pipes decide. -/
theorem run_cases (os : OperatingSystem σ) (argv : List String) (sinks : Sinks) (s : σ) :
    let r := run os argv sinks s
    (∃ p e, started? os argv s = none ∧ r.1.value = (.error (.io p e), sinks) ∧
      (r.2 = s ∨ ∃ program args, r.2 = (start os program args s).2)) ∨
    ∃ program args child, started? os argv s = some child ∧
      let w := waitForExit os program child child.runningPolls (start os program args s).2
      r.1.value = collect program child sinks w.1.value ∧ r.2 = w.2 := by
  intro r
  cases argv with
  | nil => exact .inl ⟨_, _, rfl, rfl, .inl rfl⟩
  | cons program args =>
    rw [started?]
    by_cases hnul : (program :: args).any hasNul = true
    · have hr : r = _ := run_of_nul os sinks s hnul
      rw [if_pos hnul, hr]
      exact .inl ⟨_, _, rfl, rfl, .inl rfl⟩
    rw [if_neg hnul]
    cases hstart : (start os program args s).1.value with
    | error e =>
      have hr : r = _ := run_of_not_started os sinks hnul hstart
      rw [hr]
      exact .inl ⟨_, _, rfl, rfl, .inr ⟨program, args, rfl⟩⟩
    | ok child =>
      have hr : r = _ := run_of_started os sinks hnul hstart
      rw [hr]
      exact .inr ⟨program, args, child, rfl, rfl, rfl⟩

end Process

end PlaybookScan

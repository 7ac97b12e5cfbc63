import PlaybookScan.Proofs.Process.Run

/-!
# Interrupted runs

The interrupt flag may be raised by any operation of the operating system and is not lowered again
(`OperatingSystem.NeverLowers`). An operating system that is watched keeps the children that a run
starts and its tests of the flag (`OperatingSystem.watched`). A run starts no child, or it ends at
the first test that finds the flag raised and comes to nothing but the interrupt, or none of its
tests finds it raised (`course_run`). One that begins with the flag raised fails
(`failed_run_of_raised`).
-/

set_option autoImplicit false

namespace PlaybookScan

variable {σ : Type}

/-! ## The flag -/

namespace OperatingSystem

/-- A raised flag stays raised, whatever happens. -/
structure NeverLowers (os : OperatingSystem σ) : Prop where
  spawn : ∀ argv s, os.raised s = true → os.raised (os.spawn argv s).2 = true
  interrupted : ∀ s, os.raised s = true → os.raised (os.interrupted s).2 = true
  sleep : ∀ n s, os.raised s = true → os.raised (os.sleep n s) = true
  kill : ∀ child s, os.raised s = true → os.raised (os.kill child s) = true

end OperatingSystem

namespace Process

section
variable {os : OperatingSystem σ} (h : os.NeverLowers)
include h

theorem raised_spawn (program : String) (argv : List String) (attempt left : Nat) {s : σ}
    (hs : os.raised s = true) : os.raised (spawn os program argv attempt left s).2 = true := by
  have hspawn {s : σ} := h.spawn argv s
  induction left generalizing attempt s with
  | zero => exact hspawn hs
  | succ left ih =>
    cases hstart : (os.spawn argv s).1 with
    | ok child =>
      rw [spawn_succ_of_ok _ _ _ hstart]
      exact hspawn hs
    | error e =>
      by_cases he : e = .textFileBusy
      · rw [spawn_succ_of_busy _ _ _ (he ▸ hstart)]
        exact ih _ (h.sleep _ _ (hspawn hs))
      · rw [spawn_succ_of_error _ _ _ hstart he]
        exact hspawn hs

theorem raised_of_interrupted (program : String) (child : Child) (left : Nat) {s : σ} {p : String}
    (hi : (waitForExit os program child left s).1.value = .error (.interrupted p)) :
    os.raised (waitForExit os program child left s).2 = true := by
  induction left generalizing s with
  | zero =>
    by_cases hs : os.raised s = true
    · rw [waitForExit_of_raised _ _ _ hs]
      exact h.kill _ _ (h.interrupted _ hs)
    · rw [waitForExit_zero _ _ (by simpa using hs)] at hi
      cases hstatus : child.status <;> simp [hstatus] at hi
  | succ left ih =>
    by_cases hs : os.raised s = true
    · rw [waitForExit_of_raised _ _ _ hs]
      exact h.kill _ _ (h.interrupted _ hs)
    · rw [waitForExit_succ _ _ _ (by simpa using hs)] at hi ⊢
      exact ih hi

theorem raised_waitForExit (program : String) (child : Child) (left : Nat) {s : σ}
    (hs : os.raised s = true) : os.raised (waitForExit os program child left s).2 = true := by
  rw [waitForExit_of_raised _ _ _ hs]
  exact h.kill _ _ (h.interrupted _ hs)

end

end Process

/-! ## Watching -/

/-- What a run does that an interrupt matters to. -/
inductive Act where
  /-- It starts a child, and then the flag is raised or not. -/
  | started (raised : Bool)
  /-- It tests the flag. -/
  | tested (raised : Bool)
  deriving DecidableEq, Repr

namespace Act

/-- The flag is raised at this act. -/
def raised : Act → Bool
  | started raised | tested raised => raised

/-- A child is started, and the flag is raised. -/
def startsRaised : Act → Bool
  | started raised => raised
  | tested _ => false

theorem raised_of_startsRaised {a : Act} (h : a.startsRaised = true) : a.raised = true := by
  cases a with
  | started raised => exact h
  | tested raised => cases h

end Act

/-- `os`, keeping the acts. -/
def OperatingSystem.watched (os : OperatingSystem σ) : OperatingSystem (σ × List Act) where
  spawn argv t :=
    let (child, s) := os.spawn argv t.1
    (child, s, t.2 ++ if child.toBool then [.started (os.raised s)] else [])
  interrupted t :=
    let (raised, s) := os.interrupted t.1
    (raised, s, t.2 ++ [.tested raised])
  sleep n t := (os.sleep n t.1, t.2)
  kill child t := (os.kill child t.1, t.2)

namespace Process

/-- The acts of a run of `program`, and what it comes to. -/
inductive Course {α : Type} (program : String) : List Act → Except LintError α → Prop where
  /-- No child is started. -/
  | unstarted (p : String) (e : IoError) : Course program [] (.error (.io p e))
  /-- Behind `n` tests one finds the flag raised. -/
  | interrupted (raised : Bool) (n : Nat) (h : raised = true → n = 0) :
    Course program (.started raised :: (List.replicate n (.tested false) ++ [.tested true]))
      (.error (.interrupted program))
  /-- No test finds the flag raised. -/
  | ended (n : Nat) (r : Except LintError α) (h : r ≠ .error (.interrupted program)) :
    Course program (.started false :: List.replicate n (.tested false)) r

namespace Course

variable {α β : Type} {program : String} {acts : List Act} {r : Except LintError α}

theorem map (f : α → β) (h : Course program acts r) : Course program acts (r.map f) := by
  cases h with
  | unstarted p e => exact .unstarted p e
  | interrupted raised n hn => exact .interrupted raised n hn
  | ended n r hr =>
    refine .ended n _ fun he => hr ?_
    cases r with
    | ok a => cases he
    | error e => exact congrArg Except.error (Except.error.inj he)

/-- A run at whose acts the flag is raised was interrupted. -/
theorem eq_interrupted_of_raised (h : Course program acts r) {a : Act} (ha : a ∈ acts)
    (hr : a.raised = true) : r = .error (.interrupted program) := by
  cases h with
  | unstarted p e => cases ha
  | interrupted raised n hn => rfl
  | ended n r _ =>
    rcases List.mem_cons.1 ha with rfl | ha
    · cases hr
    · rw [(List.mem_replicate.1 ha).2] at hr
      cases hr

theorem countP_startsRaised_eq_zero (h : Course program acts r) (hr : r.toBool = true) :
    acts.countP Act.startsRaised = 0 := by
  refine List.countP_eq_zero.2 fun a ha hs => ?_
  rw [h.eq_interrupted_of_raised ha (Act.raised_of_startsRaised hs)] at hr
  cases hr

theorem countP_startsRaised_le (h : Course program acts r) :
    acts.countP Act.startsRaised ≤ 1 := by
  have tests (n : Nat) (b : Bool) :
      (List.replicate n (Act.tested b)).countP Act.startsRaised = 0 := by
    rw [List.countP_replicate, if_neg (by simp [Act.startsRaised])]
  cases h with
  | unstarted p e => exact Nat.zero_le 1
  | interrupted raised n hn =>
    rw [List.countP_cons, List.countP_append, tests]
    cases raised <;> decide
  | ended n r _ =>
    rw [List.countP_cons, tests]
    decide

end Course

section
variable (os : OperatingSystem σ) (program : String)

theorem spawn_watched (argv : List String) (attempt left : Nat) (s : σ) (acts : List Act) :
    let r := spawn os program argv attempt left s
    spawn os.watched program argv attempt left (s, acts) =
      (r.1, r.2, acts ++ if r.1.value.toBool then [.started (os.raised r.2)] else []) := by
  intro r
  induction left generalizing attempt s acts with
  | zero => rfl
  | succ left ih =>
    have hfst : (os.watched.spawn argv (s, acts)).1 = (os.spawn argv s).1 := rfl
    cases hstart : (os.spawn argv s).1 with
    | ok child =>
      rw [spawn_succ_of_ok _ _ _ (hfst.trans hstart)]
      simp [r, spawn_succ_of_ok _ _ _ hstart, OperatingSystem.watched, hstart, Except.toBool]
    | error e =>
      by_cases he : e = .textFileBusy
      · subst he
        have hacts : os.watched.sleep (retryDelay * attempt) (os.watched.spawn argv (s, acts)).2 =
            (os.sleep (retryDelay * attempt) (os.spawn argv s).2, acts) := by
          simp [OperatingSystem.watched, hstart, Except.toBool]
        rw [spawn_succ_of_busy _ _ _ (hfst.trans hstart), hacts, ih]
        simp [r, spawn_succ_of_busy _ _ _ hstart]
      · rw [spawn_succ_of_error _ _ _ (hfst.trans hstart) he]
        simp [r, spawn_succ_of_error _ _ _ hstart he, OperatingSystem.watched, hstart,
          Except.toBool]

theorem waitForExit_watched_of_raised (child : Child) (left : Nat) {s : σ} (acts : List Act)
    (hs : os.raised s = true) :
    waitForExit os.watched program child left (s, acts) =
      ((waitForExit os program child left s).1, (waitForExit os program child left s).2,
        acts ++ [.tested true]) := by
  have htest : (os.interrupted s).1 = true := hs
  have hw : os.watched.raised (s, acts) = true := hs
  rw [waitForExit_of_raised _ _ _ hs, waitForExit_of_raised _ _ _ hw]
  simp [OperatingSystem.watched, htest]

theorem watched_interrupted_of_lowered {s : σ} (acts : List Act) (hs : os.raised s = false) :
    (os.watched.interrupted (s, acts)).2 = ((os.interrupted s).2, acts ++ [.tested false]) := by
  rw [← hs]
  rfl

/-- The wait, watched: it is interrupted at the first test that finds the flag raised, or there is
no such test. -/
theorem waitForExit_watched (child : Child) (left : Nat) (s : σ) (acts : List Act) :
    let r := waitForExit os program child left s
    ∃ tests, waitForExit os.watched program child left (s, acts) = (r.1, r.2, acts ++ tests) ∧
      ∃ n, (tests = List.replicate n (.tested false) ++ [.tested true] ∧
          r.1.value = .error (.interrupted program) ∧ (os.raised s = true → n = 0)) ∨
        (tests = List.replicate n (.tested false) ∧ os.raised s = false ∧
          r.1.value ≠ .error (.interrupted program)) := by
  intro r
  induction left generalizing s acts with
  | zero =>
    by_cases hs : os.raised s = true
    · exact ⟨_, waitForExit_watched_of_raised os program child 0 acts hs, 0,
        .inl ⟨rfl, by simp only [r, waitForExit_of_raised program child 0 hs], fun _ => rfl⟩⟩
    · rw [Bool.not_eq_true] at hs
      have hw : os.watched.raised (s, acts) = false := hs
      refine ⟨_, ?_, 1, .inr ⟨rfl, hs, ?_⟩⟩
      · rw [waitForExit_zero _ _ hw, watched_interrupted_of_lowered os acts hs]
        simp only [r, waitForExit_zero program child hs]
        cases child.status <;> rfl
      · simp only [r, waitForExit_zero program child hs]
        cases child.status <;> simp
  | succ left ih =>
    by_cases hs : os.raised s = true
    · exact ⟨_, waitForExit_watched_of_raised os program child _ acts hs, 0,
        .inl ⟨rfl, by simp only [r, waitForExit_of_raised program child _ hs], fun _ => rfl⟩⟩
    · rw [Bool.not_eq_true] at hs
      have hw : os.watched.raised (s, acts) = false := hs
      have hr : r = waitForExit os program child left
          (os.sleep pollInterval (os.interrupted s).2) := waitForExit_succ program child left hs
      obtain ⟨tests, hwait, n, hn⟩ :=
        ih (os.sleep pollInterval (os.interrupted s).2) (acts ++ [.tested false])
      rw [← hr] at hwait hn
      refine ⟨.tested false :: tests, ?_, n + 1, ?_⟩
      · rw [waitForExit_succ _ _ _ hw, watched_interrupted_of_lowered os acts hs,
          List.append_cons acts _ tests]
        exact hwait
      · rcases hn with ⟨rfl, hvalue, -⟩ | ⟨rfl, -, hvalue⟩
        · exact .inl ⟨rfl, hvalue, fun h => by rw [hs] at h; cases h⟩
        · exact .inr ⟨rfl, hs, hvalue⟩

end

/-! ## A run -/

theorem eq_interrupted_of_collect {program p : String} {child : Child} {sinks : Sinks}
    {status : Except LintError Int}
    (h : (collect program child sinks status).1 = .error (.interrupted p)) :
    status = .error (.interrupted p) := by
  unfold collect at h
  cases status with
  | error e => exact congrArg Except.error (Except.error.inj h)
  | ok code => cases hout : child.stdout.lines <;> cases herr : child.stderr.lines <;> simp_all

theorem start_watched (os : OperatingSystem σ) (program : String) (args : List String) (s : σ)
    (acts : List Act) :
    let r := start os program args s
    start os.watched program args (s, acts) =
      (r.1, r.2, acts ++ if r.1.value.toBool then [.started (os.raised r.2)] else []) :=
  spawn_watched os program (program :: args) 1 (spawnAttempts - 1) s acts

/-- **A run of a watched operating system** is the same as without watching, and its acts say what
it comes to. -/
theorem course_run (os : OperatingSystem σ) (argv : List String) (sinks : Sinks) (s : σ)
    (acts : List Act) :
    let r := run os argv sinks s
    ∃ done, run os.watched argv sinks (s, acts) = (r.1, r.2, acts ++ done) ∧
      Course (argv.headD "") done r.1.value.1 := by
  intro r
  cases argv with
  | nil => exact ⟨[], by simp [r, run_nil], .unstarted _ _⟩
  | cons program args =>
    by_cases hnul : (program :: args).any hasNul = true
    · have hr : r = _ := run_of_nul os sinks s hnul
      refine ⟨[], by simp [run_of_nul os.watched sinks (s, acts) hnul, hr], ?_⟩
      rw [hr]
      exact .unstarted _ _
    have hstart := start_watched os program args s acts
    cases hchild : (start os program args s).1.value with
    | error e =>
      have hr : r = _ := run_of_not_started os sinks hnul hchild
      simp only [hchild, Except.toBool] at hstart
      refine ⟨[], ?_, ?_⟩
      · rw [run_of_not_started os.watched sinks hnul (by rw [hstart]; exact hchild), hr, hstart]
        rfl
      · rw [hr]
        exact .unstarted _ _
    | ok child =>
      have hr : r = _ := run_of_started os sinks hnul hchild
      simp only [hchild, Except.toBool, if_true] at hstart
      obtain ⟨tests, hwait, n, hn⟩ := waitForExit_watched os program child child.runningPolls
        (start os program args s).2 (acts ++ [.started (os.raised (start os program args s).2)])
      refine ⟨.started (os.raised (start os program args s).2) :: tests, ?_, ?_⟩
      · rw [run_of_started os.watched sinks hnul (by rw [hstart]; exact hchild), hr, hstart]
        simp only [hwait, List.append_assoc, List.singleton_append]
      · rw [hr]
        rcases hn with ⟨rfl, hvalue, hzero⟩ | ⟨rfl, hlowered, hvalue⟩
        · simp only [Logged.value_bind, Logged.value_pure, hvalue]
          exact .interrupted _ n hzero
        · rw [hlowered]
          exact .ended n _ fun he => hvalue (eq_interrupted_of_collect he)

section
variable {os : OperatingSystem σ} (h : os.NeverLowers) (argv : List String) (sinks : Sinks) {s : σ}
include h

theorem raised_run (hs : os.raised s = true) : os.raised (run os argv sinks s).2 = true := by
  rcases run_cases os argv sinks s with
    ⟨p, e, -, -, hend | ⟨program, args, hend⟩⟩ | ⟨program, args, child, -, -, hend⟩
  · rw [hend]
    exact hs
  · rw [hend]
    exact raised_spawn h _ _ _ _ hs
  · rw [hend]
    exact raised_waitForExit h _ _ _ (raised_spawn h _ _ _ _ hs)

/-- **A run that begins with the flag raised fails.** -/
theorem failed_run_of_raised (hs : os.raised s = true) :
    (run os argv sinks s).1.value.1.toBool = false := by
  rcases run_cases os argv sinks s with ⟨p, e, -, hrun, -⟩ | ⟨program, args, child, -, hrun, -⟩
  · rw [hrun]
    rfl
  · have hstarted : os.raised (start os program args s).2 = true := raised_spawn h _ _ _ _ hs
    rw [hrun, waitForExit_of_raised _ _ _ hstarted]
    rfl

theorem raised_run_of_interrupted {p : String}
    (hi : (run os argv sinks s).1.value.1 = .error (.interrupted p)) :
    os.raised (run os argv sinks s).2 = true := by
  rcases run_cases os argv sinks s with ⟨q, e, -, hrun, -⟩ | ⟨program, args, child, -, hrun, hend⟩
  · rw [hrun] at hi
    cases hi
  · rw [hrun] at hi
    rw [hend]
    exact raised_of_interrupted h program child _ (eq_interrupted_of_collect hi)

end

end Process

end PlaybookScan

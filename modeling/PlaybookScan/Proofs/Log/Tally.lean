import PlaybookScan.Log.Event

/-!
# Counting in logs

What is counted in a log (`Counted`, `tally`) comes up in one part of an analysis each
(`Event.phase`), so a log of another part has none of it (`tally_eq_zero`).

A loop logs what its rounds log. What holds of the log of a round holds of the log of the loop
(`Logged.events_foldlM`), and a number that a round moves by what it logs is moved by the loop by
what the loop logs (`Logged.measure_foldlM`).
-/

set_option autoImplicit false

namespace PlaybookScan

/-! ## What is counted in a log -/

/-- The parts of an analysis, as its events show them. -/
inductive Phase where
  | asking
  | running
  | reading
  | counting
  | relaying
  | saving
  /-- Before, behind or outside the others. -/
  | other
  deriving DecidableEq, Repr

def Event.phase : Event → Phase
  | probeFailed _ | versionUnknown | versionHeader | versionLine _ => .asking
  | running .. | finished .. | cannotRun .. => .running
  | lineZeroDropped .. | registered .. | unresolvable .. => .reading
  | parsed .. => .counting
  | warningsHidden | errorOutput _ => .relaying
  | foreignFinding .. | inactiveRule _ | cannotSave .. => .saving
  | _ => .other

/-- What is counted in a log. -/
inductive Counted where
  /-- Diagnostics, as the events say that count the lines of a run. -/
  | recognised
  /-- Findings on line 0. -/
  | lineZero
  /-- Findings registered. -/
  | registered
  /-- Findings registered that were new. -/
  | inserted
  /-- Findings on files that the host does not know. -/
  | foreign
  /-- Findings whose rules are not active. -/
  | inactive
  /-- Findings that make no issue. -/
  | unsaved
  deriving DecidableEq, Repr

/-- The phase whose events are counted. -/
def Counted.phase : Counted → Phase
  | recognised => .counting
  | lineZero | registered | inserted => .reading
  | foreign | inactive | unsaved => .saving

/-- How much an event counts. -/
def Event.weight : Event → Counted → Nat
  | parsed _ _ n, .recognised => n
  | lineZeroDropped .., .lineZero => 1
  | registered .., .registered => 1
  | registered _ inserted, .inserted => inserted.toNat
  | foreignFinding .., .foreign => 1
  | inactiveRule _, .inactive => 1
  | cannotSave .., .unsaved => 1
  | _, _ => 0

theorem weight_eq_zero {e : Event} {k : Counted} (h : e.phase ≠ k.phase) : e.weight k = 0 := by
  cases k <;> cases e <;> first | rfl | exact absurd rfl h

/-- The count of `k` in a log. -/
def tally (k : Counted) : List Event → Nat
  | [] => 0
  | e :: log => e.weight k + tally k log

@[simp] theorem tally_nil (k : Counted) : tally k [] = 0 := rfl

@[simp] theorem tally_cons (k : Counted) (e : Event) (log : List Event) :
    tally k (e :: log) = e.weight k + tally k log :=
  rfl

@[simp] theorem tally_append (k : Counted) (log rest : List Event) :
    tally k (log ++ rest) = tally k log + tally k rest := by
  induction log with
  | nil => exact (Nat.zero_add _).symm
  | cons e log ih => rw [List.cons_append, tally_cons, tally_cons, ih, Nat.add_assoc]

theorem tally_eq_zero {ph : Phase} {log : List Event} (h : ∀ e ∈ log, e.phase = ph) {k : Counted}
    (hk : ph ≠ k.phase) : tally k log = 0 := by
  induction log with
  | nil => rfl
  | cons e log ih =>
    obtain ⟨he, hlog⟩ := List.forall_mem_cons.1 h
    rw [tally_cons, weight_eq_zero (he ▸ hk), ih hlog]

/-- What the events that count the lines of a run say: its file, its lines and its diagnostics. -/
def Event.parsed? : Event → Option (String × Nat × Nat)
  | parsed file lines recognised => some (file, lines, recognised)
  | _ => none

theorem filterMap_parsed?_eq_nil {ph : Phase} {log : List Event} (h : ∀ e ∈ log, e.phase = ph)
    (hph : ph ≠ .counting) : log.filterMap Event.parsed? = [] := by
  refine List.filterMap_eq_nil_iff.2 fun e he => ?_
  have hphase : e.phase ≠ .counting := h e he ▸ hph
  cases e <;> first | rfl | exact absurd rfl hphase

/-! ## Loops -/

namespace Logged

variable {α β : Type} {f : β → α → Logged β}

/-- What holds of the log of each round holds of the log of a loop. -/
theorem events_foldlM {P : List Event → Prop} (hnil : P [])
    (happend : ∀ log rest, P log → P rest → P (log ++ rest)) (h : ∀ b a, P (f b a).events)
    (as : List α) (b : β) : P (as.foldlM f b).events := by
  induction as generalizing b with
  | nil => exact hnil
  | cons a as ih =>
    rw [List.foldlM_cons, events_bind]
    exact happend _ _ (h b a) (ih _)

theorem events_foldlM_eq_flatMap {I : β → Prop} {log : α → List Event}
    (hlog : ∀ b a, I b → (f b a).events = log a) (hI : ∀ b a, I b → I (f b a).value)
    (as : List α) {b : β} (hb : I b) : (as.foldlM f b).events = as.flatMap log := by
  induction as generalizing b with
  | nil => rfl
  | cons a as ih =>
    rw [List.foldlM_cons, events_bind, List.flatMap_cons, hlog b a hb, ih (hI b a hb)]

theorem phase_foldlM {ph : Phase} (h : ∀ b a, ∀ e ∈ (f b a).events, e.phase = ph) (as : List α)
    (b : β) : ∀ e ∈ (as.foldlM f b).events, e.phase = ph :=
  events_foldlM (P := fun log => ∀ e ∈ log, e.phase = ph) (List.forall_mem_nil _)
    (fun _ _ hlog hrest => List.forall_mem_append.2 ⟨hlog, hrest⟩) h as b

/-- A measure that each round moves by what it logs is moved by a loop by what the loop logs. -/
theorem measure_foldlM {t : List Event → Nat} (hnil : t [] = 0)
    (happend : ∀ log rest, t (log ++ rest) = t log + t rest) {m : β → Nat}
    (h : ∀ b a, m (f b a).value = m b + t (f b a).events) (as : List α) (b : β) :
    m (as.foldlM f b).value = m b + t (as.foldlM f b).events := by
  induction as generalizing b with
  | nil =>
    show m b = m b + t []
    rw [hnil, Nat.add_zero]
  | cons a as ih =>
    rw [List.foldlM_cons, value_bind, events_bind, ih, h, happend, Nat.add_assoc]

theorem measure_foldlM_countP {p : α → Bool} {m : β → Nat}
    (h : ∀ b a, m (f b a).value = m b + (p a).toNat) (as : List α) (b : β) :
    m (as.foldlM f b).value = m b + as.countP p := by
  induction as generalizing b with
  | nil => rfl
  | cons a as ih =>
    rw [List.foldlM_cons, value_bind, ih, h, List.countP_cons]
    cases p a <;> simp [Nat.add_assoc, Nat.add_comm 1]

end Logged

end PlaybookScan

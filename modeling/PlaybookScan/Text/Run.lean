/-!
# Runs of characters

A set of characters is listed by its runs: the numbers where a run starts and where it has ended, in
turn and in order.
-/

set_option autoImplicit false

namespace PlaybookScan.Text

/-- `n` is in one of the runs that start and end at `bounds`: it is at or behind an odd number of
them. -/
def inRuns : List Nat → Nat → Bool
  | [], _ => false
  | b :: bounds, n => b ≤ n && !inRuns bounds n

theorem inRuns_of_first {start stop n : Nat} (bounds : List Nat) (h : start ≤ n) (h' : n < stop) :
    inRuns (start :: stop :: bounds) n = true := by
  simp only [inRuns, Bool.and_eq_true, Bool.not_eq_true', Bool.and_eq_false_iff, decide_eq_true_eq,
    decide_eq_false_iff_not]
  exact ⟨h, .inl (by omega)⟩

theorem inRuns_of_later {start stop n : Nat} {bounds : List Nat} (h : start ≤ stop)
    (h' : stop ≤ n) : inRuns (start :: stop :: bounds) n = inRuns bounds n := by
  have h'' : start ≤ n := Nat.le_trans h h'
  simp [inRuns, h', h'']

end PlaybookScan.Text

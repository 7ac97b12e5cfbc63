import Mathlib.Data.List.Induction
import PlaybookScan.Path
import PlaybookScan.Proofs.Path.Component

/-!
# Normal forms

`evaluate` follows components on a stack. What it leaves is in normal form: the root, or any number
of `..`, and names behind it (`IsNormalForm`, kept by each component in `IsNormalForm.follow`).
`normalize` has no stack and reads the last component again from the path that it has built so far;
as long as that path is in normal form, it does what the stack does (`IsNormalForm.step_eq`), so
that it builds the path of what the evaluation leaves (`normalize_eq`).
-/

set_option autoImplicit false

namespace PlaybookScan.Path

/-- One component further from the components `done`, the last of which comes first. -/
def follow (done : List Component) : Component → List Component
  | .here => done
  | .up =>
    match done with
    | .name _ :: rest => rest
    | .root :: _ => done
    | _ => .up :: done
  | c => c :: done

/-- What is left of the components `cs` once all are followed. -/
def evaluate (cs : List Component) : List Component := (cs.foldl follow []).reverse

/-- The root if the path is absolute, else any number of `..`; behind it names only. -/
inductive IsNormalForm : Bool → List Component → Prop where
  | absolute {ns : List String} (h : ∀ n ∈ ns, IsName n) :
    IsNormalForm true (.root :: ns.map .name)
  | relative (k : Nat) {ns : List String} (h : ∀ n ∈ ns, IsName n) :
    IsNormalForm false (List.replicate k .up ++ ns.map .name)

theorem follow_replicate_up (k : Nat) :
    follow (List.replicate k .up) .up = List.replicate (k + 1) .up := by
  cases k <;> rfl

theorem foldl_follow_names (ns : List String) (done : List Component) :
    (ns.map Component.name).foldl follow done = (ns.map .name).reverse ++ done := by
  induction ns generalizing done with
  | nil => rfl
  | cons n ns ih => simp [follow, ih]

namespace IsNormalForm

variable {a : Bool} {cs : List Component}

/-! ## One component -/

theorem concat_name (h : IsNormalForm a cs) {s : String} (hs : IsName s) :
    IsNormalForm a (cs ++ [.name s]) := by
  have hconcat {ns : List String} (hns : ∀ n ∈ ns, IsName n) : ∀ n ∈ ns ++ [s], IsName n := by
    simpa [or_imp, forall_and] using ⟨hns, hs⟩
  cases h with
  | @absolute ns hns => simpa using absolute (hconcat hns)
  | @relative k ns hns => simpa using relative k (hconcat hns)

theorem last_cases (h : IsNormalForm a cs) :
    (∃ init n, cs = init ++ [.name n] ∧ IsNormalForm a init) ∨
      (a = true ∧ cs = [.root]) ∨ (a = false ∧ ∃ k, cs = List.replicate k .up) := by
  cases h with
  | @absolute ns hns =>
    rcases List.eq_nil_or_concat ns with rfl | ⟨init, n, rfl⟩
    · exact .inr (.inl ⟨rfl, rfl⟩)
    · exact .inl ⟨.root :: init.map .name, n, by simp,
        absolute fun m hm => hns m (by simp [hm])⟩
  | @relative k ns hns =>
    rcases List.eq_nil_or_concat ns with rfl | ⟨init, n, rfl⟩
    · exact .inr (.inr ⟨rfl, k, by simp⟩)
    · exact .inl ⟨List.replicate k .up ++ init.map .name, n, by simp,
        relative k fun m hm => hns m (by simp [hm])⟩

theorem components_eq (h : IsNormalForm a cs) : (ofComponents cs).components = cs := by
  cases h with
  | absolute hns => exact components_ofComponents_root (isStep_of_mem_map_name hns)
  | relative k hns =>
    refine components_ofComponents fun c hc => ?_
    rcases List.mem_append.1 hc with hc | hc
    · exact .inl (List.eq_of_mem_replicate hc)
    · exact isStep_of_mem_map_name hns c hc

theorem join_eq (h : IsNormalForm a cs) {c : Component} (hc : c.IsStep) :
    (ofComponents cs).join ⟨c.text⟩ = ofComponents (cs ++ [c]) := by
  cases h with
  | absolute hns => exact join_ofComponents_root (isStep_of_mem_map_name hns) hc
  | relative k hns =>
    refine join_ofComponents (fun c hc => ?_) hc
    rcases List.mem_append.1 hc with hc | hc
    · exact .inl (List.eq_of_mem_replicate hc)
    · exact isStep_of_mem_map_name hns c hc

/-- **A normal form stays one**, whatever component is followed. -/
theorem followed (h : IsNormalForm a cs) {c : Component} (hc : c.IsStep) :
    IsNormalForm a (follow cs.reverse c).reverse := by
  rcases hc with rfl | ⟨s, rfl, hs⟩
  · rcases h.last_cases with ⟨init, n, rfl, hinit⟩ | ⟨rfl, rfl⟩ | ⟨rfl, k, rfl⟩
    · simpa [follow] using hinit
    · exact h
    · rw [List.reverse_replicate, follow_replicate_up, List.reverse_replicate]
      simpa using relative (k + 1) (List.forall_mem_nil IsName)
  · simpa [follow] using h.concat_name hs

/-- **The built path goes one component further as the stack does.** -/
theorem step_eq (h : IsNormalForm a cs) {c : Component} (hc : c.IsStep) :
    step (ofComponents cs) c = ofComponents (follow cs.reverse c).reverse := by
  rcases hc with rfl | ⟨s, rfl, hs⟩
  · rw [step, h.components_eq]
    rcases h.last_cases with ⟨init, n, rfl, -⟩ | ⟨rfl, rfl⟩ | ⟨rfl, k, rfl⟩
    · simp [follow, parent, h.components_eq]
    · rfl
    · rw [List.reverse_replicate, follow_replicate_up, List.reverse_replicate,
        List.replicate_succ', ← h.join_eq (.inl rfl), List.getLast?_replicate]
      by_cases hk : k = 0 <;> simp [hk]
  · exact (h.join_eq hs.isStep).trans (by simp [follow])

/-! ## All components -/

theorem all_followed (h : IsNormalForm a cs) {ds : List Component} (hds : ∀ d ∈ ds, d.IsStep) :
    IsNormalForm a (ds.foldl follow cs.reverse).reverse := by
  induction ds generalizing cs with
  | nil => simpa
  | cons d ds ih =>
    have hd := h.followed (hds d List.mem_cons_self)
    simpa using ih hd fun e he => hds e (List.mem_cons_of_mem _ he)

theorem foldl_step_eq (h : IsNormalForm a cs) {ds : List Component} (hds : ∀ d ∈ ds, d.IsStep) :
    ds.foldl step (ofComponents cs) = ofComponents (ds.foldl follow cs.reverse).reverse := by
  induction ds generalizing cs with
  | nil => simp
  | cons d ds ih =>
    have hd := hds d List.mem_cons_self
    rw [List.foldl_cons, h.step_eq hd,
      ih (h.followed hd) fun e he => hds e (List.mem_cons_of_mem _ he)]
    simp

theorem evaluate_eq (h : IsNormalForm a cs) : evaluate cs = cs := by
  cases h with
  | @absolute ns hns => simp [evaluate, follow, foldl_follow_names]
  | @relative k ns hns =>
    have hk : (List.replicate k Component.up).foldl follow [] = List.replicate k .up := by
      induction k with
      | zero => rfl
      | succ k ih =>
        rw [List.replicate_succ', List.foldl_append, ih, List.foldl_cons, List.foldl_nil,
          follow_replicate_up, List.replicate_succ']
    simp [evaluate, hk, foldl_follow_names]

/-! ## What is in a normal form -/

theorem here_not_mem (h : IsNormalForm a cs) : .here ∉ cs := by
  cases h <;> simp

theorem up_not_mem (h : IsNormalForm true cs) : .up ∉ cs := by
  cases h
  simp

theorem head?_eq_root_iff (h : IsNormalForm a cs) : cs.head? = some .root ↔ a = true := by
  cases h with
  | absolute hns => simp
  | @relative k ns hns => cases k <;> cases ns <;> simp [List.replicate_succ]

theorem exists_replicate_up (h : IsNormalForm false cs) :
    ∃ k rest, cs = List.replicate k .up ++ rest ∧ .up ∉ rest := by
  cases h with
  | @relative k ns hns => exact ⟨k, ns.map .name, rfl, by simp⟩

end IsNormalForm

/-! ## Paths -/

theorem foldl_lead (cs : List Char) :
    ∃ ds, IsNormalForm (cs.head? == some '/') ds ∧ (lead cs).foldl follow [] = ds.reverse ∧
      (lead cs).foldl step ⟨""⟩ = ofComponents ds := by
  have hrelative := IsNormalForm.relative 0 (List.forall_mem_nil IsName)
  fun_cases lead cs with
  | case1 => exact ⟨_, .absolute (List.forall_mem_nil IsName), rfl, rfl⟩
  | case2 => exact ⟨_, hrelative, rfl, rfl⟩
  | case3 => exact ⟨_, hrelative, rfl, rfl⟩
  | case4 _ h0 =>
    have hhead : (cs.head? == some '/') = false := by
      rw [Bool.eq_false_iff]
      intro he
      obtain ⟨ds, rfl⟩ := List.head?_eq_some_iff.1 (eq_of_beq he)
      exact h0 _ rfl
    exact ⟨[], by rw [hhead]; exact hrelative, rfl, rfl⟩

/-- What is left of the components of a path is in normal form, and is what `normalize` builds. -/
theorem isNormalForm_and_normalize_eq (p : Path) :
    IsNormalForm p.isAbsolute (evaluate p.components) ∧
      p.normalize = ofComponents (evaluate p.components) := by
  obtain ⟨ds, hds, hfollow, hstep⟩ := foldl_lead p.text.toList
  have hpieces : ∀ c ∈ ofPieces p.text.toList, c.IsStep := fun c => eq_of_mem_ofPieces
  have hevaluate : evaluate p.components =
      ((ofPieces p.text.toList).foldl follow ds.reverse).reverse := by
    rw [evaluate, components_eq, List.foldl_append, hfollow]
  rw [hevaluate, normalize, components_eq, List.foldl_append, hstep]
  exact ⟨hds.all_followed hpieces, hds.foldl_step_eq hpieces⟩

theorem isNormalForm_evaluate (p : Path) : IsNormalForm p.isAbsolute (evaluate p.components) :=
  p.isNormalForm_and_normalize_eq.1

/-- **The built path is that of the evaluation.** -/
theorem normalize_eq (p : Path) : p.normalize = ofComponents (evaluate p.components) :=
  p.isNormalForm_and_normalize_eq.2

theorem components_normalize (p : Path) : p.normalize.components = evaluate p.components := by
  rw [normalize_eq, p.isNormalForm_evaluate.components_eq]

theorem isAbsolute_iff (p : Path) : p.isAbsolute = true ↔ p.components.head? = some .root := by
  rw [components_eq, isAbsolute, beq_iff_eq]
  have hpieces : (ofPieces p.text.toList).head? ≠ some .root := by
    intro he
    rcases eq_of_mem_ofPieces (List.mem_of_head? he) with h | ⟨s, h, -⟩ <;> cases h
  generalize p.text.toList = cs at hpieces
  fun_cases lead cs with
  | case1 => simp
  | case2 => simp
  | case3 => simp
  | case4 _ h0 =>
    simp only [List.nil_append, hpieces, iff_false, List.head?_eq_some_iff, not_exists]
    exact h0

theorem isAbsolute_normalize (p : Path) : p.normalize.isAbsolute = p.isAbsolute := by
  rw [Bool.eq_iff_iff, isAbsolute_iff, components_normalize,
    p.isNormalForm_evaluate.head?_eq_root_iff]

theorem normalize_normalize (p : Path) : p.normalize.normalize = p.normalize := by
  rw [normalize_eq p.normalize, components_normalize, p.isNormalForm_evaluate.evaluate_eq,
    ← normalize_eq]

/-- **Normalising evaluates the components**: the normal path is that of what the stack leaves, and
has just these components. None of them is `.`. It is absolute if the path is. Then none is `..`;
else every `..` stands before all names. A normal path is its own normal form. -/
theorem normalize_evaluates (p : Path) :
    p.normalize = ofComponents (evaluate p.components) ∧
      p.normalize.components = evaluate p.components ∧
      .here ∉ p.normalize.components ∧
      p.normalize.isAbsolute = p.isAbsolute ∧
      (p.isAbsolute = true → .up ∉ p.normalize.components) ∧
      (p.isAbsolute = false → ∃ k rest,
        p.normalize.components = List.replicate k .up ++ rest ∧ .up ∉ rest) ∧
      p.normalize.normalize = p.normalize := by
  have hform := p.isNormalForm_evaluate
  rw [components_normalize]
  exact ⟨p.normalize_eq, rfl, hform.here_not_mem, p.isAbsolute_normalize,
    fun ha => (ha ▸ hform).up_not_mem, fun ha => (ha ▸ hform).exists_replicate_up,
    p.normalize_normalize⟩

/-- No `..` climbs above the root, and in a relative path those are left that no name is taken back
for. -/
theorem normalize_evaluates_climbing :
    let up : Path := ⟨"/../a/./b/../../..//c/"⟩
    let out : Path := ⟨"./a/../../b/./../../c/."⟩
    up.isAbsolute = true ∧ .up ∉ up.normalize.components ∧ up.normalize = ⟨"/c"⟩ ∧
      out.isAbsolute = false ∧
      (∃ k rest, out.normalize.components = List.replicate k .up ++ rest ∧ .up ∉ rest) ∧
      out.normalize = ⟨"../../c"⟩ := by
  intro up out
  obtain ⟨-, -, -, -, hup, -⟩ := normalize_evaluates up
  obtain ⟨-, -, -, -, -, hout, -⟩ := normalize_evaluates out
  have habsolute : up.isAbsolute = true := by decide
  have hrelative : out.isAbsolute = false := by decide
  exact ⟨habsolute, hup habsolute, by decide +kernel, hrelative, hout hrelative, by decide +kernel⟩

end PlaybookScan.Path

import PlaybookScan.Proofs.Path.Evaluation

/-!
# Absolute paths, and joining

`ofNames ns` is the absolute path through the names `ns`, and every absolute path has a normal form
of this kind (`exists_normalize_eq_ofNames`), whatever `..` it holds. Evaluation goes on from what
it has left of the components before (`foldl_follow_evaluate`). So the normal form of what is joined
depends on the normal forms of the two alone (`normalize_join_congr`), and a path without `..` in
its normal form is put behind the other one as it stands (`components_normalize_join`).
-/

set_option autoImplicit false

namespace PlaybookScan.Path

/-- The absolute path through `ns`. -/
def ofNames (ns : List String) : Path := ofComponents (.root :: ns.map .name)

theorem filterMap_ofPiece? {ns : List String} (h : ∀ n ∈ ns, IsName n) :
    (ns.map String.toList).filterMap Component.ofPiece? = ns.map .name := by
  have hnames := filterMap_ofPiece?_text (isStep_of_mem_map_name h)
  rwa [List.filterMap_map] at hnames ⊢

theorem components_of_pieces {p : Path} {ns : List String} {last : List (List Char)}
    (h : ∀ n ∈ ns, IsName n) (hlast : last = [] ∨ last = [[]])
    (hp : p.text.toList = '/' :: ['/'].intercalate (ns.map String.toList ++ last)) :
    p.components = .root :: ns.map .name := by
  have hc : p.components =
      .root :: ofPieces (['/'].intercalate (ns.map String.toList ++ last)) := by
    unfold components
    rw [hp]
    rfl
  have hslash : ∀ piece ∈ ns.map String.toList ++ last, '/' ∉ piece := by
    intro piece hm
    rcases List.mem_append.1 hm with hm | hm
    · obtain ⟨n, hn, rfl⟩ := List.mem_map.1 hm
      exact (h n hn).no_slash
    · rcases hlast with rfl | rfl <;> simp_all
  rw [hc, ofPieces]
  by_cases hne : ns.map String.toList ++ last = []
  · obtain ⟨hn, -⟩ := List.append_eq_nil_iff.1 hne
    rw [hne, List.map_eq_nil_iff.1 hn]
    rfl
  · rw [List.splitOn_intercalate '/' hslash hne, List.filterMap_append, filterMap_ofPiece? h]
    rcases hlast with rfl | rfl <;> simp [Component.ofPiece?]

/-! ## Normal forms -/

theorem text_ofNames (ns : List String) :
    (ofNames ns).text.toList = '/' :: ['/'].intercalate (ns.map String.toList) := by
  simp [ofNames, ofComponents, Function.comp_def, Component.text]

theorem components_ofNames {ns : List String} (h : ∀ n ∈ ns, IsName n) :
    (ofNames ns).components = .root :: ns.map .name :=
  (IsNormalForm.absolute h).components_eq

theorem names_of_components {p : Path} {ns : List String}
    (h : p.components = .root :: ns.map .name) : p.names = ns := by
  rw [names, h, List.filterMap_cons_none rfl, List.filterMap_map]
  exact List.filterMap_some

theorem normalize_of_components {p : Path} {ns : List String}
    (h : p.components = .root :: ns.map .name) : p.normalize = ofNames ns := by
  simp [normalize_eq, h, evaluate, follow, foldl_follow_names, ofNames]

theorem components_of_isAbsolute {p : Path} (h : p.isAbsolute = true) :
    ∃ cs, p.text.toList = '/' :: cs ∧ p.components = .root :: ofPieces cs := by
  obtain ⟨cs, hcs⟩ := List.head?_eq_some_iff.1 (eq_of_beq h)
  refine ⟨cs, hcs, ?_⟩
  unfold components
  rw [hcs]
  rfl

theorem normalize_append_slash {p : Path} (h : p.isEmpty = false) :
    (⟨p.text ++ "/"⟩ : Path).normalize = p.normalize := by
  rw [normalize_eq, normalize_eq p, components_append_slash h]

/-- **The normal form of an absolute path goes through names only.** -/
theorem exists_normalize_eq_ofNames {p : Path} (h : p.isAbsolute = true) :
    ∃ ns, (∀ n ∈ ns, IsName n) ∧ p.normalize = ofNames ns := by
  have hform := p.isNormalForm_evaluate
  rw [h] at hform
  rw [normalize_eq]
  generalize evaluate p.components = cs at hform
  cases hform with
  | @absolute ns hns => exact ⟨ns, hns, rfl⟩

/-! ## Absolute paths -/

theorem isAbsolute_of_cons {p : Path} {cs : List Char} (h : p.text.toList = '/' :: cs) :
    p.isAbsolute = true := by
  simp [isAbsolute, h]

theorem isEmpty_of_isAbsolute {p : Path} (h : p.isAbsolute = true) : p.isEmpty = false := by
  obtain ⟨cs, hcs, -⟩ := components_of_isAbsolute h
  rw [isEmpty, Bool.eq_false_iff]
  intro he
  have : p.text = "" := by simpa using he
  simp [this] at hcs

theorem isAbsolute_join {p : Path} (h : p.isAbsolute = true) (q : Path) :
    (p.join q).isAbsolute = true := by
  obtain ⟨cs, hcs, -⟩ := components_of_isAbsolute h
  unfold join
  split
  · rename_i hq
    simpa [isEmpty_of_isAbsolute h] using hq
  · split <;> simp [isAbsolute, hcs]

theorem isEmpty_join (p q : Path) : (p.join q).isEmpty = (p.isEmpty && q.isEmpty) := by
  unfold join
  split
  case isTrue h =>
    rcases Bool.or_eq_true_iff.1 h with hq | hp
    · rw [isEmpty_of_isAbsolute hq, Bool.and_false]
    · rw [hp, Bool.true_and]
  case isFalse h =>
    have hp : p.isEmpty = false := by simp_all
    rw [hp, Bool.false_and]
    split <;> simp_all [isEmpty]

theorem isEmpty_join_of_left {p : Path} (h : p.isEmpty = false) (q : Path) :
    (p.join q).isEmpty = false := by
  rw [isEmpty_join, h, Bool.false_and]

/-! ## Evaluation in two parts -/

/-- What is left of `cs` does to any stack what `cs` does. -/
theorem foldl_follow_evaluate (done cs : List Component) :
    (evaluate cs).foldl follow done = cs.foldl follow done := by
  induction cs using List.reverseRecOn with
  | nil => rfl
  | append_singleton cs c ih =>
    rw [evaluate] at ih
    rw [evaluate, List.foldl_append, List.foldl_append, ← ih]
    generalize cs.foldl follow [] = left
    cases c with
    | root => simp [follow]
    | here => simp [follow]
    | name s => simp [follow]
    -- `..` undoes the last step that was left, if that was a name.
    | up => rcases left with _ | ⟨_ | _ | _ | _, rest⟩ <;> simp [follow]

theorem evaluate_append (cs ds : List Component) :
    evaluate (cs ++ ds) = (ds.foldl follow (evaluate cs).reverse).reverse := by
  rw [evaluate, evaluate, List.reverse_reverse, List.foldl_append]

theorem evaluate_append_names (cs : List Component) (ns : List String) :
    evaluate (cs ++ ns.map .name) = evaluate cs ++ ns.map .name := by
  rw [evaluate_append, foldl_follow_names, List.reverse_append, List.reverse_reverse,
    List.reverse_reverse]

theorem evaluate_append_congr {cs cs' ds ds' : List Component} (hc : evaluate cs = evaluate cs')
    (hd : evaluate ds = evaluate ds') : evaluate (cs ++ ds) = evaluate (cs' ++ ds') := by
  rw [evaluate_append, evaluate_append, ← foldl_follow_evaluate _ ds,
    ← foldl_follow_evaluate _ ds', hc, hd]

/-! ## Joining -/

theorem components_of_isEmpty {p : Path} (h : p.isEmpty = true) : p.components = [] := by
  have ht : p.text = "" := by simpa [isEmpty] using h
  simp [components, ht, ofPieces, Component.ofPiece?]

theorem evaluate_join (p : Path) {q : Path} (hq : q.isAbsolute = false) :
    evaluate (p.join q).components = evaluate (p.components ++ q.components) := by
  cases hp : p.isEmpty with
  | true => rw [components_of_isEmpty hp, List.nil_append, join, hp, Bool.or_true, if_pos rfl]
  | false =>
    rw [components_join hp hq, components_eq q, ← List.append_assoc]
    -- The start of a relative path is `.` at most, which leads nowhere.
    have hlead : lead q.text.toList = [] ∨ lead q.text.toList = [.here] := by
      rw [isAbsolute] at hq
      generalize q.text.toList = cs at hq
      fun_cases lead cs <;> simp_all
    rcases hlead with h | h <;> simp [h, evaluate, follow]

/-- **The normal form of a joined path** depends on the normal forms alone. -/
theorem normalize_join_congr {p p' q q' : Path} (hp : p.normalize = p'.normalize)
    (hq : q.normalize = q'.normalize) : (p.join q).normalize = (p'.join q').normalize := by
  have habsolute : q.isAbsolute = q'.isAbsolute := by
    rw [← isAbsolute_normalize, hq, isAbsolute_normalize]
  cases h : q.isAbsolute with
  | true => rw [join_of_isAbsolute p h, join_of_isAbsolute p' (habsolute ▸ h), hq]
  | false =>
    rw [normalize_eq (p.join q), normalize_eq (p'.join q'), evaluate_join p h,
      evaluate_join p' (habsolute ▸ h)]
    congr 1
    exact evaluate_append_congr
      (by rw [← components_normalize, hp, components_normalize])
      (by rw [← components_normalize, hq, components_normalize])

/-- **Normalising the first path beforehand changes nothing.** -/
theorem normalize_join (p q : Path) : (p.join q).normalize = (p.normalize.join q).normalize :=
  normalize_join_congr p.normalize_normalize.symm rfl

/-- **A path that stays below** where it starts is put behind the other one. -/
theorem components_normalize_join (p : Path) {q : Path} (hq : q.isAbsolute = false)
    (hup : .up ∉ q.normalize.components) :
    (p.join q).normalize.components = p.normalize.components ++ q.normalize.components := by
  simp only [components_normalize] at hup ⊢
  have hform := q.isNormalForm_evaluate
  rw [hq] at hform
  rw [evaluate_join p hq, evaluate_append, ← foldl_follow_evaluate]
  generalize evaluate q.components = cs at hform hup
  cases hform with
  | @relative k ns hns =>
    cases k with
    | zero => simp [foldl_follow_names]
    | succ k => simp [List.replicate_succ] at hup

end PlaybookScan.Path

namespace PlaybookScan.WorkingDir

open PlaybookScan.Path

theorem isAbsolute_absolute (cwd : WorkingDir) (p : Path) : (cwd.absolute p).isAbsolute = true :=
  isAbsolute_join cwd.isAbsolute p

end PlaybookScan.WorkingDir

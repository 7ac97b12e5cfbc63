import Mathlib.Data.List.Lex
import Mathlib.Data.String.Basic
import PlaybookScan.Proofs.Cli.Collect
import PlaybookScan.Proofs.FileUri.Identity
import PlaybookScan.Proofs.FileUri.Spelling
import PlaybookScan.Proofs.Text.Utf8

/-!
# Paths below a base directory

The path of what is found by the names `ns` has these names behind the components of the base
directory, however that one is spelt (`components_pathOf`). So the key is made of the names
(`key_pathOf`) and leads back to the same file (`resolve_key`), the names are known from the URI
(`pathOf_inj`), and paths are sorted by their names alone: name by name, in the order of bytes
(`pairwise_mergeSort_namesLe`).
-/

set_option autoImplicit false

namespace PlaybookScan.Collect

open PlaybookScan.Path PlaybookScan.Text

/-! ## Components -/

section
variable {base : Path} (hbase : base.isEmpty = false) {ns : List String}
  (hns : ∀ name ∈ ns, IsName name)
include hbase hns

theorem components_join_intercalate :
    (base.join ⟨"/".intercalate ns⟩).components = base.components ++ ns.map .name := by
  have hpieces : ofPieces ("/".intercalate ns).toList = ns.map .name := by
    simpa [Function.comp_def, Component.text] using
      ofPieces_intercalate (isStep_of_mem_map_name hns)
  have hrelative : (⟨"/".intercalate ns⟩ : Path).isAbsolute = false := by
    have hcomponents := components_ofComponents (isStep_of_mem_map_name hns)
    have htext := ofComponents_of_isStep (isStep_of_mem_map_name hns)
    rw [List.map_map, show Component.text ∘ Component.name = id from rfl, List.map_id] at htext
    rw [← htext, Bool.eq_false_iff, Ne, isAbsolute_iff, hcomponents]
    cases ns <;> simp
  rw [components_join hbase hrelative, hpieces]

theorem components_pathOf : (pathOf base ns).components = base.components ++ ns.map .name := by
  induction ns generalizing base with
  | nil => exact (List.append_nil _).symm
  | cons name ns ih =>
    obtain ⟨hname, hns⟩ := List.forall_mem_cons.1 hns
    have hstep : (base.join ⟨name⟩).components = base.components ++ [.name name] := by
      simpa using components_join_intercalate hbase (List.forall_mem_singleton.2 hname)
    have htail := ih (isEmpty_join_of_left hbase ⟨name⟩) hns
    rw [hstep, List.append_assoc] at htail
    exact htail

/-- **The key is made of the names.** -/
theorem key_pathOf : key base (pathOf base ns) = "/".intercalate ns := by
  have hrest : base.components.isPrefixOf? (pathOf base ns).components = some (ns.map .name) :=
    List.isPrefixOf?_eq_some_iff_append_eq.2 (components_pathOf hbase hns).symm
  simp [key, hrest, Function.comp_def, Component.text]

/-- **The key leads back to the file.** -/
theorem resolve_key (cwd : WorkingDir) :
    FileUri.resolve cwd base ("/".intercalate ns) = FileUri.ofPath cwd (pathOf base ns) := by
  have hsame : (base.join ⟨"/".intercalate ns⟩).normalize = (pathOf base ns).normalize := by
    rw [Path.normalize, Path.normalize, components_join_intercalate hbase hns,
      components_pathOf hbase hns]
  obtain ⟨u, hjoin, hpath⟩ := FileUri.ofPath_congr cwd (isEmpty_join_of_left hbase _)
    (isEmpty_pathOf hbase ns) hsame
  rw [FileUri.resolve, hjoin, hpath]

theorem components_normalize_pathOf (cwd : WorkingDir) :
    (cwd.absolute (pathOf base ns)).normalize.components =
      (cwd.absolute base).normalize.components ++ ns.map .name := by
  have hcomponents := components_pathOf hbase hns
  have habsolute : (pathOf base ns).isAbsolute = base.isAbsolute := by
    rw [Bool.eq_iff_iff, isAbsolute_iff, isAbsolute_iff, hcomponents]
    cases base.components with
    | nil => cases ns <;> simp
    | cons c cs => rfl
  rw [components_normalize, components_normalize, WorkingDir.absolute, WorkingDir.absolute]
  cases h : base.isAbsolute with
  | true =>
    rw [join_of_isAbsolute _ h, join_of_isAbsolute _ (habsolute.trans h), hcomponents,
      evaluate_append_names]
  | false =>
    rw [evaluate_join _ h, evaluate_join _ (habsolute.trans h), hcomponents, ← List.append_assoc,
      evaluate_append_names]

end

/-- **The names are known from the URI.** -/
theorem pathOf_inj (cwd : WorkingDir) {base : Path} (hbase : base.isEmpty = false)
    {ns ms : List String} (hns : ∀ name ∈ ns, IsName name) (hms : ∀ name ∈ ms, IsName name)
    (h : FileUri.ofPath cwd (pathOf base ns) = FileUri.ofPath cwd (pathOf base ms)) : ns = ms := by
  rw [FileUri.ofPath_of_not_isEmpty cwd (isEmpty_pathOf hbase ns),
    FileUri.ofPath_of_not_isEmpty cwd (isEmpty_pathOf hbase ms), Except.ok.injEq,
    FileUri.ofNormal_normalize_inj (cwd.isAbsolute_absolute _) (cwd.isAbsolute_absolute _)] at h
  have hcomponents := congrArg components h
  rw [components_normalize_pathOf hbase hns, components_normalize_pathOf hbase hms] at hcomponents
  exact List.map_injective_iff.2 (fun _ _ => Component.name.inj)
    (List.append_cancel_left hcomponents)

/-! ## Order -/

/-- The order of paths below one directory, by the names that lead there. -/
def namesLe (ns ms : List String) : Bool := componentsLe (ns.map .name) (ms.map .name)

/-- The bytes of each name. -/
def nameBytes (ns : List String) : List (List UInt8) := ns.map fun name => Utf8.encode name.toList

theorem componentsLe_append (cs as bs : List Component) :
    componentsLe (cs ++ as) (cs ++ bs) = componentsLe as bs := by
  induction cs with
  | nil => rfl
  | cons c cs ih => rw [List.cons_append, List.cons_append, componentsLe, if_pos rfl, ih]

theorem componentLe_name_iff {n m : String} :
    componentLe (.name n) (.name m) = true ↔ ¬ m < n := by
  change decide (n ≤ m) = true ↔ ¬ m < n
  rw [decide_eq_true_iff, String.not_lt]

theorem namesLe_iff {ns ms : List String} : namesLe ns ms = true ↔ ¬ ms < ns := by
  unfold namesLe
  induction ns generalizing ms with
  | nil => simp [componentsLe]
  | cons n ns ih =>
    cases ms with
    | nil => simp [componentsLe]
    | cons m ms =>
      simp only [List.map_cons, componentsLe, List.cons_lt_cons_iff, Component.name.injEq]
      by_cases h : n = m
      · simp [h, ih]
      · simp [h, Ne.symm h, componentLe_name_iff]

theorem nameBytes_lt {ns ms : List String} (h : ns < ms) : nameBytes ns < nameBytes ms :=
  List.map_lt (fun _ _ h => Utf8.encode_lt_encode (String.lt_iff_toList_lt.1 h)) h

theorem pairwise_mergeSort (nss : List (List String)) :
    (nss.mergeSort namesLe).Pairwise fun ns ms => namesLe ns ms = true := by
  refine List.pairwise_mergeSort (fun ns ms ks => ?_) (fun ns ms => ?_) nss
  · simp only [namesLe_iff]
    exact List.le_trans
  · simp only [Bool.or_eq_true, namesLe_iff]
    exact List.le_total ns ms

/-- **What is sorted is in the strict order of its bytes**, if there is nothing twice in it. -/
theorem pairwise_mergeSort_namesLe {nss : List (List String)} (h : nss.Nodup) :
    (nss.mergeSort namesLe).Pairwise fun ns ms => nameBytes ns < nameBytes ms := by
  have hnodup : (nss.mergeSort namesLe).Nodup := (List.mergeSort_perm nss namesLe).nodup_iff.2 h
  refine (pairwise_mergeSort nss).imp₂ (fun ns ms hle hne => nameBytes_lt ?_) hnodup
  exact Decidable.not_not.1 fun hlt => hne (List.le_antisymm (namesLe_iff.1 hle) hlt)

theorem mergeSort_eq_of_perm {nss mss : List (List String)} (h : nss.Perm mss) :
    nss.mergeSort namesLe = mss.mergeSort namesLe := by
  refine List.Perm.eq_of_pairwise (fun ns ms _ _ hle hge => ?_) (pairwise_mergeSort nss)
    (pairwise_mergeSort mss)
    ((List.mergeSort_perm nss _).trans (h.trans (List.mergeSort_perm mss _).symm))
  exact List.le_antisymm (namesLe_iff.1 hle) (namesLe_iff.1 hge)

/-- **Paths below one directory are sorted by their names.** -/
theorem mergeSort_map_pathOf {base : Path} (hbase : base.isEmpty = false)
    {nss : List (List String)} (h : ∀ ns ∈ nss, ∀ name ∈ ns, IsName name) :
    (nss.map (pathOf base)).mergeSort pathLe = (nss.mergeSort namesLe).map (pathOf base) := by
  refine (List.map_mergeSort fun ns hns ms hms => ?_).symm
  rw [pathLe, components_pathOf hbase (h ns hns), components_pathOf hbase (h ms hms),
    componentsLe_append, namesLe]

end PlaybookScan.Collect

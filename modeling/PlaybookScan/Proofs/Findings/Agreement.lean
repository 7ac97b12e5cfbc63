import PlaybookScan.Proofs.Findings.Contents

/-!
# Findings answer with one voice

The number of findings, the number of files, the findings on a file and what a drain hands over are
read from different containers. In every reachable state they are the answers of one list of pairs
(`Coherent.answersFrom`). A drain leaves nothing but the files scanned, so what is registered
afterwards is answered as by new findings (`registerEach_drain`). `Reachable.answers` puts the
representation and both together.
-/

set_option autoImplicit false

namespace PlaybookScan.Findings

open Grouping

/-! ## The answers of a list of pairs -/

/-- What is asked of `s` is answered from `ps`, which holds every stored finding exactly once. -/
structure AnswersFrom (s : Findings) (ps : List (FileUri × Finding)) : Prop where
  nodup : ps.Nodup
  mem_iff : ∀ u f, (u, f) ∈ ps ↔ ∃ set, (u, set) ∈ s.files.toList ∧ f ∈ set.seen
  issueCount_eq : s.issueCount = ps.length
  fileCount_eq : s.fileCount = (ps.map Prod.fst).eraseDups.length
  issuesFor_eq : ∀ u, s.issuesFor u = if values ps u = [] then none else some (values ps u)
  drain_eq : s.drain.1 = ps

theorem issueCount_eq_length (s : Findings) : s.issueCount = s.toList.length := by
  have hsum (files : List (FileUri × FindingSet)) (n : Nat) :
      files.foldl (fun n g => n + g.2.ordered.size) n =
        n + (files.flatMap fun g => g.2.ordered.toList.map (g.1, ·)).length := by
    induction files generalizing n with
    | nil => rfl
    | cons g files ih => simp [ih, Nat.add_assoc]
  rw [issueCount, ← Array.foldl_toList, toList]
  simpa using hsum s.files.toList 0

theorem length_flatMap_set {α β : Type} {f : α → List β} {as : List α} {i m : Nat} {a b : α}
    (h : as[i]? = some a) (hab : (f b).length = (f a).length + m) :
    ((as.set i b).flatMap f).length = (as.flatMap f).length + m := by
  induction as generalizing i with
  | nil => simp at h
  | cons a' as ih =>
    cases i with
    | zero =>
      obtain rfl : a' = a := by simpa using h
      simp [hab, Nat.add_right_comm]
    | succ i => simp [ih (by simpa using h), Nat.add_assoc]

theorem size_insert (set : FindingSet) (f : Finding) :
    (set.insert f).2.ordered.size = set.ordered.size + (set.insert f).1.toNat := by
  unfold FindingSet.insert
  split <;> simp

theorem issueCount_insert (s : Findings) (u : FileUri) (f : Finding) :
    (s.insert u f).2.issueCount = s.issueCount + (s.insert u f).1.toNat := by
  rw [issueCount_eq_length, issueCount_eq_length, toList, toList]
  cases hi : s.index[u]? with
  | some i =>
    cases hg : s.files[i]? with
    | some g =>
      rw [insert_of_known hi hg, Array.toList_setIfInBounds]
      refine length_flatMap_set (a := g) (by simpa using hg) ?_
      simpa using size_insert g.2 f
    | none =>
      have hsame : s.insert u f = (false, s) := by simp [insert, locate, hi, hg]
      rw [hsame]
      rfl
  | none =>
    rw [insert_of_fresh hi]
    simp [FindingSet.insert, FindingSet.empty]

namespace Coherent

variable {s : Findings} (h : s.Coherent)
include h

theorem nodup_groups : ∀ g ∈ s.groups, g.2.Nodup := by
  intro g hg
  obtain ⟨p, hp, rfl⟩ := List.mem_map.1 hg
  exact (h.sets p hp).nodup

theorem nodup_keys : (s.groups.map Prod.fst).Nodup := by
  rw [map_fst_groups]
  exact h.nodup_uris

theorem mem_toList_iff (u : FileUri) (f : Finding) :
    (u, f) ∈ s.toList ↔ ∃ set, (u, set) ∈ s.files.toList ∧ f ∈ set.seen := by
  rw [toList_eq_ungroup, mem_ungroup, groups]
  constructor
  · rintro ⟨fs, hg, hf⟩
    obtain ⟨⟨v, set⟩, hp, he⟩ := List.mem_map.1 hg
    obtain ⟨rfl, rfl⟩ := Prod.mk.inj he
    exact ⟨set, hp, ((h.sets _ hp).mem_seen f).2 hf⟩
  · rintro ⟨set, hp, hf⟩
    exact ⟨set.ordered.toList, List.mem_map.2 ⟨_, hp, rfl⟩, ((h.sets _ hp).mem_seen f).1 hf⟩

theorem issuesFor_eq (u : FileUri) : s.issuesFor u = s.groups.lookup u := by
  rw [lookup_eq_idxOf?, map_fst_groups, ← h.index, issuesFor]
  cases s.index[u]? with
  | none => rfl
  | some i =>
    simp only [Option.bind_eq_bind, Option.bind_some, groups, List.getElem?_map, Option.map_map,
      Array.getElem?_toList]
    cases s.files[i]? <;> rfl

theorem issuesFor_eq_values (u : FileUri) :
    s.issuesFor u = if values s.toList u = [] then none else some (values s.toList u) := by
  rw [h.issuesFor_eq, toList_eq_ungroup, values_ungroup h.nodup_keys]
  cases hl : s.groups.lookup u with
  | none => rfl
  | some fs =>
    obtain ⟨before, behind, hgroups, -⟩ := List.lookup_eq_some_iff.1 hl
    have hne : fs ≠ [] := h.ne_nil (u, fs) (by simp [hgroups])
    simp [hne]

/-- **All queries agree** with what a drain hands over. -/
theorem answersFrom : s.AnswersFrom s.toList where
  nodup := by
    rw [toList_eq_ungroup]
    exact nodup_ungroup h.nodup_keys h.nodup_groups
  mem_iff := h.mem_toList_iff
  issueCount_eq := s.issueCount_eq_length
  fileCount_eq := by
    rw [toList_eq_ungroup, eraseDups_keys_ungroup h.nodup_keys h.ne_nil]
    simp [fileCount, groups]
  issuesFor_eq := h.issuesFor_eq_values
  drain_eq := rfl

end Coherent

/-! ## After a drain -/

theorem drain_eq (s : Findings) :
    s.drain.2 = { empty s.baseDir with scanned := s.scanned } := rfl

/-- Registers lines in turn, each in a working directory of its own. -/
def registerEach (s : Findings) : List (WorkingDir × String) → Logged (List Bool × Findings)
  | [] => return ([], s)
  | (cwd, line) :: lines => do
    let (recognised, s) ← s.register cwd line
    let (answers, s) ← s.registerEach lines
    return (recognised :: answers, s)

theorem registerEach_cons (s : Findings) (cwd : WorkingDir) (line : String)
    (lines : List (WorkingDir × String)) :
    s.registerEach ((cwd, line) :: lines) =
      let first := s.register cwd line
      let rest := first.value.2.registerEach lines
      ⟨first.events ++ rest.events, first.value.1 :: rest.value.1, rest.value.2⟩ := by
  simp only [registerEach, bind, pure, List.append_nil]

theorem insert_withScanned (s : Findings) (scanned : List InputFile) (u : FileUri) (f : Finding) :
    ({ s with scanned }).insert u f = ((s.insert u f).1, { (s.insert u f).2 with scanned }) := by
  unfold insert locate
  cases hi : s.index[u]? with
  | some i =>
    simp only
    cases s.files[i]? <;> rfl
  | none =>
    simp only
    cases (s.files.push (u, FindingSet.empty))[s.files.size]? <;> rfl

theorem register_withScanned (s : Findings) (scanned : List InputFile) (cwd : WorkingDir)
    (line : String) :
    ({ s with scanned }).register cwd line =
      ⟨(s.register cwd line).events, (s.register cwd line).value.1,
        { (s.register cwd line).value.2 with scanned }⟩ := by
  unfold register
  cases Diagnostic.parse? line with
  | none => rfl
  | some d =>
    simp only
    cases FileUri.resolve cwd s.baseDir d.filename with
    | error e => rfl
    | ok uri =>
      simp only [insert_withScanned]
      split <;> rfl

theorem registerEach_withScanned (s : Findings) (scanned : List InputFile)
    (lines : List (WorkingDir × String)) :
    ({ s with scanned }).registerEach lines =
      ⟨(s.registerEach lines).events, (s.registerEach lines).value.1,
        { (s.registerEach lines).value.2 with scanned }⟩ := by
  induction lines generalizing s with
  | nil => rfl
  | cons l lines ih =>
    rw [registerEach_cons, registerEach_cons, register_withScanned]
    simp only [ih]

/-- **Every later answer is that of new findings**, and so are the state and the log. -/
theorem registerEach_drain (s : Findings) (lines : List (WorkingDir × String)) :
    let later := s.drain.2.registerEach lines
    let new := (empty s.baseDir).registerEach lines
    later.events = new.events ∧ later.value.1 = new.value.1 ∧
      later.value.2 = { new.value.2 with scanned := s.scanned } := by
  intro later new
  have h : later = _ := registerEach_withScanned (empty s.baseDir) s.scanned lines
  rw [h]
  exact ⟨rfl, rfl, rfl⟩

/-! ## Reachable states -/

/-- **The containers of reachable findings stay in step**: every query is answered from what a drain
hands over, each stored finding once. A drain leaves the files scanned and nothing else, and lines
are answered afterwards as by new findings. -/
theorem Reachable.answers {s : Findings} (hs : s.Reachable) :
    s.Coherent ∧ s.AnswersFrom s.drain.1 ∧ s.drain.2.AnswersFrom [] ∧
      s.drain.2.scanned = s.scanned ∧
      ∀ lines : List (WorkingDir × String),
        let later := s.drain.2.registerEach lines
        let new := (Findings.empty s.baseDir).registerEach lines
        later.events = new.events ∧ later.value.1 = new.value.1 ∧
          later.value.2 = { new.value.2 with scanned := s.scanned } :=
  ⟨hs.coherent, hs.coherent.answersFrom, hs.coherent.drain.answersFrom, rfl,
    s.registerEach_drain⟩

/-- Findings that are used again after a drain; one file is named in two ways. -/
theorem answers_after_drain :
    let drained := ((empty ⟨"/p"⟩).register .top "b.yml:1: no-tabs").value.2.drain.2
    let s := ((drained.register .top "a.yml:3: no-tabs").value.2.register .top
      "r ./x/../a.yml:07").value.2
    let found : List (FileUri × Finding) :=
      [(⟨"file:///p/a.yml"⟩, ⟨3, "no-tabs", none⟩), (⟨"file:///p/a.yml"⟩, ⟨7, "r", none⟩)]
    s.Reachable ∧ s.Coherent ∧ s.AnswersFrom found ∧ s.drain.2.AnswersFrom [] := by
  intro drained s found
  have hdrained : drained.Reachable := ((Reachable.empty _).register .top _).drain
  have hs : s.Reachable := (hdrained.register .top _).register .top _
  have hbase : drained.baseDir = ⟨"/p"⟩ := baseDir_register ..
  have hnone : drained.Holds [] := ⟨hdrained.coherent, rfl⟩
  have hlist : s.toList = _ :=
    ((hnone.register .top "a.yml:3: no-tabs").register .top "r ./x/../a.yml:07").toList_eq
  rw [baseDir_register, hbase] at hlist
  clear_value s
  have hfound : s.drain.1 = found := hlist.trans (by decide +kernel)
  obtain ⟨hcoherent, hanswers, hrest, -⟩ := hs.answers
  exact ⟨hs, hcoherent, hfound ▸ hanswers, hrest⟩

end PlaybookScan.Findings

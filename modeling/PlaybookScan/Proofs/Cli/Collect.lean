import PlaybookScan.Cli.Collect
import PlaybookScan.Proofs.Disk.Tree
import PlaybookScan.Proofs.InputFile

/-!
# The files that are collected

`Collect.Reaches root ns n`: the names `ns`, none of them hidden, lead from the directory `root` to
`n`. What is found so and is no directory is a candidate if its last name is that of a YAML file
(`Collect.Candidate`). A walk finds the candidates, unless it reaches a directory that cannot be
listed (`Collect.walked_below`). Collecting fails when the base is no directory, when the walk fails
or when a candidate cannot be read, and in no other case (`FileSet.value_collect_of_isDirectory`).
-/

set_option autoImplicit false

namespace PlaybookScan

namespace Collect

/-! ## What a walk reaches -/

inductive Reaches : Node → List String → Node → Prop where
  | here (n : Node) : Reaches n [] n
  | enter {entries : List (String × Node)} {name : String} {child n : Node} {ns : List String}
    (hm : (name, child) ∈ entries) (hname : isHidden name = false) (h : Reaches child ns n) :
    Reaches (.directory entries) (name :: ns) n

/-- A node in which no entries can be looked up. -/
def IsLeaf (n : Node) : Prop := ∀ entries, n ≠ .directory entries

/-- The names lead to something that is no directory and has the name of a YAML file. -/
def Candidate (root : Node) (ns : List String) : Prop :=
  ∃ n, Reaches root ns n ∧ n.isDirectory = false ∧ ns.getLast?.any isYaml = true

/-- A directory that cannot be listed is reached. -/
def Barred (root : Node) : Prop := ∃ ns e, Reaches root ns (.closed true e)

/-- The path of the names `ns` below `dir`. -/
def pathOf (dir : Path) (ns : List String) : Path := ns.foldl (fun p name => p.join ⟨name⟩) dir

/-- What a walk from `root` may answer, when `dir` is the path of `root`. -/
def Walked (dir : Path) (root : Node) : Except Refusal (List Path) → Prop
  | .error (p, e) => ∃ ns, p = pathOf dir ns ∧ Reaches root ns (.closed true e)
  | .ok ps => ¬ Barred root ∧ ∃ nss : List (List String), ps = nss.map (pathOf dir) ∧
      (∀ ns, ns ∈ nss ↔ Candidate root ns) ∧ (root.WellFormed → nss.Nodup)

section
variable {entries : List (String × Node)} {x : String × Node} {ns : List String} {n : Node}

theorem isLeaf_closed (isDirectory : Bool) (e : IoError) : IsLeaf (.closed isDirectory e) := nofun

theorem isLeaf_of_not_isDirectory (h : n.isDirectory = false) : IsLeaf n := by
  rintro es rfl
  cases h

theorem reaches_leaf_iff {root : Node} (hroot : IsLeaf root) :
    Reaches root ns n ↔ ns = [] ∧ n = root := by
  constructor
  · intro h
    cases h with
    | here => exact ⟨rfl, rfl⟩
    | enter => exact absurd rfl (hroot _)
  · rintro ⟨rfl, rfl⟩
    exact .here _

theorem reaches_cons_iff (hn : IsLeaf n) :
    Reaches (.directory (x :: entries)) ns n ↔
      Reaches (.directory [x]) ns n ∨ Reaches (.directory entries) ns n := by
  constructor
  · intro h
    cases h with
    | here => exact absurd rfl (hn _)
    | enter hm hname h =>
      rcases List.mem_cons.1 hm with rfl | hm
      · exact .inl (.enter List.mem_cons_self hname h)
      · exact .inr (.enter hm hname h)
  · rintro (h | h) <;> cases h with
    | here => exact absurd rfl (hn _)
    | enter hm hname h =>
      refine .enter ?_ hname h
      simp_all

theorem reaches_singleton_iff {name : String} {child : Node} (hn : IsLeaf n) :
    Reaches (.directory [(name, child)]) ns n ↔
      isHidden name = false ∧ ∃ rest, ns = name :: rest ∧ Reaches child rest n := by
  constructor
  · intro h
    cases h with
    | here => exact absurd rfl (hn _)
    | enter hm hname h =>
      obtain ⟨rfl, rfl⟩ := Prod.mk.inj (List.mem_singleton.1 hm)
      exact ⟨hname, _, rfl, h⟩
  · rintro ⟨hname, rest, rfl, h⟩
    exact .enter (List.mem_singleton_self _) hname h

theorem barred_cons_iff : Barred (.directory (x :: entries)) ↔
    Barred (.directory [x]) ∨ Barred (.directory entries) := by
  constructor
  · rintro ⟨ns, e, h⟩
    exact ((reaches_cons_iff (isLeaf_closed _ _)).1 h).imp (⟨ns, e, ·⟩) (⟨ns, e, ·⟩)
  · rintro (⟨ns, e, h⟩ | ⟨ns, e, h⟩)
    · exact ⟨ns, e, (reaches_cons_iff (isLeaf_closed _ _)).2 (.inl h)⟩
    · exact ⟨ns, e, (reaches_cons_iff (isLeaf_closed _ _)).2 (.inr h)⟩

theorem candidate_cons_iff : Candidate (.directory (x :: entries)) ns ↔
    Candidate (.directory [x]) ns ∨ Candidate (.directory entries) ns := by
  constructor
  · rintro ⟨n, h, hn, hns⟩
    exact ((reaches_cons_iff (isLeaf_of_not_isDirectory hn)).1 h).imp
      (⟨n, ·, hn, hns⟩) (⟨n, ·, hn, hns⟩)
  · rintro (⟨n, h, hn, hns⟩ | ⟨n, h, hn, hns⟩)
    · exact ⟨n, (reaches_cons_iff (isLeaf_of_not_isDirectory hn)).2 (.inl h), hn, hns⟩
    · exact ⟨n, (reaches_cons_iff (isLeaf_of_not_isDirectory hn)).2 (.inr h), hn, hns⟩

theorem Candidate.exists_cons (h : Candidate (.directory entries) ns) :
    ∃ name rest, ns = name :: rest ∧ name ∈ entries.map Prod.fst := by
  obtain ⟨n, h, hn, -⟩ := h
  cases h with
  | here => cases hn
  | enter hm => exact ⟨_, _, rfl, List.mem_map_of_mem hm⟩

theorem candidate_singleton_iff {name : String} {child : Node} (hname : isHidden name = false)
    (hchild : child.isDirectory = true) :
    Candidate (.directory [(name, child)]) ns ↔
      ∃ rest, ns = name :: rest ∧ Candidate child rest := by
  have hlast {rest : List String} {n : Node} (h : Reaches child rest n)
      (hn : n.isDirectory = false) : (name :: rest).getLast? = rest.getLast? := by
    cases h with
    | here => simp [hchild] at hn
    | enter => rw [List.getLast?_cons_cons]
  constructor
  · rintro ⟨n, h, hn, hns⟩
    obtain ⟨-, rest, rfl, hrest⟩ := (reaches_singleton_iff (isLeaf_of_not_isDirectory hn)).1 h
    exact ⟨rest, rfl, n, hrest, hn, hlast hrest hn ▸ hns⟩
  · rintro ⟨rest, rfl, n, h, hn, hns⟩
    exact ⟨n, .enter (List.mem_singleton_self _) hname h, hn, (hlast h hn).symm ▸ hns⟩

end

/-! ## What a walk answers -/

namespace Walked

variable {dir : Path} {entries : List (String × Node)} {name : String} {node : Node}

theorem cons {x : String × Node} {first others : Except Refusal (List Path)}
    (hx : Walked dir (.directory [x]) first) (hxs : Walked dir (.directory entries) others) :
    Walked dir (.directory (x :: entries))
      (do let here ← first; let others ← others; return here ++ others) := by
  cases first with
  | error r =>
    obtain ⟨ns, hp, h⟩ := hx
    exact ⟨ns, hp, (reaches_cons_iff (isLeaf_closed _ _)).2 (.inl h)⟩
  | ok ps =>
    obtain ⟨hbar, nss, rfl, hnss, hnodup⟩ := hx
    cases others with
    | error r =>
      obtain ⟨ns, hp, h⟩ := hxs
      exact ⟨ns, hp, (reaches_cons_iff (isLeaf_closed _ _)).2 (.inr h)⟩
    | ok qs =>
      obtain ⟨hbars, mss, rfl, hmss, hnodups⟩ := hxs
      refine ⟨fun h => (barred_cons_iff.1 h).elim hbar hbars, nss ++ mss, ?_, fun ns => ?_,
        fun hwf => ?_⟩
      · exact List.map_append.symm
      · rw [List.mem_append, hnss, hmss]
        exact candidate_cons_iff.symm
      · have hfresh := (List.nodup_cons.1 hwf.nodup).1
        refine (hnodup (hwf.of_sublist (by simp))).append (hnodups (hwf.of_sublist (by simp))) ?_
        intro ns hns hms
        obtain ⟨name, rest, rfl, hname⟩ := ((hnss ns).1 hns).exists_cons
        obtain ⟨_, _, hcons, hother⟩ := ((hmss _).1 hms).exists_cons
        obtain ⟨rfl, -⟩ := List.cons.inj hcons
        exact hfresh (List.mem_singleton.1 hname ▸ hother)

theorem hidden (hname : isHidden name = true) :
    Walked dir (.directory [(name, node)]) (.ok []) := by
  refine ⟨?_, [], rfl, fun ns => ⟨fun h => absurd h List.not_mem_nil, ?_⟩, fun _ => .nil⟩
  · rintro ⟨ns, e, h⟩
    have := ((reaches_singleton_iff (isLeaf_closed _ _)).1 h).1
    simp [hname] at this
  · rintro ⟨n, h, hn, -⟩
    have := ((reaches_singleton_iff (isLeaf_of_not_isDirectory hn)).1 h).1
    simp [hname] at this

/-- A directory is walked through. -/
theorem enter (hname : isHidden name = false) (hnode : node.isDirectory = true)
    {r : Except Refusal (List Path)} (h : Walked (dir.join ⟨name⟩) node r) :
    Walked dir (.directory [(name, node)]) r := by
  cases r with
  | error r =>
    obtain ⟨ns, hp, h⟩ := h
    exact ⟨name :: ns, hp, .enter (List.mem_singleton_self _) hname h⟩
  | ok ps =>
    obtain ⟨hbar, nss, rfl, hnss, hnodup⟩ := h
    refine ⟨?_, nss.map (name :: ·), by rw [List.map_map]; rfl, fun ns => ?_, fun hwf => ?_⟩
    · rintro ⟨ns, e, h⟩
      obtain ⟨-, rest, -, h⟩ := (reaches_singleton_iff (isLeaf_closed _ _)).1 h
      exact hbar ⟨rest, e, h⟩
    · simp only [List.mem_map, candidate_singleton_iff hname hnode, hnss, eq_comm, and_comm]
    · have hwf := (hwf.of_mem (List.mem_singleton_self _)).2
      exact (hnodup hwf).map fun _ _ h => (List.cons.inj h).2

/-- Anything else is found if it has the name of a YAML file. -/
theorem entry (hname : isHidden name = false) (hnode : node.isDirectory = false) :
    Walked dir (.directory [(name, node)])
      (.ok (if isYaml name then [dir.join ⟨name⟩] else [])) := by
  have hreach {ns : List String} {n : Node} (hn : IsLeaf n) :
      Reaches (.directory [(name, node)]) ns n ↔ ns = [name] ∧ n = node := by
    simp only [reaches_singleton_iff hn, hname, true_and,
      reaches_leaf_iff (isLeaf_of_not_isDirectory hnode)]
    constructor
    · rintro ⟨rest, rfl, rfl, rfl⟩
      exact ⟨rfl, rfl⟩
    · rintro ⟨rfl, rfl⟩
      exact ⟨[], rfl, rfl, rfl⟩
  refine ⟨?_, if isYaml name then [[name]] else [], by split <;> rfl, fun ns => ?_,
    fun _ => by split <;> simp⟩
  · rintro ⟨ns, e, h⟩
    obtain ⟨-, rfl⟩ := (hreach (isLeaf_closed _ _)).1 h
    cases hnode
  · constructor
    · intro h
      split at h
      case isTrue hyaml =>
        obtain rfl := List.mem_singleton.1 h
        exact ⟨node, (hreach (isLeaf_of_not_isDirectory hnode)).2 ⟨rfl, rfl⟩, hnode, by simpa⟩
      case isFalse => exact absurd h List.not_mem_nil
    · rintro ⟨n, h, hn, hns⟩
      obtain ⟨rfl, rfl⟩ := (hreach (isLeaf_of_not_isDirectory hn)).1 h
      have hyaml : isYaml name = true := by simpa using hns
      simp [hyaml]

theorem leaf (hnode : IsLeaf node) (hclosed : ∀ e, node ≠ .closed true e) :
    Walked dir node (.ok []) := by
  refine ⟨?_, [], rfl, fun ns => ⟨fun h => absurd h List.not_mem_nil, ?_⟩, fun _ => .nil⟩
  · rintro ⟨ns, e, h⟩
    exact hclosed e ((reaches_leaf_iff hnode).1 h).2.symm
  · rintro ⟨n, h, -, hns⟩
    obtain ⟨rfl, rfl⟩ := (reaches_leaf_iff hnode).1 h
    simp at hns

theorem empty : Walked dir (.directory []) (.ok []) := by
  have hreach {ns : List String} {n : Node} (hn : IsLeaf n) :
      ¬ Reaches (.directory []) ns n := by
    rintro (_ | ⟨hm, -, -⟩)
    · exact absurd rfl (hn _)
    · exact absurd hm List.not_mem_nil
  refine ⟨?_, [], rfl, fun ns => ⟨fun h => absurd h List.not_mem_nil, ?_⟩, fun _ => .nil⟩
  · rintro ⟨ns, e, h⟩
    exact (hreach (isLeaf_closed _ _) h).elim
  · rintro ⟨n, h, hn, -⟩
    exact (hreach (isLeaf_of_not_isDirectory hn) h).elim

end Walked

/-- **A walk finds the candidates**, or a directory that cannot be listed. -/
theorem walked_below (dir : Path) (root : Node) : Walked dir root (below dir root) := by
  -- The induction follows the walk: over nodes, and over what is left of a list of entries, which
  -- is then taken for a directory of its own.
  refine below.induct (fun dir root => Walked dir root (below dir root))
    (fun dir entries => Walked dir (.directory entries) (belowAll dir entries))
    ?directory ?closed ?leaf ?nil ?hidden ?inner ?entry dir root
  case directory => exact fun dir entries h => h
  case closed => exact fun dir e => ⟨[], rfl, .here _⟩
  case leaf =>
    intro node dir hnode hclosed
    rw [below.eq_3 dir node hnode hclosed]
    exact .leaf hnode hclosed
  case nil => exact fun dir => .empty
  case hidden =>
    intro dir name node entries hname ih
    rw [belowAll, if_pos hname]
    exact (Walked.hidden hname).cons ih
  case inner =>
    intro dir name node entries hname hnode ih ihnode
    rw [belowAll, if_neg hname, if_pos hnode]
    exact (Walked.enter (by simpa using hname) hnode ihnode).cons ih
  case entry =>
    intro dir name node entries hname hnode ih
    rw [belowAll, if_neg hname, if_neg hnode]
    exact (Walked.entry (by simpa using hname) (by simpa using hnode)).cons ih

/-! ## Paths below a directory -/

theorem isEmpty_pathOf {dir : Path} (h : dir.isEmpty = false) (ns : List String) :
    (pathOf dir ns).isEmpty = false := by
  induction ns generalizing dir with
  | nil => exact h
  | cons name ns ih => exact ih (Path.isEmpty_join_of_left h _)

/-! ## The files -/

section
variable (disk : Disk) (cwd : WorkingDir)

theorem value_inputFile_of_error (base : Path) {p : Path} {e : IoError}
    (h : disk.read cwd.path p = .error e) :
    (inputFile disk cwd base p).value = .error (.unreadable p e) := by
  simp only [inputFile, h, Logged.value_pure]

theorem value_inputFile_of_ok (base : Path) {p : Path} {u : FileUri} {content : List UInt8}
    (hu : FileUri.ofPath cwd p = .ok u) (h : disk.read cwd.path p = .ok content) :
    (inputFile disk cwd base p).value =
      .ok ⟨key base p, u.toPath, u, yaml, some (Text.Lines.count content)⟩ := by
  simp only [inputFile, h, InputFile.create_of_ofPath hu yaml, Logged.value_bind,
    Logged.value_pure]
  rfl

theorem value_addAll_cons {s : FileSet} {p : Path} {file : InputFile}
    (h : (inputFile disk cwd s.baseDir p).value = .ok file) (ps : List Path) :
    (addAll disk cwd s (p :: ps)).value = (addAll disk cwd (s.add file) ps).value := by
  simp only [addAll, Logged.value_bind, h]

/-- **One file for each path**, or the first that cannot be read. -/
theorem value_addAll {s : FileSet} (hs : s.Built) {ps : List Path}
    (hps : ∀ p ∈ ps, p.isEmpty = false) :
    (∃ p ∈ ps, ∃ e, disk.read cwd.path p = .error e ∧
        (addAll disk cwd s ps).value = .error (.unreadable p e)) ∨
      (∀ p ∈ ps, ∀ e, disk.read cwd.path p ≠ .error e) ∧
        ∃ files : FileSet, (addAll disk cwd s ps).value = .ok files ∧ files.Built := by
  induction ps generalizing s with
  | nil => exact .inr ⟨fun p hp => absurd hp List.not_mem_nil, s, rfl, hs⟩
  | cons p ps ih =>
    cases hread : disk.read cwd.path p with
    | error e =>
      refine .inl ⟨p, List.mem_cons_self, e, hread, ?_⟩
      simp only [addAll, Logged.value_bind, value_inputFile_of_error disk cwd s.baseDir hread,
        Logged.value_pure]
    | ok content =>
      have hu := FileUri.ofPath_of_not_isEmpty cwd (hps p List.mem_cons_self)
      have hbuilt := (InputFile.Built.create (InputFile.create_of_ofPath hu yaml)).withKey
        (key s.baseDir p) |>.withLines (Text.Lines.count content)
      rw [value_addAll_cons disk cwd (value_inputFile_of_ok disk cwd s.baseDir hu hread)]
      rcases ih (hs.add hbuilt) fun q hq => hps q (List.mem_cons_of_mem _ hq) with h | ⟨hall, h⟩
      · obtain ⟨q, hq, e, h⟩ := h
        exact .inl ⟨q, List.mem_cons_of_mem _ hq, e, h⟩
      · refine .inr ⟨fun q hq => ?_, h⟩
        rcases List.mem_cons.1 hq with rfl | hq
        · simp [hread]
        · exact hall q hq

end

end Collect

namespace FileSet

open Collect

variable (disk : Disk) (cwd : WorkingDir) (base : Path)

/-- The tree at `base` cannot be walked, or a candidate in it cannot be read. -/
def Unreadable (disk : Disk) (cwd : WorkingDir) (base : Path) : Prop :=
  ∃ root, disk.node cwd.path base = .ok root ∧
    (Barred root ∨ ∃ ns e, Candidate root ns ∧ disk.read cwd.path (pathOf base ns) = .error e)

theorem isEmpty_of_node {base : Path} {root : Node} (h : disk.node cwd.path base = .ok root) :
    base.isEmpty = false := by
  rw [Bool.eq_false_iff]
  intro he
  simp [Disk.node, Disk.locate, he] at h

theorem value_collect_of_not_isDirectory (h : disk.isDirectory cwd.path base = false) :
    (collect disk cwd base).value = .error (.notADirectory base) := by
  unfold Disk.isDirectory at h
  unfold collect
  cases hnode : disk.node cwd.path base with
  | error e => rfl
  | ok root =>
    simp only [hnode] at h
    simp only [h, Bool.false_eq_true, if_false, Logged.value_pure]

/-- **Collecting a directory** fails when the tree cannot be read, and in no other case. -/
theorem value_collect_of_isDirectory (h : disk.isDirectory cwd.path base = true) :
    (Unreadable disk cwd base ∧ ∃ p e, (collect disk cwd base).value = .error (.unreadable p e)) ∨
      ¬ Unreadable disk cwd base ∧
        ∃ files : FileSet, (collect disk cwd base).value = .ok files ∧ files.Built := by
  unfold Disk.isDirectory at h
  cases hnode : disk.node cwd.path base with
  | error e => simp [hnode] at h
  | ok root =>
    simp only [hnode] at h
    have hunreadable : Unreadable disk cwd base ↔ Barred root ∨
        ∃ ns e, Candidate root ns ∧ disk.read cwd.path (pathOf base ns) = .error e := by
      simp [Unreadable, hnode]
    have hwalked := walked_below base root
    cases hbelow : below base root with
    | error r =>
      rw [hbelow] at hwalked
      obtain ⟨ns, -, hns⟩ := hwalked
      refine .inl ⟨hunreadable.2 (.inl ⟨ns, r.2, hns⟩), r.1, r.2, ?_⟩
      simp [collect, hnode, h, hbelow]
    | ok ps =>
      rw [hbelow] at hwalked
      obtain ⟨hbarred, nss, rfl, hnss, -⟩ := hwalked
      have hpaths {p : Path} : p ∈ (nss.map (pathOf base)).mergeSort pathLe ↔
          ∃ ns, Candidate root ns ∧ pathOf base ns = p := by
        simp only [List.mem_mergeSort, List.mem_map, hnss]
      have hvalue : (collect disk cwd base).value =
          (addAll disk cwd (.empty base) ((nss.map (pathOf base)).mergeSort pathLe)).value := by
        simp [collect, hnode, h, hbelow]
      have hne : ∀ p ∈ (nss.map (pathOf base)).mergeSort pathLe, p.isEmpty = false := by
        intro p hp
        obtain ⟨ns, -, rfl⟩ := hpaths.1 hp
        exact isEmpty_pathOf (isEmpty_of_node disk cwd hnode) ns
      rw [hvalue]
      rcases value_addAll disk cwd (.empty base) hne with hadded | ⟨hread, hadded⟩
      · obtain ⟨p, hp, e, hread, hadded⟩ := hadded
        obtain ⟨ns, hns, rfl⟩ := hpaths.1 hp
        exact .inl ⟨hunreadable.2 (.inr ⟨ns, e, hns, hread⟩), _, e, hadded⟩
      · refine .inr ⟨fun hn => ?_, hadded⟩
        rcases hunreadable.1 hn with hn | ⟨ns, e, hns, he⟩
        · exact hbarred hn
        · exact hread _ (hpaths.2 ⟨ns, hns, rfl⟩) e he

end FileSet

end PlaybookScan

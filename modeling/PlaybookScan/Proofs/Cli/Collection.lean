import Mathlib.Data.List.Forall2
import PlaybookScan.Proofs.Cli.Paths

/-!
# What is collected

`IsYamlEntry root ns` says which names lead to a YAML file without any walk: the place that they
name is looked up in the tree. In a well-formed tree these are the candidates (`candidate_iff`).
Their files have different URIs, so that none of them replaces another one on the way into the set
(`value_addAll_of_read`), and the set holds one file for each, in the order of their names
(`collect_finds`). The order in which the directories are listed has no part in this
(`collect_of_relisted`): the candidates are the same, and they are sorted.
-/

set_option autoImplicit false

namespace PlaybookScan

namespace Collect

open PlaybookScan.Path

/-! ## YAML files of a tree -/

/-- The names lead to something that is no directory, without following links. None of them starts
with a dot, and the last one ends in `.yml` or `.yaml`, in letters of any case. -/
structure IsYamlEntry (root : Node) (ns : List String) : Prop where
  found : ∃ n, root.get? ns = some n ∧ n.isDirectory = false
  visible : ∀ name ∈ ns, name.toList.head? ≠ some '.'
  extension : ∃ dirs stem ext, ns = dirs ++ [stem ++ "." ++ ext] ∧ stem ≠ "" ∧
    ext.toLower ∈ ["yml", "yaml"]

/-- The extension is what stands behind the last dot, if something stands before it. -/
theorem extension?_eq_some_iff {name ext : String} : extension? name = some ext ↔
    ∃ stem, name = stem ++ "." ++ ext ∧ stem ≠ "" ∧ '.' ∉ ext.toList := by
  -- Read from its end, a name starts with the extension; the first dot comes behind it.
  constructor
  · intro h
    simp only [extension?] at h
    split at h
    case h_1 d ds hdrop =>
      have hext := Option.some.inj h
      have hsplit := name.toList.reverse.takeWhile_append_dropWhile (p := (· != '.'))
      have hname : name.toList = (d :: ds).reverse ++ '.' :: ext.toList := by
        rw [← name.toList.reverse_reverse, ← hsplit, hdrop, ← hext]
        simp
      refine ⟨String.ofList (d :: ds).reverse, String.toList_injective (by simp [hname]), by simp,
        fun hdot => ?_⟩
      rw [← hext, String.toList_ofList, List.mem_reverse] at hdot
      exact absurd (List.all_eq_true.1 List.all_takeWhile _ hdot) (by decide)
    case h_2 => cases h
  · rintro ⟨stem, rfl, hstem, hdot⟩
    have hplain : ∀ c ∈ ext.toList.reverse, (c != '.') = true := by
      intro c hc
      exact bne_iff_ne.2 fun he => hdot (List.mem_reverse.1 (he ▸ hc))
    obtain ⟨c, cs, hstem⟩ := List.exists_cons_of_ne_nil
      (mt List.reverse_eq_nil_iff.1 (mt String.toList_eq_nil_iff.1 hstem))
    simp [extension?, List.takeWhile_append_of_pos hplain,
      List.dropWhile_append_of_pos hplain, hstem]

theorem toList_toLower (s : String) : s.toLower.toList = s.toList.map Char.toLower :=
  String.toList_map

theorem isYaml_iff {name : String} : isYaml name = true ↔
    ∃ stem ext, name = stem ++ "." ++ ext ∧ stem ≠ "" ∧ ext.toLower ∈ ["yml", "yaml"] := by
  have hlower (ext : String) :
      (Text.eqIgnoreCase ext "yml" || Text.eqIgnoreCase ext "yaml") = true ↔
        ext.toLower ∈ ["yml", "yaml"] := by
    rw [Bool.or_eq_true, Text.eqIgnoreCase_iff (by decide), Text.eqIgnoreCase_iff (by decide)]
    simp
  simp only [isYaml, Option.any_eq_true, extension?_eq_some_iff, hlower]
  constructor
  · rintro ⟨ext, ⟨stem, hname, hstem, -⟩, hext⟩
    exact ⟨stem, ext, hname, hstem, hext⟩
  · rintro ⟨stem, ext, hname, hstem, hext⟩
    refine ⟨ext, ⟨stem, hname, hstem, fun hdot => ?_⟩, hext⟩
    have hm : '.' ∈ ext.toLower.toList := by
      rw [toList_toLower]
      exact List.mem_map.2 ⟨'.', hdot, rfl⟩
    simp only [List.mem_cons, List.not_mem_nil, or_false] at hext
    rcases hext with h | h <;> simp [h] at hm

theorem reaches_iff {root : Node} (hwf : root.WellFormed) {ns : List String} {n : Node} :
    Reaches root ns n ↔ (∀ name ∈ ns, isHidden name = false) ∧ root.get? ns = some n := by
  constructor
  · intro h
    induction h with
    | here n => exact ⟨fun _ hm => absurd hm List.not_mem_nil, rfl⟩
    | @enter entries name child n ns hm hname h ih =>
      obtain ⟨hvisible, hget⟩ := ih (hwf.of_mem hm).2
      refine ⟨List.forall_mem_cons.2 ⟨hname, hvisible⟩, ?_⟩
      rw [Node.get?, Node.child?, (Node.lookup_eq_some_iff hwf.nodup).2 hm]
      exact hget
  · rintro ⟨hvisible, hget⟩
    induction ns generalizing root with
    | nil =>
      obtain rfl := Option.some.inj hget
      exact .here _
    | cons name ns ih =>
      obtain ⟨hname, hvisible⟩ := List.forall_mem_cons.1 hvisible
      obtain ⟨child, hchild, hrest⟩ := Option.bind_eq_some_iff.1 hget
      cases root with
      | directory entries =>
        have hm := (Node.lookup_eq_some_iff hwf.nodup).1 hchild
        exact .enter hm hname (ih (hwf.of_mem hm).2 hvisible hrest)
      | _ => cases hchild

theorem candidate_iff {root : Node} (hwf : root.WellFormed) {ns : List String} :
    Candidate root ns ↔ IsYamlEntry root ns := by
  have hhidden (name : String) : isHidden name = false ↔ name.toList.head? ≠ some '.' := by
    rw [isHidden, beq_eq_false_iff_ne]
  have hyaml : ns.getLast?.any isYaml = true ↔ ∃ dirs stem ext,
      ns = dirs ++ [stem ++ "." ++ ext] ∧ stem ≠ "" ∧ ext.toLower ∈ ["yml", "yaml"] := by
    simp only [Option.any_eq_true, List.getLast?_eq_some_iff, isYaml_iff]
    constructor
    · rintro ⟨name, ⟨dirs, hns⟩, stem, ext, rfl, hext⟩
      exact ⟨dirs, stem, ext, hns, hext⟩
    · rintro ⟨dirs, stem, ext, hns, hext⟩
      exact ⟨_, ⟨dirs, hns⟩, stem, ext, rfl, hext⟩
  simp only [Candidate, reaches_iff hwf, hhidden, hyaml]
  constructor
  · rintro ⟨n, ⟨hvisible, hget⟩, hn, hext⟩
    exact ⟨⟨n, hget, hn⟩, hvisible, hext⟩
  · rintro ⟨⟨n, hget, hn⟩, hvisible, hext⟩
    exact ⟨n, ⟨hvisible, hget⟩, hn, hext⟩

theorem IsYamlEntry.relisted {root root' : Node} (h : root.Relisted root') (hwf : root.WellFormed)
    {ns : List String} (hns : IsYamlEntry root ns) : IsYamlEntry root' ns := by
  obtain ⟨n, hget, hn⟩ := hns.found
  have hsame := Node.Relisted.eq_some_of_leaf (h.get? hwf ns) hget (isLeaf_of_not_isDirectory hn)
  exact ⟨⟨n, hsame, hn⟩, hns.visible, hns.extension⟩

/-! ## The file of one entry -/

/-- What is made of the file that the names lead to. -/
structure IsFileOf (disk : Disk) (cwd : WorkingDir) (base : Path) (ns : List String)
    (file : InputFile) : Prop where
  key_eq : file.key = "/".intercalate ns
  language_eq : file.language = "yaml"
  resolve_key : FileUri.resolve cwd base file.key = .ok file.uri
  path_eq : file.path = file.uri.toPath
  lines_eq : ∃ content, disk.read cwd.path (pathOf base ns) = .ok content ∧
    file.lines = some (Text.Lines.count content)

section
variable (disk : Disk) (cwd : WorkingDir) {base : Path} (hbase : base.isEmpty = false)
include hbase

theorem exists_isFileOf {ns : List String} (hns : ∀ name ∈ ns, IsName name) {content : List UInt8}
    (hread : disk.read cwd.path (pathOf base ns) = .ok content) :
    ∃ file, (inputFile disk cwd base (pathOf base ns)).value = .ok file ∧
      IsFileOf disk cwd base ns file := by
  have huri := FileUri.ofPath_of_not_isEmpty cwd (isEmpty_pathOf hbase ns)
  have hkey := key_pathOf hbase hns
  refine ⟨_, value_inputFile_of_ok disk cwd base huri hread, hkey, rfl, ?_, rfl, content, hread,
    rfl⟩
  rw [hkey, Collect.resolve_key hbase hns, huri]

theorem value_addAll_of_read {s : FileSet} (hs : s.baseDir = base) {nss : List (List String)}
    (hnames : ∀ ns ∈ nss, ∀ name ∈ ns, IsName name)
    (hread : ∀ ns ∈ nss, ∃ content, disk.read cwd.path (pathOf base ns) = .ok content) :
    ∃ files : List InputFile,
      (addAll disk cwd s (nss.map (pathOf base))).value = .ok (files.foldl FileSet.add s) ∧
        List.Forall₂ (IsFileOf disk cwd base) nss files := by
  induction nss generalizing s with
  | nil => exact ⟨[], rfl, .nil⟩
  | cons ns nss ih =>
    obtain ⟨content, hcontent⟩ := hread ns List.mem_cons_self
    obtain ⟨file, hfile, hof⟩ :=
      exists_isFileOf disk cwd hbase (hnames ns List.mem_cons_self) hcontent
    obtain ⟨files, hvalue, hfiles⟩ := ih (s := s.add file) hs
      (fun ms hms => hnames ms (List.mem_cons_of_mem _ hms))
      fun ms hms => hread ms (List.mem_cons_of_mem _ hms)
    refine ⟨file :: files, ?_, .cons hof hfiles⟩
    subst hs
    rw [List.map_cons, value_addAll_cons disk cwd hfile]
    exact hvalue

end

section
variable {disk : Disk} {cwd : WorkingDir} {base : Path} {nss : List (List String)}
  {files : List InputFile} (hfiles : List.Forall₂ (IsFileOf disk cwd base) nss files)
include hfiles

theorem map_resolve_key : (files.map InputFile.key).map (FileUri.resolve cwd base) =
    (files.map InputFile.uri).map .ok := by
  induction hfiles with
  | nil => rfl
  | cons hof _ ih => simp only [List.map_cons, hof.resolve_key, ih]

variable (hbase : base.isEmpty = false) (hnames : ∀ ns ∈ nss, ∀ name ∈ ns, IsName name)
include hbase hnames

theorem map_ok_uri : (files.map InputFile.uri).map .ok =
    nss.map fun ns => FileUri.ofPath cwd (pathOf base ns) := by
  induction hfiles with
  | nil => rfl
  | @cons ns f nss files hof _ ih =>
    obtain ⟨hns, hnames⟩ := List.forall_mem_cons.1 hnames
    rw [List.map_cons, List.map_cons, List.map_cons, ih hnames, ← hof.resolve_key, hof.key_eq,
      Collect.resolve_key hbase hns]

/-- **No two files have the same URI.** -/
theorem nodup_uris (hnodup : nss.Nodup) : (files.map InputFile.uri).Nodup := by
  have hok : (nss.map fun ns => FileUri.ofPath cwd (pathOf base ns)).Nodup :=
    hnodup.map_on fun ns hns ms hms h => pathOf_inj cwd hbase (hnames ns hns) (hnames ms hms) h
  exact (map_ok_uri hfiles hbase hnames ▸ hok).of_map

end

/-! ## The order of listings -/

section
variable {disk disk' : Disk} (h : disk.top.Relisted disk'.top) (hwf : disk.top.WellFormed)
include h hwf

theorem addAll_of_relisted (cwd : WorkingDir) (s : FileSet) (ps : List Path) :
    addAll disk' cwd s ps = addAll disk cwd s ps := by
  induction ps generalizing s with
  | nil => rfl
  | cons p ps ih =>
    have hfile : inputFile disk' cwd s.baseDir p = inputFile disk cwd s.baseDir p := by
      rw [inputFile, inputFile, Disk.read_of_relisted cwd.path p h hwf]
    rw [addAll, addAll, hfile]
    simp only [ih]

end

end Collect

namespace FileSet

open Collect

section
variable {disk : Disk} {cwd : WorkingDir} {base : Path} {root : Node}
  (hwf : disk.top.WellFormed) (hnode : disk.node cwd.path base = .ok root)
include hwf hnode

theorem wellFormed_of_node : root.WellFormed := by
  obtain ⟨place, hplace⟩ := Disk.exists_get?_of_node _ _ _ hnode
  exact (hwf.of_get? hplace).2

variable (hdir : root.isDirectory = true) (hbarred : ¬ Barred root)
include hdir hbarred

/-- Collecting adds the files of all entries, in the order of their names. -/
theorem exists_collect_eq : ∃ nss : List (List String), nss.Nodup ∧
    (∀ ns, ns ∈ nss ↔ IsYamlEntry root ns) ∧ (∀ ns ∈ nss, ∀ name ∈ ns, Path.IsName name) ∧
    collect disk cwd base =
      addAll disk cwd (.empty base) ((nss.mergeSort namesLe).map (pathOf base)) := by
  have hroot := wellFormed_of_node hwf hnode
  have hwalked := walked_below base root
  cases hbelow : below base root with
  | error r =>
    rw [hbelow] at hwalked
    obtain ⟨ns, -, hns⟩ := hwalked
    exact absurd ⟨ns, r.2, hns⟩ hbarred
  | ok ps =>
    rw [hbelow] at hwalked
    obtain ⟨-, nss, rfl, hnss, hnodup⟩ := hwalked
    have hentry (ns : List String) : ns ∈ nss ↔ IsYamlEntry root ns :=
      (hnss ns).trans (candidate_iff hroot)
    have hnames : ∀ ns ∈ nss, ∀ name ∈ ns, Path.IsName name := by
      intro ns hns
      obtain ⟨n, hget, -⟩ := ((hentry ns).1 hns).found
      exact (hroot.of_get? hget).1
    refine ⟨nss, hnodup hroot, hentry, hnames, ?_⟩
    rw [← mergeSort_map_pathOf (isEmpty_of_node disk cwd hnode) hnames]
    simp only [collect, hnode, hdir, hbelow, if_true]

/-- **The order of listings does not matter.** -/
theorem collect_of_relisted {disk' : Disk} (h : disk.top.Relisted disk'.top) :
    collect disk' cwd base = collect disk cwd base := by
  have hroot := wellFormed_of_node hwf hnode
  have hwf' := h.wellFormed hwf
  obtain ⟨root', hnode', hrel⟩ : ∃ root', disk'.node cwd.path base = .ok root' ∧
      root.Relisted root' := by
    rcases Disk.relisted_node cwd.path base h hwf with ⟨e, he, -⟩ | ⟨m, n, hm, hn, hmn⟩
    · rw [hnode] at he
      cases he
    · rw [hnode] at hm
      obtain rfl := Except.ok.inj hm
      exact ⟨n, hn, hmn⟩
  have hroot' := hrel.wellFormed hroot
  have hbarred' : ¬ Barred root' := by
    rintro ⟨ns, e, hns⟩
    obtain ⟨hvisible, hget⟩ := (reaches_iff hroot').1 hns
    have hsame := Node.Relisted.eq_some_of_leaf (hrel.symm.get? hroot' ns) hget nofun
    exact hbarred ⟨ns, e, (reaches_iff hroot).2 ⟨hvisible, hsame⟩⟩
  obtain ⟨nss, hnodup, hentry, -, hcollect⟩ := exists_collect_eq hwf hnode hdir hbarred
  obtain ⟨mss, hnodup', hentry', -, hcollect'⟩ :=
    exists_collect_eq hwf' hnode' (hrel.isDirectory ▸ hdir) hbarred'
  have hperm : mss.Perm nss := by
    refine (List.perm_ext_iff_of_nodup hnodup' hnodup).2 fun ns => ?_
    rw [hentry, hentry']
    exact ⟨.relisted hrel.symm hroot', .relisted hrel hroot⟩
  rw [hcollect, hcollect', mergeSort_eq_of_perm hperm, addAll_of_relisted h hwf]

end

/-- **Collecting finds just the YAML files**, if all that it has to read can be read: in the order
of the bytes of their names, each under a key made of these names, which leads back to it. The order
in which directories are listed makes no difference. -/
theorem collect_finds {disk : Disk} {cwd : WorkingDir} {base : Path} {root : Node}
    (hwf : disk.top.WellFormed) (hnode : disk.node cwd.path base = .ok root)
    (hdir : root.isDirectory = true) (hread : ¬ Unreadable disk cwd base) :
    ∃ nss files, (collect disk cwd base).value = .ok ⟨base, files⟩ ∧
      (∀ ns, ns ∈ nss ↔ IsYamlEntry root ns) ∧
      nss.Pairwise (fun ns ms => nameBytes ns < nameBytes ms) ∧
      List.Forall₂ (IsFileOf disk cwd base) nss files ∧
      (files.map InputFile.key).Nodup ∧ (files.map InputFile.uri).Nodup ∧
      ∀ disk' : Disk, disk.top.Relisted disk'.top →
        collect disk' cwd base = collect disk cwd base := by
  have hbase := isEmpty_of_node disk cwd hnode
  have hbarred : ¬ Barred root := fun h => hread ⟨root, hnode, .inl h⟩
  obtain ⟨nss, hnodup, hentry, hnames, hcollect⟩ := exists_collect_eq hwf hnode hdir hbarred
  have hperm := List.mergeSort_perm nss namesLe
  have hcontent : ∀ ns ∈ nss.mergeSort namesLe,
      ∃ content, disk.read cwd.path (pathOf base ns) = .ok content := by
    intro ns hns
    have hcandidate := (candidate_iff (wellFormed_of_node hwf hnode)).2
      ((hentry ns).1 (hperm.mem_iff.1 hns))
    cases h : disk.read cwd.path (pathOf base ns) with
    | ok content => exact ⟨content, rfl⟩
    | error e => exact absurd ⟨root, hnode, .inr ⟨ns, e, hcandidate, h⟩⟩ hread
  have hnames' : ∀ ns ∈ nss.mergeSort namesLe, ∀ name ∈ ns, Path.IsName name :=
    fun ns hns => hnames ns (hperm.mem_iff.1 hns)
  obtain ⟨files, hvalue, hfiles⟩ := value_addAll_of_read disk cwd hbase (s := .empty base) rfl
    hnames' hcontent
  have huris := nodup_uris hfiles hbase hnames' (hperm.nodup_iff.2 hnodup)
  refine ⟨nss.mergeSort namesLe, files, ?value, fun ns => hperm.mem_iff.trans (hentry ns),
    pairwise_mergeSort_namesLe hnodup, hfiles, ?keys, huris,
    fun disk' h => collect_of_relisted hwf hnode hdir hbarred h⟩
  case value =>
    rw [hcollect, hvalue, foldl_add_of_nodup (s := .empty base) huris]
    rfl
  case keys =>
    exact (map_resolve_key hfiles ▸ huris.map fun _ _ => Except.ok.inj).of_map

/-! A directory with the name of a YAML file, a link into it and one to it, and a hidden directory,
seen from a directory next to all of them. -/

def playbooks : Node := .directory
  [("a.yml-1.YML", .link "a.yml/b.yaml"), (".git", .directory [("c.yml", .file [] 0o644)]),
    ("d", .link "a.yml"), ("a.yml", .directory [("b.yaml", .file [97] 0o644)])]

def playbookDisk : Disk := ⟨.directory [("w", .directory []), ("p", playbooks)]⟩

theorem wellFormed_playbookDisk : playbookDisk.top.WellFormed := by
  have hdirectory (name : String) (hname : Path.IsName name) (content : List UInt8) :
      (Node.directory [(name, .file content 0o644)]).WellFormed :=
    .directory (by simpa) (List.nodup_singleton _) (by simpa using .leaf nofun)
  have hplaybooks : playbooks.WellFormed := by
    refine .directory (by decide) (by decide) ?_
    simpa using ⟨.leaf nofun, hdirectory _ (by decide) _, .leaf nofun, hdirectory _ (by decide) _⟩
  refine .directory (by decide) (by decide) ?_
  simpa using ⟨.directory nofun .nil nofun, hplaybooks⟩

theorem node_playbooks : playbookDisk.node ⟨"/w"⟩ ⟨"../p/."⟩ = .ok playbooks := by
  have hsteps : Disk.steps ((⟨"/w"⟩ : Path).join ⟨"../p/."⟩).text.toList =
      [.enter "w", .up, .enter "p", .stay] := by
    decide +kernel
  simp only [Disk.node, Disk.locate, hsteps, Disk.go]
  rfl

theorem read_playbooks : playbookDisk.read ⟨"/w"⟩ ⟨"../p/./a.yml/b.yaml"⟩ = .ok [97] ∧
    playbookDisk.read ⟨"/w"⟩ ⟨"../p/./a.yml-1.YML"⟩ = .ok [97] := by
  have hfile : Disk.steps ((⟨"/w"⟩ : Path).join ⟨"../p/./a.yml/b.yaml"⟩).text.toList =
      [.enter "w", .up, .enter "p", .stay, .enter "a.yml", .enter "b.yaml"] := by
    decide +kernel
  have hlink : Disk.steps ((⟨"/w"⟩ : Path).join ⟨"../p/./a.yml-1.YML"⟩).text.toList =
      [.enter "w", .up, .enter "p", .stay, .enter "a.yml-1.YML"] := by
    decide +kernel
  have htarget : Disk.steps "a.yml/b.yaml".toList = [.enter "a.yml", .enter "b.yaml"] := by
    decide +kernel
  have hfollow : Disk.go playbookDisk.top true Disk.maxLinks []
      [.enter "w", .up, .enter "p", .stay, .enter "a.yml-1.YML"] =
        Disk.go playbookDisk.top true 39 ["p"] (Disk.steps "a.yml/b.yaml".toList ++ []) := by
    simp only [Disk.go]
    rfl
  constructor
  · simp only [Disk.read, Disk.node, Disk.locate, hfile, Disk.go]
    rfl
  · simp only [Disk.read, Disk.node, Disk.locate, hlink, hfollow, htarget, List.append_nil,
      Disk.go]
    rfl

theorem not_unreadable_playbooks :
    ¬ Unreadable playbookDisk ⟨⟨"/w"⟩, rfl⟩ ⟨"../p/."⟩ := by
  have hwalked := walked_below ⟨"../p/."⟩ playbooks
  have hbelow : below ⟨"../p/."⟩ playbooks =
      .ok [⟨"../p/./a.yml-1.YML"⟩, ⟨"../p/./a.yml/b.yaml"⟩] := by
    decide +kernel
  rw [hbelow] at hwalked
  obtain ⟨hbarred, nss, hpaths, hnss, -⟩ := hwalked
  rintro ⟨root, hnode, hbad⟩
  obtain rfl := Except.ok.inj (node_playbooks.symm.trans hnode)
  rcases hbad with hbad | ⟨ns, e, hns, he⟩
  · exact hbarred hbad
  · have hmem := List.mem_map_of_mem (f := pathOf ⟨"../p/."⟩) ((hnss ns).2 hns)
    rw [← hpaths] at hmem
    obtain ⟨hfile, hlink⟩ := read_playbooks
    simp only [List.mem_cons, List.not_mem_nil, or_false] at hmem
    rcases hmem with h | h <;> simp [h, hfile, hlink] at he

theorem collect_finds_playbooks :
    let cwd : WorkingDir := ⟨⟨"/w"⟩, rfl⟩
    let base : Path := ⟨"../p/."⟩
    let turned : Disk := ⟨.directory [("p", playbooks), ("w", .directory [])]⟩
    (playbookDisk.top.WellFormed ∧ playbookDisk.node cwd.path base = .ok playbooks ∧
      playbooks.isDirectory = true ∧ ¬ Unreadable playbookDisk cwd base ∧
      playbookDisk.top.Relisted turned.top) ∧
      ∃ nss files, (collect playbookDisk cwd base).value = .ok ⟨base, files⟩ ∧
        (collect turned cwd base).value = .ok ⟨base, files⟩ ∧
        List.Forall₂ (IsFileOf playbookDisk cwd base) nss files ∧
        nss.Pairwise (fun ns ms => nameBytes ns < nameBytes ms) ∧
        ["a.yml", "b.yaml"] ∈ nss ∧ ["a.yml-1.YML"] ∈ nss ∧
        [".git", "c.yml"] ∉ nss ∧ ["d", "b.yaml"] ∉ nss ∧ ["a.yml"] ∉ nss := by
  intro cwd base turned
  have hturned : playbookDisk.top.Relisted turned.top := by
    refine .directory (by decide) fun name m n hm hn => ?_
    simp only [List.mem_cons, Prod.mk.injEq, List.not_mem_nil, or_false] at hm hn
    rcases hm with ⟨rfl, rfl⟩ | ⟨rfl, rfl⟩ <;> rcases hn with ⟨h, rfl⟩ | ⟨h, rfl⟩
    · simp at h
    · exact .refl _
    · exact .refl _
    · simp at h
  obtain ⟨nss, files, hvalue, hentry, hsorted, hfiles, -, -, horder⟩ :=
    @collect_finds playbookDisk cwd base playbooks wellFormed_playbookDisk node_playbooks rfl
      not_unreadable_playbooks
  have hvalue' : (collect turned cwd base).value = .ok ⟨base, files⟩ := by
    rw [horder turned hturned, hvalue]
  refine ⟨⟨wellFormed_playbookDisk, node_playbooks, rfl, not_unreadable_playbooks, hturned⟩,
    nss, files, hvalue, hvalue', hfiles, hsorted, ?_⟩
  have hlower : "yaml".toLower = "yaml" ∧ "YML".toLower = "yml" := by
    simp only [← String.toList_inj, toList_toLower]
    decide
  simp only [hentry]
  refine ⟨⟨⟨_, rfl, rfl⟩, by decide, ["a.yml"], "b", "yaml", rfl, by decide, by simp [hlower]⟩,
    ⟨⟨_, rfl, rfl⟩, by decide, [], "a.yml-1", "YML", rfl, by decide, by simp [hlower]⟩, ?_, ?_, ?_⟩
  · exact fun h => absurd (h.visible ".git" (by decide)) (by decide)
  · rintro ⟨⟨n, hget, -⟩, -, -⟩
    cases hget
  · rintro ⟨⟨n, hget, hn⟩, -, -⟩
    cases hget
    cases hn

end FileSet

end PlaybookScan

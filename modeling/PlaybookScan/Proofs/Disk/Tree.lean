import Mathlib.Data.List.Nodup
import PlaybookScan.Disk.Lookup
import PlaybookScan.Proofs.Path.Component

/-!
# Trees and listings

A tree is well formed if every directory of it lists names, each once (`Node.WellFormed`). The order
of the listings says nothing about the tree: `Node.Relisted m n` means that `m` and `n` are listed
in different orders at most. What one name leads to, then what a place holds, then what a path names
through all links is the same up to such an order (`Relisted.child?`, `Relisted.get?`,
`Disk.relisted_go`), and the bytes that are read are just the same (`Disk.read_of_relisted`).
-/

set_option autoImplicit false

namespace PlaybookScan

namespace Node

/-- Each directory lists names, and none of them twice. -/
inductive WellFormed : Node → Prop where
  | directory {entries : List (String × Node)} (hnames : ∀ x ∈ entries, Path.IsName x.1)
    (hnodup : (entries.map Prod.fst).Nodup) (h : ∀ x ∈ entries, WellFormed x.2) :
    WellFormed (.directory entries)
  | leaf {n : Node} (h : ∀ entries, n ≠ .directory entries) : WellFormed n

/-- The same tree: its directories hold the same names, with the same trees under them, but may be
listed in other orders. -/
inductive Relisted : Node → Node → Prop where
  | refl (n : Node) : Relisted n n
  | directory {es fs : List (String × Node)} (hnames : (es.map Prod.fst).Perm (fs.map Prod.fst))
    (h : ∀ name m n, (name, m) ∈ es → (name, n) ∈ fs → Relisted m n) :
    Relisted (.directory es) (.directory fs)

/-! ## Entries -/

theorem lookup_eq_some_iff {entries : List (String × Node)} (h : (entries.map Prod.fst).Nodup)
    {name : String} {n : Node} : entries.lookup name = some n ↔ (name, n) ∈ entries := by
  constructor
  · intro hl
    obtain ⟨before, after, rfl, -⟩ := List.lookup_eq_some_iff.1 hl
    simp
  · intro hm
    obtain ⟨before, after, rfl⟩ := List.append_of_mem hm
    refine List.lookup_eq_some_iff.2 ⟨before, after, rfl, fun x hx => ?_⟩
    rw [List.map_append, List.map_cons, List.nodup_append] at h
    have hne := h.2.2 x.1 (List.mem_map_of_mem hx) name List.mem_cons_self
    simpa using Ne.symm hne

namespace WellFormed

theorem of_mem {entries : List (String × Node)} (h : WellFormed (.directory entries))
    {name : String} {n : Node} (hm : (name, n) ∈ entries) : Path.IsName name ∧ n.WellFormed := by
  cases h with
  | directory hnames _ h => exact ⟨hnames _ hm, h _ hm⟩
  | leaf h => exact absurd rfl (h _)

theorem nodup {entries : List (String × Node)} (h : WellFormed (.directory entries)) :
    (entries.map Prod.fst).Nodup := by
  cases h with
  | directory _ hnodup _ => exact hnodup
  | leaf h => exact absurd rfl (h _)

theorem of_sublist {es entries : List (String × Node)} (h : WellFormed (.directory entries))
    (hes : es.Sublist entries) : WellFormed (.directory es) :=
  .directory (fun _ hx => (h.of_mem (hes.subset hx)).1) ((hes.map Prod.fst).nodup h.nodup)
    fun _ hx => (h.of_mem (hes.subset hx)).2

theorem of_child? {n k : Node} (h : n.WellFormed) {name : String} (hk : n.child? name = some k) :
    Path.IsName name ∧ k.WellFormed := by
  cases n with
  | directory entries => exact h.of_mem ((lookup_eq_some_iff h.nodup).1 hk)
  | _ => cases hk

theorem of_get? {n k : Node} (h : n.WellFormed) {ns : List String} (hk : n.get? ns = some k) :
    (∀ name ∈ ns, Path.IsName name) ∧ k.WellFormed := by
  induction ns generalizing n with
  | nil =>
    obtain rfl := Option.some.inj hk
    exact ⟨fun _ hm => absurd hm List.not_mem_nil, h⟩
  | cons name ns ih =>
    obtain ⟨child, hchild, hrest⟩ := Option.bind_eq_some_iff.1 hk
    obtain ⟨hname, hwf⟩ := h.of_child? hchild
    obtain ⟨hns, hk⟩ := ih hwf hrest
    exact ⟨List.forall_mem_cons.2 ⟨hname, hns⟩, hk⟩

end WellFormed

/-! ## Other orders -/

namespace Relisted

variable {m n : Node}

theorem symm (h : Relisted m n) : Relisted n m := by
  induction h with
  | refl n => exact .refl n
  | directory hnames _ ih => exact .directory hnames.symm fun name k l hk hl => ih name l k hl hk

theorem isDirectory (h : Relisted m n) : m.isDirectory = n.isDirectory := by
  cases h <;> rfl

theorem eq_of_leaf (h : Relisted m n) (hm : ∀ entries, m ≠ .directory entries) : n = m := by
  cases h with
  | refl => rfl
  | directory => exact absurd rfl (hm _)

theorem wellFormed (h : Relisted m n) (hm : m.WellFormed) : n.WellFormed := by
  induction h with
  | refl => exact hm
  | @directory es fs hnames _ ih =>
    have hentry : ∀ x ∈ fs, ∃ k, (x.1, k) ∈ es := by
      intro x hx
      obtain ⟨y, hy, hyx⟩ := List.mem_map.1 (hnames.mem_iff.2 (List.mem_map_of_mem hx))
      exact ⟨y.2, hyx ▸ hy⟩
    refine .directory (fun x hx => ?_) (hnames.nodup_iff.1 hm.nodup) fun x hx => ?_
    · obtain ⟨k, hk⟩ := hentry x hx
      exact (hm.of_mem hk).1
    · obtain ⟨k, hk⟩ := hentry x hx
      exact ih _ _ _ hk hx (hm.of_mem hk).2

theorem child? (h : Relisted m n) (hm : m.WellFormed) (name : String) :
    Option.Rel Relisted (m.child? name) (n.child? name) := by
  cases h with
  | refl =>
    cases m.child? name with
    | none => exact .none
    | some k => exact .some (.refl k)
  | @directory es fs hnames h =>
    have hes := hm.nodup
    have hfs := hnames.nodup_iff.1 hes
    change Option.Rel Relisted (es.lookup name) (fs.lookup name)
    cases hl : es.lookup name with
    | none =>
      have hnone : fs.lookup name = none := by
        rw [List.lookup_eq_none_iff] at hl ⊢
        intro x hx
        obtain ⟨y, hy, hyx⟩ := List.mem_map.1 (hnames.mem_iff.2 (List.mem_map_of_mem hx))
        rw [← hyx]
        exact hl y hy
      rw [hnone]
      exact .none
    | some k =>
      have hk := (lookup_eq_some_iff hes).1 hl
      obtain ⟨y, hy, hyx⟩ := List.mem_map.1 (hnames.mem_iff.1 (List.mem_map_of_mem hk))
      have hyk : (name, y.2) ∈ fs := by rwa [← show y.1 = name from hyx]
      rw [(lookup_eq_some_iff hfs).2 hyk]
      exact .some (h _ _ _ hk hyk)

theorem get? (h : Relisted m n) (hm : m.WellFormed) (ns : List String) :
    Option.Rel Relisted (m.get? ns) (n.get? ns) := by
  induction ns generalizing m n with
  | nil => exact .some h
  | cons name ns ih =>
    have hchild := h.child? hm name
    simp only [Node.get?]
    cases hk : m.child? name with
    | none =>
      rw [hk] at hchild
      generalize n.child? name = r at hchild
      cases hchild
      exact .none
    | some k =>
      rw [hk] at hchild
      generalize n.child? name = r at hchild
      cases hchild with
      | some hkl => exact ih hkl (hm.of_child? hk).2

/-! What is found on the other side of two related lookups. -/

section
variable {r s : Option Node} (h : Option.Rel Relisted r s)
include h

theorem eq_none (hr : r = none) : s = none := by
  cases h with
  | none => rfl
  | some => cases hr

theorem eq_some_of_leaf (hr : r = some m) (hm : ∀ entries, m ≠ .directory entries) :
    s = some m := by
  cases h with
  | none => cases hr
  | some hk =>
    obtain rfl := Option.some.inj hr
    rw [hk.eq_of_leaf hm]

theorem exists_directory {es : List (String × Node)} (hr : r = some (.directory es)) :
    ∃ fs, s = some (.directory fs) ∧ Relisted (.directory es) (.directory fs) := by
  cases h with
  | none => cases hr
  | some hk =>
    obtain rfl := Option.some.inj hr
    cases hk with
    | refl => exact ⟨es, rfl, .refl _⟩
    | @directory _ fs hnames hnodes => exact ⟨fs, rfl, .directory hnames hnodes⟩

end

end Relisted

end Node

namespace Disk

open Node

/-! ## Looking up -/

/-- Two lookups that fail in the same way, or find the same at the same place. -/
def SameFound : Except IoError (List String × Option Node) →
    Except IoError (List String × Option Node) → Prop
  | .error e, .error e' => e = e'
  | .ok (dir, m), .ok (dir', n) => dir = dir' ∧ Option.Rel Relisted m n
  | _, _ => False

section
variable {top top' : Node} (h : top.Relisted top') (hwf : top.WellFormed)
include h hwf

theorem exists_directory {dir : List String} {es : List (String × Node)}
    (hdir : top.get? dir = some (.directory es)) :
    ∃ fs, top'.get? dir = some (.directory fs) ∧
      ∀ name, Option.Rel Relisted (es.lookup name) (fs.lookup name) := by
  obtain ⟨fs, hfs, hrel⟩ := Relisted.exists_directory (h.get? hwf dir) hdir
  exact ⟨fs, hfs, hrel.child? (hwf.of_get? hdir).2⟩

/-- **The order of listings does not matter to a lookup**, through however many links. -/
theorem relisted_go (follow : Bool) (links : Nat) (dir : List String) (todo : List Step) :
    SameFound (go top follow links dir todo) (go top' follow links dir todo) := by
  fun_induction go top follow links dir todo with
  | case1 links dir =>
    rw [go]
    exact ⟨rfl, h.get? hwf dir⟩
  | case2 links dir step todo hdir =>
    rw [go, Relisted.eq_none (h.get? hwf dir) hdir]
    rfl
  | case3 links dir step todo e hdir =>
    rw [go, Relisted.eq_some_of_leaf (h.get? hwf dir) hdir nofun]
    rfl
  | case4 links dir todo es hdir ih =>
    obtain ⟨fs, hfs, -⟩ := exists_directory h hwf hdir
    rwa [go.eq_def top', hfs]
  | case5 links dir todo es hdir ih =>
    obtain ⟨fs, hfs, -⟩ := exists_directory h hwf hdir
    rwa [go.eq_def top', hfs]
  | case6 links dir todo es hdir name hname =>
    obtain ⟨fs, hfs, -⟩ := exists_directory h hwf hdir
    simp only [go, hfs, hname, if_true]
    rfl
  | case7 links dir es hdir name hname hlookup =>
    obtain ⟨fs, hfs, hrel⟩ := exists_directory h hwf hdir
    simp only [go, hfs, hname, if_false, Relisted.eq_none (hrel name) hlookup]
    exact ⟨rfl, .none⟩
  | case8 links dir todo es hdir name hname hlookup htodo =>
    obtain ⟨fs, hfs, hrel⟩ := exists_directory h hwf hdir
    simp only [go, hfs, hname, if_false, Relisted.eq_none (hrel name) hlookup, htodo]
    rfl
  | case9 links dir todo es hdir name hname target hlookup hend =>
    obtain ⟨fs, hfs, hrel⟩ := exists_directory h hwf hdir
    have hlink := Relisted.eq_some_of_leaf (hrel name) hlookup nofun
    simp only [go, hfs, hname, if_false, hlink, hend]
    exact ⟨rfl, .some (.refl _)⟩
  | case10 dir todo es hdir name hname target hlookup hend =>
    obtain ⟨fs, hfs, hrel⟩ := exists_directory h hwf hdir
    have hlink := Relisted.eq_some_of_leaf (hrel name) hlookup nofun
    simp only [go, hfs, hname, if_false, hlink, hend]
    rfl
  | case11 dir todo es hdir name hname hend links hlookup =>
    obtain ⟨fs, hfs, hrel⟩ := exists_directory h hwf hdir
    have hlink := Relisted.eq_some_of_leaf (hrel name) hlookup nofun
    simp only [go, hfs, hname, if_false, hlink, hend, if_true]
    rfl
  | case12 dir todo es hdir name hname target hlookup hend links htarget dir' ih =>
    obtain ⟨fs, hfs, hrel⟩ := exists_directory h hwf hdir
    have hlink := Relisted.eq_some_of_leaf (hrel name) hlookup nofun
    rw [go.eq_def top']
    simp only [hfs, hname, if_false, hlink, hend, htarget]
    exact ih
  | case13 links dir todo es hdir name hname k hk hlookup ih =>
    obtain ⟨fs, hfs, hrel⟩ := exists_directory h hwf hdir
    have hentered : go top' follow links dir (.enter name :: todo) =
        go top' follow links (dir ++ [name]) todo := by
      rw [go.eq_def top']
      cases k with
      | link target => exact (hk target rfl).elim
      | directory es' =>
        obtain ⟨fs', hfs', -⟩ := Relisted.exists_directory (hrel name) hlookup
        simp only [hfs, hname, if_false, hfs']
      | _ =>
        have hleaf := Relisted.eq_some_of_leaf (hrel name) hlookup nofun
        simp only [hfs, hname, if_false, hleaf]
    rwa [hentered]
  | case14 links dir step todo k hclosed hdirectory hdir =>
    rw [go, Relisted.eq_some_of_leaf (h.get? hwf dir) hdir hdirectory]
    cases k with
    | directory es => exact (hdirectory es rfl).elim
    | closed isDirectory e =>
      cases isDirectory with
      | true => exact (hclosed e rfl).elim
      | false => rfl
    | _ => rfl

end

theorem get?_of_go {top n : Node} {links : Nat} {dir place : List String} {todo : List Step}
    (h : go top true links dir todo = .ok (place, some n)) : top.get? place = some n := by
  fun_induction go top true links dir todo with
  | case1 links dir =>
    obtain ⟨rfl, hn⟩ := Prod.mk.inj (Except.ok.inj h)
    exact hn
  | case4 _ _ _ _ _ ih | case5 _ _ _ _ _ ih => exact ih h
  | case7 => cases h
  | case9 _ _ _ _ _ _ _ _ _ hend => cases hend.2
  | case12 _ _ _ _ _ _ _ _ _ _ _ _ ih => exact ih h
  | case13 _ _ _ _ _ _ _ _ _ _ ih => exact ih h
  | _ => cases h

variable (disk : Disk) (cwd p : Path)

theorem exists_get?_of_node {n : Node} (h : disk.node cwd p = .ok n) :
    ∃ place, disk.top.get? place = some n := by
  unfold node at h
  split at h
  case h_1 place k hlocate =>
    obtain rfl := Except.ok.inj h
    unfold locate at hlocate
    split at hlocate
    · cases hlocate
    · split at hlocate
      · cases hlocate
      · exact ⟨place, get?_of_go hlocate⟩
  case h_2 => cases h
  case h_3 => cases h

section
variable {disk : Disk} {disk' : Disk} (h : disk.top.Relisted disk'.top) (hwf : disk.top.WellFormed)
include h hwf

theorem relisted_node :
    (∃ e, disk.node cwd p = .error e ∧ disk'.node cwd p = .error e) ∨
      ∃ m n, disk.node cwd p = .ok m ∧ disk'.node cwd p = .ok n ∧ m.Relisted n := by
  have hlocate : SameFound (disk.locate true cwd p) (disk'.locate true cwd p) := by
    unfold locate
    split
    · rfl
    · split
      · rfl
      · exact relisted_go h hwf ..
  unfold node
  generalize disk.locate true cwd p = r, disk'.locate true cwd p = s at hlocate
  match r, s, hlocate with
  | .error e, .error _, rfl => exact .inl ⟨e, rfl, rfl⟩
  | .ok (_, _), .ok (_, _), ⟨_, .none⟩ => exact .inl ⟨.noSuchFile, rfl, rfl⟩
  | .ok (_, some m), .ok (_, some n), ⟨_, .some hmn⟩ => exact .inr ⟨m, n, rfl, rfl, hmn⟩

/-- **The bytes that are read are the same.** -/
theorem read_of_relisted : disk'.read cwd p = disk.read cwd p := by
  unfold read
  rcases relisted_node cwd p h hwf with ⟨e, hm, hn⟩ | ⟨m, n, hm, hn, hmn⟩
  · rw [hm, hn]
  · rw [hm, hn]
    cases hmn <;> rfl

end

end Disk

end PlaybookScan

import Mathlib.Data.List.Induction
import Mathlib.Data.List.Nodup

/-!
# Grouping by key

`group ps` gathers the pairs of `ps` by their first parts, the groups in the order in which these
appear first and each group in the order of `ps`; `ungroup` spreads the groups out again. Taking
the pairs in one by one, each into its group unless it is there (`add`), leaves the groups of the
distinct pairs (`add_group`).
-/

set_option autoImplicit false

namespace PlaybookScan.Grouping

/-! ## Distinct elements -/

section
variable {α : Type} [BEq α] [LawfulBEq α]

/-- `a` behind the others, unless it is one of them. -/
def addNew (a : α) (as : List α) : List α := if a ∈ as then as else as ++ [a]

theorem mem_addNew {a b : α} {as : List α} : b ∈ addNew a as ↔ b = a ∨ b ∈ as := by
  unfold addNew
  split
  · exact ⟨.inr, fun h => h.elim (fun he => he ▸ by assumption) id⟩
  · simp [or_comm]

theorem nodup_addNew {a : α} {as : List α} (h : as.Nodup) : (addNew a as).Nodup := by
  unfold addNew
  split
  · exact h
  · exact List.nodup_append_comm.1 (List.nodup_cons.2 ⟨by assumption, h⟩)

theorem eraseDups_concat (as : List α) (a : α) :
    (as ++ [a]).eraseDups = addNew a as.eraseDups := by
  rw [List.eraseDups_append, addNew]
  by_cases h : a ∈ as <;> simp [List.removeAll, h, List.eraseDups_cons]

theorem nodup_eraseDups (as : List α) : as.eraseDups.Nodup := by
  induction as using List.reverseRecOn with
  | nil => exact List.nodup_nil
  | append_singleton as a ih => rw [eraseDups_concat]; exact nodup_addNew ih

theorem perm_eraseDups {as bs : List α} (h : as.Perm bs) : as.eraseDups.Perm bs.eraseDups := by
  refine (List.perm_ext_iff_of_nodup (nodup_eraseDups _) (nodup_eraseDups _)).2 fun a => ?_
  rw [List.mem_eraseDups, List.mem_eraseDups, h.mem_iff]

end

/-! ## Groups -/

variable {α β : Type} [DecidableEq α] [DecidableEq β]

/-- The second parts of the pairs whose first part is `a`. -/
def values (ps : List (α × β)) (a : α) : List β :=
  ps.filterMap fun p => if p.1 = a then some p.2 else none

/-- The pairs by their first parts. -/
def group (ps : List (α × β)) : List (α × List β) :=
  (ps.map Prod.fst).eraseDups.map fun a => (a, values ps a)

/-- The pairs of all groups. -/
def ungroup (gs : List (α × List β)) : List (α × β) := gs.flatMap fun g => g.2.map (g.1, ·)

/-- `b` taken into the group of `a`, which is put behind the others if it is new. -/
def add (a : α) (b : β) : List (α × List β) → List (α × List β)
  | [] => [(a, [b])]
  | (c, bs) :: gs => if c = a then (c, addNew b bs) :: gs else (c, bs) :: add a b gs

omit [DecidableEq β] in
theorem map_fst_group (ps : List (α × β)) :
    (group ps).map Prod.fst = (ps.map Prod.fst).eraseDups := by
  simp [group, Function.comp_def]

omit [DecidableEq β] in
theorem mem_values {ps : List (α × β)} {a : α} {b : β} : b ∈ values ps a ↔ (a, b) ∈ ps := by
  simp only [values, List.mem_filterMap, Option.ite_none_right_eq_some, Option.some.injEq,
    Prod.exists]
  exact ⟨fun ⟨_, _, h, ha, hb⟩ => ha ▸ hb ▸ h, fun h => ⟨a, b, h, rfl, rfl⟩⟩

omit [DecidableEq β] in
theorem mem_of_mem_ungroup {ps : List (α × β)} {p : α × β} (h : p ∈ ungroup (group ps)) :
    p ∈ ps := by
  obtain ⟨g, hg, hp⟩ := List.mem_flatMap.1 h
  obtain ⟨a, -, rfl⟩ := List.mem_map.1 hg
  obtain ⟨b, hb, rfl⟩ := List.mem_map.1 hp
  exact mem_values.1 hb

omit [DecidableEq β] in
theorem values_concat (ps : List (α × β)) (a c : α) (b : β) :
    values (ps ++ [(a, b)]) c = if c = a then values ps c ++ [b] else values ps c := by
  simp only [values, List.filterMap_append, List.filterMap_cons, List.filterMap_nil]
  by_cases h : a = c
  · simp [h]
  · simp [h, Ne.symm h]

omit [DecidableEq β] in
theorem values_eq_nil {ps : List (α × β)} {a : α} (h : a ∉ ps.map Prod.fst) : values ps a = [] :=
  List.eq_nil_iff_forall_not_mem.2 fun _ hb => h (List.mem_map_of_mem (mem_values.1 hb))

/-! ## Taking one pair in -/

theorem map_fst_add (a : α) (b : β) (gs : List (α × List β)) :
    (add a b gs).map Prod.fst = addNew a (gs.map Prod.fst) := by
  induction gs with
  | nil => rfl
  | cons g gs ih =>
    simp only [add, addNew, List.map_cons, List.mem_cons]
    split
    · rename_i h
      simp [h]
    · rename_i h
      rw [List.map_cons, ih, addNew]
      simp only [show ¬ a = g.1 from Ne.symm h, false_or]
      split <;> rfl

theorem add_of_not_mem {a : α} {gs : List (α × List β)} (h : a ∉ gs.map Prod.fst) (b : β) :
    add a b gs = gs ++ [(a, [b])] := by
  induction gs with
  | nil => rfl
  | cons g gs ih =>
    simp only [List.map_cons, List.mem_cons, not_or] at h
    rw [add, if_neg (Ne.symm h.1), ih h.2, List.cons_append]

theorem add_eq_set {a : α} {gs : List (α × List β)} {i : Nat} {bs : List β}
    (hi : (gs.map Prod.fst).idxOf? a = some i) (hg : gs[i]? = some (a, bs)) (b : β) :
    add a b gs = gs.set i (a, addNew b bs) := by
  induction gs generalizing i with
  | nil => simp at hg
  | cons g gs ih =>
    rw [List.map_cons, List.idxOf?_cons] at hi
    by_cases hga : g.1 = a
    · rw [if_pos (by simpa using hga), Option.some.injEq] at hi
      subst hi
      obtain rfl : g = (a, bs) := by simpa using hg
      simp [add]
    · rw [if_neg (by simpa using hga)] at hi
      obtain ⟨j, hj, rfl⟩ := Option.map_eq_some_iff.1 hi
      rw [add, if_neg hga, ih hj (by simpa using hg), List.set_cons_succ]

theorem ne_nil_of_mem_add {a : α} {b : β} {gs : List (α × List β)} {g : α × List β}
    (h : ∀ g ∈ gs, g.2 ≠ []) (hg : g ∈ add a b gs) : g.2 ≠ [] := by
  induction gs with
  | nil => simp_all [add]
  | cons c gs ih =>
    rw [add] at hg
    split at hg <;> rcases List.mem_cons.1 hg with rfl | hg
    · exact List.ne_nil_of_mem (mem_addNew.2 (.inl rfl))
    · exact h g (List.mem_cons_of_mem _ hg)
    · exact h _ List.mem_cons_self
    · exact ih (fun d hd => h d (List.mem_cons_of_mem _ hd)) hg

theorem mem_add {a : α} {b d : β} {gs : List (α × List β)} {g : α × List β}
    (hg : g ∈ add a b gs) (hd : d ∈ g.2) : (g.1 = a ∧ d = b) ∨ ∃ bs, (g.1, bs) ∈ gs ∧ d ∈ bs := by
  induction gs with
  | nil =>
    obtain rfl := List.mem_singleton.1 hg
    exact .inl ⟨rfl, List.mem_singleton.1 hd⟩
  | cons c gs ih =>
    rw [add] at hg
    split at hg <;> rcases List.mem_cons.1 hg with rfl | hg
    · rename_i hc
      rcases mem_addNew.1 hd with rfl | hd
      · exact .inl ⟨hc, rfl⟩
      · exact .inr ⟨c.2, List.mem_cons_self, hd⟩
    · exact .inr ⟨g.2, List.mem_cons_of_mem _ hg, hd⟩
    · exact .inr ⟨_, List.mem_cons_self, hd⟩
    · rcases ih hg with h | ⟨bs, hm, hb⟩
      · exact .inl h
      · exact .inr ⟨bs, List.mem_cons_of_mem _ hm, hb⟩

theorem add_map {a : α} {as : List α} (hn : as.Nodup) (ha : a ∈ as) (b : β) (f : α → List β) :
    add a b (as.map fun c => (c, f c)) =
      as.map fun c => (c, if c = a then addNew b (f c) else f c) := by
  induction as with
  | nil => cases ha
  | cons c as ih =>
    obtain ⟨hc, hn⟩ := List.nodup_cons.1 hn
    rw [List.map_cons, List.map_cons, add]
    by_cases h : c = a
    · subst h
      simp only [if_true, List.cons.injEq, true_and]
      refine List.map_congr_left fun d hd => ?_
      rw [if_neg fun he : d = c => hc (he ▸ hd)]
    · rw [if_neg h, if_neg h, ih hn ((List.mem_cons.1 ha).resolve_left (Ne.symm h))]

/-- A pair taken in among the groups is one more pair, or none if it is there already. -/
theorem add_group_addNew (a : α) (b : β) (ps : List (α × β)) :
    add a b (group ps) = group (addNew (a, b) ps) := by
  have hk := map_fst_group ps
  by_cases ha : a ∈ ps.map Prod.fst
  · rw [group, add_map (nodup_eraseDups _) (List.mem_eraseDups.2 ha)]
    by_cases hab : (a, b) ∈ ps
    · rw [addNew, if_pos hab, group]
      refine List.map_congr_left fun c _ => ?_
      by_cases hc : c = a
      · rw [if_pos hc, addNew, if_pos (mem_values.2 (hc ▸ hab))]
      · rw [if_neg hc]
    · rw [addNew, if_neg hab, group, List.map_append, List.map_cons, List.map_nil,
        eraseDups_concat, addNew, if_pos (List.mem_eraseDups.2 ha)]
      refine List.map_congr_left fun c _ => ?_
      rw [values_concat]
      by_cases hc : c = a
      · rw [if_pos hc, if_pos hc, addNew, if_neg (hc ▸ fun hm => hab (mem_values.1 hm))]
      · rw [if_neg hc, if_neg hc]
  · have hab : (a, b) ∉ ps := fun h => ha (List.mem_map_of_mem h)
    have he : a ∉ (ps.map Prod.fst).eraseDups := fun h => ha (List.mem_eraseDups.1 h)
    rw [add_of_not_mem (hk ▸ he), addNew, if_neg hab, group, group, List.map_append, List.map_cons,
      List.map_nil, eraseDups_concat, addNew, if_neg he, List.map_append]
    congr 1
    · refine List.map_congr_left fun c hc => ?_
      rw [values_concat, if_neg fun h : c = a => he (h ▸ hc)]
    · simp [values_concat, values_eq_nil ha]

/-- **One pair more**, among the groups of the distinct pairs. -/
theorem add_group (a : α) (b : β) (ps : List (α × β)) :
    add a b (group ps.eraseDups) = group (ps ++ [(a, b)]).eraseDups := by
  rw [add_group_addNew, eraseDups_concat]

/-! ## Looking a group up -/

omit [DecidableEq β] in
theorem lookup_eq_idxOf? (a : α) (gs : List (α × List β)) :
    gs.lookup a = ((gs.map Prod.fst).idxOf? a).bind fun i => gs[i]?.map Prod.snd := by
  induction gs with
  | nil => rfl
  | cons g gs ih =>
    rw [List.map_cons, List.idxOf?_cons, List.lookup_cons]
    by_cases h : g.1 = a
    · simp [h]
    · rw [if_neg (by simpa using h), beq_eq_false_iff_ne.2 (Ne.symm h), ih, Option.bind_map]
      rfl

/-! ## Groups spread out -/

omit [DecidableEq α] [DecidableEq β] in
theorem ungroup_cons (g : α × List β) (gs : List (α × List β)) :
    ungroup (g :: gs) = g.2.map (g.1, ·) ++ ungroup gs :=
  List.flatMap_cons

omit [DecidableEq α] [DecidableEq β] in
theorem mem_ungroup {gs : List (α × List β)} {a : α} {b : β} :
    (a, b) ∈ ungroup gs ↔ ∃ bs, (a, bs) ∈ gs ∧ b ∈ bs := by
  simp only [ungroup, List.mem_flatMap, List.mem_map, Prod.mk.injEq]
  constructor
  · rintro ⟨g, hg, c, hc, rfl, rfl⟩
    exact ⟨g.2, hg, hc⟩
  · rintro ⟨bs, hg, hb⟩
    exact ⟨(a, bs), hg, b, hb, rfl, rfl⟩

omit [DecidableEq α] [DecidableEq β] in
theorem mem_keys_of_mem_ungroup {gs : List (α × List β)} {a : α}
    (h : a ∈ (ungroup gs).map Prod.fst) : a ∈ gs.map Prod.fst := by
  obtain ⟨⟨c, b⟩, hp, rfl⟩ := List.mem_map.1 h
  obtain ⟨bs, hg, -⟩ := mem_ungroup.1 hp
  exact List.mem_map_of_mem hg

omit [DecidableEq α] [DecidableEq β] in
theorem nodup_ungroup {gs : List (α × List β)} (hn : (gs.map Prod.fst).Nodup)
    (h : ∀ g ∈ gs, g.2.Nodup) : (ungroup gs).Nodup := by
  induction gs with
  | nil => exact List.nodup_nil
  | cons g gs ih =>
    obtain ⟨hg, hn⟩ := List.nodup_cons.1 hn
    have hgroup : (g.2.map (g.1, ·)).Nodup :=
      (h g List.mem_cons_self).map fun _ _ he => (Prod.mk.inj he).2
    rw [ungroup_cons, List.nodup_append]
    refine ⟨hgroup, ih hn fun d hd => h d (List.mem_cons_of_mem _ hd), ?_⟩
    rintro p hp q hq rfl
    obtain ⟨b, -, rfl⟩ := List.mem_map.1 hp
    exact hg (mem_keys_of_mem_ungroup (List.mem_map_of_mem hq))

omit [DecidableEq β] in
theorem nodup_values {ps : List (α × β)} (h : ps.Nodup) (a : α) : (values ps a).Nodup := by
  refine h.filterMap fun p q b hp hq => ?_
  obtain ⟨hpa, hpb⟩ := Option.ite_none_right_eq_some.1 hp
  obtain ⟨hqa, hqb⟩ := Option.ite_none_right_eq_some.1 hq
  exact Prod.ext (hpa.trans hqa.symm) (Option.some.inj (hpb.trans hqb.symm))

omit [DecidableEq β] in
theorem nodup_ungroup_group {ps : List (α × β)} (h : ps.Nodup) : (ungroup (group ps)).Nodup := by
  refine nodup_ungroup (map_fst_group ps ▸ nodup_eraseDups _) fun g hg => ?_
  obtain ⟨a, -, rfl⟩ := List.mem_map.1 hg
  exact nodup_values h a

omit [DecidableEq β] in
theorem mem_ungroup_group {ps : List (α × β)} {p : α × β} : p ∈ ungroup (group ps) ↔ p ∈ ps := by
  refine ⟨mem_of_mem_ungroup, fun h => mem_ungroup.2 ⟨values ps p.1, ?_, mem_values.2 h⟩⟩
  rw [group, List.mem_map]
  exact ⟨p.1, List.mem_eraseDups.2 (List.mem_map_of_mem h), rfl⟩

omit [DecidableEq β] in
theorem perm_ungroup_group {ps : List (α × β)} (h : ps.Nodup) : (ungroup (group ps)).Perm ps :=
  (List.perm_ext_iff_of_nodup (nodup_ungroup_group h) h).2 fun _ => mem_ungroup_group

omit [DecidableEq β] in
theorem values_append (ps qs : List (α × β)) (a : α) :
    values (ps ++ qs) a = values ps a ++ values qs a :=
  List.filterMap_append ..

omit [DecidableEq β] in
theorem values_map_pair (c : α) (bs : List β) (a : α) :
    values (bs.map (c, ·)) a = if c = a then bs else [] := by
  by_cases h : c = a <;> simp [values, h]

omit [DecidableEq β] in
theorem values_ungroup {gs : List (α × List β)} (hn : (gs.map Prod.fst).Nodup) (a : α) :
    values (ungroup gs) a = (gs.lookup a).getD [] := by
  induction gs with
  | nil => rfl
  | cons g gs ih =>
    obtain ⟨hg, hn⟩ := List.nodup_cons.1 hn
    rw [ungroup_cons, values_append, values_map_pair, List.lookup_cons]
    by_cases h : g.1 = a
    · have hrest : values (ungroup gs) a = [] :=
        values_eq_nil fun hm => hg (h ▸ mem_keys_of_mem_ungroup hm)
      rw [if_pos h, hrest, beq_iff_eq.2 h.symm, List.append_nil]
      rfl
    · rw [if_neg h, beq_eq_false_iff_ne.2 (Ne.symm h), ih hn, List.nil_append]

omit [DecidableEq β] in
theorem values_ungroup_group (ps : List (α × β)) (a : α) :
    values (ungroup (group ps)) a = values ps a := by
  rw [values_ungroup (map_fst_group ps ▸ nodup_eraseDups _)]
  cases hl : (group ps).lookup a with
  | some bs =>
    obtain ⟨before, behind, hg, -⟩ := List.lookup_eq_some_iff.1 hl
    have hm : (a, bs) ∈ group ps := by simp [hg]
    obtain ⟨c, -, hc⟩ := List.mem_map.1 hm
    obtain ⟨rfl, rfl⟩ := Prod.mk.inj hc
    rfl
  | none =>
    refine (values_eq_nil fun hm => ?_).symm
    have hg : (a, values ps a) ∈ group ps := List.mem_map.2 ⟨a, List.mem_eraseDups.2 hm, rfl⟩
    exact bne_iff_ne.1 (List.lookup_eq_none_iff.1 hl _ hg) rfl

/-- The distinct pairs hold the distinct values of each key. -/
theorem values_eraseDups (ps : List (α × β)) (a : α) :
    values ps.eraseDups a = (values ps a).eraseDups := by
  induction ps using List.reverseRecOn with
  | nil => rfl
  | append_singleton ps p ih =>
    obtain ⟨c, b⟩ := p
    rw [eraseDups_concat, values_concat, addNew]
    by_cases ha : a = c
    · subst ha
      rw [if_pos rfl, eraseDups_concat, addNew, ← ih]
      by_cases hm : (a, b) ∈ ps.eraseDups
      · rw [if_pos hm, if_pos (mem_values.2 hm)]
      · rw [if_neg hm, if_neg fun h => hm (mem_values.1 h), values_concat, if_pos rfl]
    · rw [if_neg ha]
      split
      · exact ih
      · rw [values_concat, if_neg ha, ih]

theorem mem_ungroup_add {a c : α} {b d : β} {gs : List (α × List β)} :
    (c, d) ∈ ungroup (add a b gs) ↔ (c, d) = (a, b) ∨ (c, d) ∈ ungroup gs := by
  induction gs with
  | nil => simp [add, ungroup]
  | cons g gs ih =>
    rw [add]
    split
    · rename_i h
      have hgroup (bs : List β) : (c, d) ∈ bs.map (g.1, ·) ↔ c = a ∧ d ∈ bs := by
        simp [h, eq_comm, and_comm]
      rw [ungroup_cons, ungroup_cons, List.mem_append, List.mem_append, hgroup, hgroup, mem_addNew,
        Prod.mk.injEq, and_or_left, or_assoc]
    · rw [ungroup_cons, ungroup_cons, List.mem_append, List.mem_append, ih]
      exact or_left_comm

omit [DecidableEq β] in
theorem eraseDups_keys_ungroup {gs : List (α × List β)} (hn : (gs.map Prod.fst).Nodup)
    (hne : ∀ g ∈ gs, g.2 ≠ []) : ((ungroup gs).map Prod.fst).eraseDups = gs.map Prod.fst := by
  induction gs with
  | nil => rfl
  | cons g gs ih =>
    obtain ⟨hg, hn⟩ := List.nodup_cons.1 hn
    obtain ⟨b, bs, hbs⟩ := List.exists_cons_of_ne_nil (hne g List.mem_cons_self)
    have hfilter : (bs.map fun _ => g.1).filter (fun c => !c == g.1) = [] := by simp
    have hrest : ((ungroup gs).map Prod.fst).filter (fun c => !c == g.1) =
        (ungroup gs).map Prod.fst := by
      rw [List.filter_eq_self]
      intro c hc
      have hcg : c ≠ g.1 := fun he => hg (he ▸ mem_keys_of_mem_ungroup hc)
      simpa using hcg
    rw [ungroup_cons, hbs, List.map_append, List.map_map, List.map_cons, List.cons_append,
      List.eraseDups_cons, List.filter_append]
    simp only [Function.comp_def]
    rw [hfilter, hrest, List.nil_append, ih hn fun d hd => hne d (List.mem_cons_of_mem _ hd),
      List.map_cons]

end PlaybookScan.Grouping

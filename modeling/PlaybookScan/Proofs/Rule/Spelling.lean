import PlaybookScan.Rule.Catalogue

/-!
# The spellings of a rule

A printed identifier means the active rule of that name or, if there is none, the one of its other
spelling (`resolve?_eq_some_iff`). So the linter can print a rule in three ways at most
(`mem_spellings_of_resolve?`). When more rules become active, an identifier goes on meaning a rule
(`resolve?_of_within`), which is another one only if the rule of that very name has become active.
What identifiers mean depends on which rules of the linter's repository are active, and not on how
they came to be so (`resolve?_congr`, `resolve?_reconciles`).
-/

set_option autoImplicit false

namespace PlaybookScan

namespace RuleKey

/-- The identifiers that can mean the rule `id`. -/
def spellings (id : String) : List String := [id, "E" ++ id, String.ofList id.toList.tail]

theorem mem_spellings_self (id : String) : id ∈ spellings id := List.mem_cons_self

theorem eq_append_ofList_tail {id : String} {d : Char} {cs : List Char} (h : id.toList = d :: cs) :
    id = String.ofList [d] ++ String.ofList cs := by
  apply String.toList_injective
  rw [h, String.toList_append, String.toList_ofList, String.toList_ofList, List.singleton_append]

theorem otherSpelling_legacy {rest : String} (h : rest ≠ "") :
    otherSpelling ("E" ++ rest) = rest := by
  have hlegacy : ("E" ++ rest).toList = 'E' :: rest.toList := by
    rw [String.toList_append]
    rfl
  unfold otherSpelling
  rw [hlegacy]
  cases hrest : rest.toList with
  | nil => exact absurd (String.toList_injective hrest) h
  | cons d ds =>
    show String.ofList (d :: ds) = rest
    rw [← hrest, String.ofList_toList]

theorem otherSpelling_eq_append {id : String} (h : ∀ rest, rest ≠ "" → id ≠ "E" ++ rest) :
    otherSpelling id = "E" ++ id := by
  unfold otherSpelling
  split
  case h_1 c cs hid =>
    exact absurd (eq_append_ofList_tail hid) (h _ (by simp))
  case h_2 => rfl

theorem otherSpelling_cases (id : String) :
    (∃ rest, rest ≠ "" ∧ id = "E" ++ rest ∧ otherSpelling id = rest) ∨
      (∀ rest, rest ≠ "" → id ≠ "E" ++ rest) ∧ otherSpelling id = "E" ++ id := by
  by_cases hE : ∃ rest, rest ≠ "" ∧ id = "E" ++ rest
  · obtain ⟨rest, hrest, rfl⟩ := hE
    exact .inl ⟨rest, hrest, rfl, otherSpelling_legacy hrest⟩
  · have hbare : ∀ rest, rest ≠ "" → id ≠ "E" ++ rest := fun rest hrest h => hE ⟨rest, hrest, h⟩
    exact .inr ⟨hbare, otherSpelling_eq_append hbare⟩

theorem mem_spellings_otherSpelling (id : String) : id ∈ spellings (otherSpelling id) := by
  rcases otherSpelling_cases id with ⟨rest, -, rfl, hother⟩ | ⟨-, hother⟩
  · rw [hother]
    exact List.mem_cons_of_mem _ List.mem_cons_self
  · simp [hother, spellings]

end RuleKey

namespace Catalogue

variable {c : Catalogue} {id : String} {k : RuleKey}

theorem resolve?_eq (c : Catalogue) (id : String) : c.resolve? id =
    if c.isActive ⟨RuleKey.ansible, id⟩ then some ⟨RuleKey.ansible, id⟩
    else if c.isActive ⟨RuleKey.ansible, RuleKey.otherSpelling id⟩ then
      some ⟨RuleKey.ansible, RuleKey.otherSpelling id⟩
    else none := by
  unfold resolve?
  simp only [List.map_cons, List.map_nil, List.find?_cons, List.find?_nil]
  split <;> split <;> simp_all

theorem resolve?_eq_none_iff : c.resolve? id = none ↔
    c.isActive ⟨RuleKey.ansible, id⟩ = false ∧
      c.isActive ⟨RuleKey.ansible, RuleKey.otherSpelling id⟩ = false := by
  rw [resolve?_eq]
  cases c.isActive ⟨RuleKey.ansible, id⟩ <;>
    cases c.isActive ⟨RuleKey.ansible, RuleKey.otherSpelling id⟩ <;> simp

/-- The identifier itself, if it is active, else its other spelling. -/
theorem resolve?_eq_some_iff : c.resolve? id = some k ↔
    c.isActive k = true ∧ (k = ⟨RuleKey.ansible, id⟩ ∨
      k = ⟨RuleKey.ansible, RuleKey.otherSpelling id⟩ ∧
        c.isActive ⟨RuleKey.ansible, id⟩ = false) := by
  rw [resolve?_eq]
  cases h : c.isActive ⟨RuleKey.ansible, id⟩ with
  | true =>
    constructor
    · rintro ⟨⟩
      exact ⟨h, .inl rfl⟩
    · rintro ⟨-, rfl | ⟨-, hf⟩⟩
      · rfl
      · cases hf
  | false =>
    cases ho : c.isActive ⟨RuleKey.ansible, RuleKey.otherSpelling id⟩ with
    | true =>
      constructor
      · rintro ⟨⟩
        exact ⟨ho, .inr ⟨rfl, rfl⟩⟩
      · rintro ⟨hk, rfl | ⟨rfl, -⟩⟩
        · exact absurd hk (by simp [h])
        · rfl
    | false =>
      constructor
      · rintro ⟨⟩
      · rintro ⟨hk, rfl | ⟨rfl, -⟩⟩
        · exact absurd hk (by simp [h])
        · exact absurd hk (by simp [ho])

theorem mem_spellings_of_resolve? (h : c.resolve? id = some k) : id ∈ RuleKey.spellings k.rule := by
  obtain ⟨-, rfl | ⟨rfl, -⟩⟩ := resolve?_eq_some_iff.1 h
  · exact RuleKey.mem_spellings_self id
  · exact RuleKey.mem_spellings_otherSpelling id

theorem rule_eq_of_resolve? (h : c.resolve? id = some k)
    (ha : c.isActive ⟨RuleKey.ansible, id⟩ = true) : k.rule = id := by
  obtain ⟨-, rfl | ⟨-, hf⟩⟩ := resolve?_eq_some_iff.1 h
  · rfl
  · rw [ha] at hf
    cases hf

/-! ## Catalogues with more rules -/

/-- Every rule that is active in `c` is active in `d`. -/
def Within (c d : Catalogue) : Prop := ∀ k, c.isActive k = true → d.isActive k = true

theorem resolve?_of_within {d : Catalogue} (h : c.Within d) (hk : c.resolve? id = some k) :
    d.resolve? id = some
      (if c.isActive ⟨RuleKey.ansible, id⟩ = false ∧ d.isActive ⟨RuleKey.ansible, id⟩ = true then
        ⟨RuleKey.ansible, id⟩
      else k) := by
  rw [resolve?_eq_some_iff] at hk ⊢
  obtain ⟨hactive, rfl | ⟨rfl, hid⟩⟩ := hk
  · rw [ite_self]
    exact ⟨h _ hactive, .inl rfl⟩
  · by_cases hd : d.isActive ⟨RuleKey.ansible, id⟩ = true
    · rw [if_pos ⟨hid, hd⟩]
      exact ⟨hd, .inl rfl⟩
    · rw [if_neg fun hnew => hd hnew.2]
      exact ⟨h _ hactive, .inr ⟨rfl, Bool.eq_false_iff.2 hd⟩⟩

/-! ## What resolution depends on -/

/-- Activates rules in turn. -/
def activateAll (c : Catalogue) (ks : List RuleKey) : Catalogue := ks.foldl activate c

theorem activateAll_cons (c : Catalogue) (k : RuleKey) (ks : List RuleKey) :
    c.activateAll (k :: ks) = (c.activate k).activateAll ks :=
  rfl

theorem isActive_activate_iff {k' : RuleKey} :
    (c.activate k).isActive k' = true ↔ c.isActive k' = true ∨ k' = k := by
  simp only [isActive, activate, Bool.or_eq_true, List.contains_iff_mem, List.mem_insert_iff]
  rw [or_assoc, or_comm]

theorem isActive_activateAll_iff {ks : List RuleKey} :
    (c.activateAll ks).isActive k = true ↔ c.isActive k = true ∨ k ∈ ks := by
  induction ks generalizing c with
  | nil => simp [activateAll]
  | cons k' ks ih => rw [activateAll_cons, ih, isActive_activate_iff, List.mem_cons, or_assoc]

/-- Only the active rules of the linter's repository matter. -/
theorem resolve?_congr {d : Catalogue}
    (h : ∀ id, c.isActive ⟨RuleKey.ansible, id⟩ = true ↔ d.isActive ⟨RuleKey.ansible, id⟩ = true) :
    c.resolve? = d.resolve? := by
  funext id
  simp only [resolve?_eq, h]

/-! ## Bare and legacy identifiers -/

theorem otherSpelling_of_bare {id : String} (hne : id ≠ "") (hE : id.toList.head? ≠ some 'E') :
    RuleKey.otherSpelling id = "E" ++ id ∧ RuleKey.otherSpelling ("E" ++ id) = id := by
  refine ⟨RuleKey.otherSpelling_eq_append fun rest _ h => hE ?_, RuleKey.otherSpelling_legacy hne⟩
  rw [h, String.toList_append]
  rfl

/-- The identifier `id` and the same with an `E` in front mean a rule or do not, both of them, and
the same rule unless each is the name of an active one. -/
structure Alike (c : Catalogue) (id : String) : Prop where
  isSome : (c.resolve? id).isSome = (c.resolve? ("E" ++ id)).isSome
  bare : c.isActive ⟨RuleKey.ansible, id⟩ = true → c.isActive ⟨RuleKey.ansible, "E" ++ id⟩ = false →
    c.resolve? id = some ⟨RuleKey.ansible, id⟩ ∧ c.resolve? ("E" ++ id) = some ⟨RuleKey.ansible, id⟩
  legacy : c.isActive ⟨RuleKey.ansible, id⟩ = false →
    c.isActive ⟨RuleKey.ansible, "E" ++ id⟩ = true →
    c.resolve? id = some ⟨RuleKey.ansible, "E" ++ id⟩ ∧
      c.resolve? ("E" ++ id) = some ⟨RuleKey.ansible, "E" ++ id⟩
  both : c.isActive ⟨RuleKey.ansible, id⟩ = true → c.isActive ⟨RuleKey.ansible, "E" ++ id⟩ = true →
    c.resolve? id = some ⟨RuleKey.ansible, id⟩ ∧
      c.resolve? ("E" ++ id) = some ⟨RuleKey.ansible, "E" ++ id⟩

theorem alike_of_bare (c : Catalogue) {id : String} (hne : id ≠ "")
    (hE : id.toList.head? ≠ some 'E') : c.Alike id := by
  obtain ⟨hbare, hlegacy⟩ := otherSpelling_of_bare hne hE
  have hid := c.resolve?_eq id
  have hEid := c.resolve?_eq ("E" ++ id)
  rw [hbare] at hid
  rw [hlegacy] at hEid
  constructor
  case isSome =>
    rw [hid, hEid]
    cases c.isActive ⟨RuleKey.ansible, id⟩ <;>
      cases c.isActive ⟨RuleKey.ansible, "E" ++ id⟩ <;> rfl
  all_goals
    intro h h'
    rw [hid, hEid, h, h']
    exact ⟨rfl, rfl⟩

/-- **Identifiers are reconciled with the active rules**: an identifier means an active rule of the
linter's repository, the one of that very name if there is one, and means it alike with an `E` in
front. Order, repetitions and rules of other repositories have no influence. -/
theorem resolve?_reconciles (c : Catalogue) :
    (∀ id k, c.resolve? id = some k → c.isActive k = true ∧ k.repository = RuleKey.ansible) ∧
      (∀ id, c.isActive ⟨RuleKey.ansible, id⟩ = true →
        c.resolve? id = some ⟨RuleKey.ansible, id⟩) ∧
      (∀ id, id ≠ "" → id.toList.head? ≠ some 'E' → c.Alike id) ∧
      (∀ ks ks', (∀ id, ⟨RuleKey.ansible, id⟩ ∈ ks ↔ ⟨RuleKey.ansible, id⟩ ∈ ks') →
        (c.activateAll ks).resolve? = (c.activateAll ks').resolve?) ∧
      ∀ repositories, RuleKey.ansible ∉ repositories →
        { c with openRepositories := c.openRepositories ++ repositories }.resolve? =
          c.resolve? := by
  refine ⟨fun id k hk => ?_, fun id hid => ?_, fun id => c.alike_of_bare, fun ks ks' h => ?_,
    fun repositories h => ?_⟩
  · obtain ⟨hactive, rfl | ⟨rfl, -⟩⟩ := resolve?_eq_some_iff.1 hk
    · exact ⟨hactive, rfl⟩
    · exact ⟨hactive, rfl⟩
  · exact resolve?_eq_some_iff.2 ⟨hid, .inl rfl⟩
  · exact resolve?_congr fun id => by rw [isActive_activateAll_iff, isActive_activateAll_iff, h]
  · refine resolve?_congr fun id => ?_
    simp [isActive, h]

end Catalogue

end PlaybookScan

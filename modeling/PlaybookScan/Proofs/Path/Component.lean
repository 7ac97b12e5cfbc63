import PlaybookScan.Path

/-!
# The components of a path

A piece between slashes is a name, `..`, or no component at all. `components_eq` takes a path apart
into what its start stands for and what its pieces stand for. From this come the components of a
path that is put together: those of a list of components (`components_ofComponents`,
`components_ofComponents_root`), and those of a relative path behind those of the path that it is
joined to (`components_join`).
-/

set_option autoImplicit false

namespace PlaybookScan.Path

/-- The texts of components that are names. -/
structure IsName (s : String) : Prop where
  ne_empty : s ≠ ""
  ne_here : s ≠ "."
  ne_up : s ≠ ".."
  no_slash : '/' ∉ s.toList

instance (s : String) : Decidable (IsName s) :=
  decidable_of_iff (s ≠ "" ∧ s ≠ "." ∧ s ≠ ".." ∧ '/' ∉ s.toList)
    ⟨fun ⟨h0, h1, h2, h3⟩ => ⟨h0, h1, h2, h3⟩, fun ⟨h0, h1, h2, h3⟩ => ⟨h0, h1, h2, h3⟩⟩

/-- The components that a path can have anywhere: `..` and names. -/
def Component.IsStep (c : Component) : Prop := c = .up ∨ ∃ s, c = .name s ∧ IsName s

theorem IsName.isStep {s : String} (h : IsName s) : (Component.name s).IsStep := .inr ⟨s, rfl, h⟩

theorem isStep_of_mem_map_name {ns : List String} (h : ∀ n ∈ ns, IsName n) :
    ∀ c ∈ ns.map Component.name, c.IsStep := by
  intro c hc
  obtain ⟨n, hn, rfl⟩ := List.mem_map.1 hc
  exact (h n hn).isStep

/-! ## Pieces -/

theorem not_mem_of_mem_splitOn {c : Char} {cs piece : List Char} (h : piece ∈ cs.splitOn c) :
    c ∉ piece := by
  induction cs generalizing piece with
  | nil => simp_all
  | cons d cs ih =>
    rw [List.splitOn_cons_eq_if_modifyHead] at h
    split at h
    · rcases List.mem_cons.1 h with rfl | h
      · exact List.not_mem_nil
      · exact ih h
    · rename_i hd
      obtain ⟨first, rest, hs⟩ := List.exists_cons_of_ne_nil (List.splitOn_ne_nil c cs)
      rw [hs, List.modifyHead_cons] at h
      rcases List.mem_cons.1 h with rfl | h
      · have hf := ih (hs ▸ List.mem_cons_self)
        have hcd : ¬ c = d := fun he => hd (by simp [he])
        simp [hcd, hf]
      · exact ih (hs ▸ List.mem_cons_of_mem _ h)

theorem ofPiece?_eq_name {s : String} (h : IsName s) :
    Component.ofPiece? s.toList = some (.name s) := by
  unfold Component.ofPiece?
  split
  · rename_i he
    exact absurd (String.toList_eq_nil_iff.1 he) h.ne_empty
  · rename_i he
    exact absurd (String.toList_injective (by rw [he]; rfl)) h.ne_here
  · rename_i he
    exact absurd (String.toList_injective (by rw [he]; rfl)) h.ne_up
  · rw [String.ofList_toList]

theorem eq_of_ofPiece? {cs : List Char} {c : Component} (h : Component.ofPiece? cs = some c)
    (hs : '/' ∉ cs) : c.IsStep := by
  unfold Component.ofPiece? at h
  split at h
  · cases h
  · cases h
  · exact .inl (Option.some.inj h).symm
  · rename_i h0 h1 h2
    refine .inr ⟨String.ofList cs, (Option.some.inj h).symm, ?_, ?_, ?_, by simpa using hs⟩
    · exact fun he => h0 (by simpa using congrArg String.toList he)
    · exact fun he => h1 (by simpa using congrArg String.toList he)
    · exact fun he => h2 (by simpa using congrArg String.toList he)

theorem eq_of_mem_ofPieces {cs : List Char} {c : Component} (h : c ∈ ofPieces cs) : c.IsStep := by
  obtain ⟨piece, hp, hc⟩ := List.mem_filterMap.1 h
  exact eq_of_ofPiece? hc (not_mem_of_mem_splitOn hp)

theorem ofPieces_append_slash (cs ds : List Char) :
    ofPieces (cs ++ '/' :: ds) = ofPieces cs ++ ofPieces ds := by
  rw [ofPieces, List.splitOn_append_cons_self, List.filterMap_append]
  rfl

namespace Component.IsStep

variable {c : Component} (h : c.IsStep)
include h

theorem ofPiece?_text : ofPiece? c.text.toList = some c := by
  rcases h with rfl | ⟨s, rfl, hs⟩
  · rfl
  · exact ofPiece?_eq_name hs

theorem slash_not_mem_text : '/' ∉ c.text.toList := by
  rcases h with rfl | ⟨s, rfl, hs⟩
  · decide
  · exact hs.no_slash

theorem text_ne_nil : c.text.toList ≠ [] := by
  intro he
  have := h.ofPiece?_text
  simp [he, ofPiece?] at this

theorem text_ne_empty : c.text ≠ "" := fun he => h.text_ne_nil (by simp [he])

theorem isAbsolute_text : (⟨c.text⟩ : Path).isAbsolute = false := by
  rw [isAbsolute, Bool.eq_false_iff]
  intro he
  exact h.slash_not_mem_text (List.mem_of_head? (eq_of_beq he))

end Component.IsStep

/-! ## The start of a path -/

/-- What the start of a path stands for: the root, `.`, or nothing of its own. -/
def lead : List Char → List Component
  | '/' :: _ => [.root]
  | ['.'] => [.here]
  | '.' :: '/' :: _ => [.here]
  | _ => []

theorem components_eq (p : Path) :
    p.components = lead p.text.toList ++ ofPieces p.text.toList := by
  unfold components
  generalize p.text.toList = cs
  fun_cases lead cs with
  | case1 cs => exact congrArg (Component.root :: ·) (ofPieces_append_slash [] cs).symm
  | case2 => rfl
  | case3 cs => exact congrArg (Component.here :: ·) (ofPieces_append_slash ['.'] cs).symm
  | case4 _ h0 h1 h2 =>
    split
    · exact (h0 _ rfl).elim
    · exact (h1 rfl).elim
    · exact (h2 _ rfl).elim
    · rfl

theorem lead_append_slash {cs : List Char} (h : cs ≠ []) (ds : List Char) :
    lead (cs ++ '/' :: ds) = lead cs := by
  fun_cases lead cs with
  | case1 cs => rfl
  | case2 => rfl
  | case3 cs => rfl
  | case4 _ h0 h1 h2 =>
    obtain ⟨c, cs, rfl⟩ := List.exists_cons_of_ne_nil h
    unfold lead
    split
    case h_1 he =>
      obtain ⟨rfl, -⟩ := List.cons.inj he
      exact (h0 _ rfl).elim
    case h_2 he => simp at he
    case h_3 he =>
      cases cs with
      | nil =>
        obtain ⟨rfl, -⟩ := List.cons.inj he
        exact (h1 rfl).elim
      | cons d cs =>
        simp only [List.cons_append, List.cons.injEq] at he
        obtain ⟨rfl, rfl, -⟩ := he
        exact (h2 _ rfl).elim
    case h_4 => rfl

theorem components_append_slash {p : Path} (h : p.isEmpty = false) :
    (⟨p.text ++ "/"⟩ : Path).components = p.components := by
  have hne : p.text.toList ≠ [] := by simpa [isEmpty] using h
  have htext : (p.text ++ "/").toList = p.text.toList ++ '/' :: [] := String.toList_append
  rw [components_eq, components_eq p, htext, lead_append_slash hne, ofPieces_append_slash,
    show ofPieces [] = [] from rfl, List.append_nil]

theorem Component.IsStep.lead_text {c : Component} (h : c.IsStep) : lead c.text.toList = [] := by
  have hpiece := h.ofPiece?_text
  have hslash := h.slash_not_mem_text
  generalize c.text.toList = cs at hpiece hslash
  fun_cases lead cs with
  | case1 cs => simp at hslash
  | case2 => cases hpiece
  | case3 cs => simp at hslash
  | case4 => rfl

/-! ## Paths put together -/

section
variable {cs : List Component} (h : ∀ c ∈ cs, c.IsStep)
include h

theorem ofComponents_of_isStep :
    ofComponents cs = ⟨"/".intercalate (cs.map Component.text)⟩ := by
  unfold ofComponents
  split
  · exact absurd (h _ List.mem_cons_self) (by rintro (he | ⟨s, he, -⟩) <;> cases he)
  · rfl

theorem filterMap_ofPiece?_text :
    cs.filterMap (Component.ofPiece? ∘ fun c => c.text.toList) = cs := by
  induction cs with
  | nil => rfl
  | cons c cs ih =>
    have hc : (Component.ofPiece? ∘ fun c => c.text.toList) c = some c :=
      (h c List.mem_cons_self).ofPiece?_text
    rw [List.filterMap_cons_some hc, ih fun d hd => h d (List.mem_cons_of_mem _ hd)]

theorem ofPieces_intercalate :
    ofPieces (['/'].intercalate (cs.map fun c => c.text.toList)) = cs := by
  by_cases hne : cs = []
  · rw [hne]
    rfl
  · rw [ofPieces, List.splitOn_intercalate '/' ?noslash (by simpa using hne), List.filterMap_map]
    case noslash =>
      intro piece hm
      obtain ⟨c, hc, rfl⟩ := List.mem_map.1 hm
      exact (h c hc).slash_not_mem_text
    exact filterMap_ofPiece?_text h

/-- **A relative path made of components has these components.** -/
theorem components_ofComponents : (ofComponents cs).components = cs := by
  rw [components_eq, ofComponents_of_isStep h]
  simp only [String.toList_intercalate, List.map_map, Function.comp_def]
  rw [show "/".toList = ['/'] from rfl, ofPieces_intercalate h]
  cases cs with
  | nil => rfl
  | cons c cs =>
    have hc := h c List.mem_cons_self
    cases cs with
    | nil => rw [List.map_singleton, List.intercalate_singleton, hc.lead_text, List.nil_append]
    | cons d cs =>
      rw [List.map_cons, List.map_cons, List.intercalate_cons_cons, List.append_assoc,
        List.singleton_append, lead_append_slash hc.text_ne_nil, hc.lead_text, List.nil_append]

/-- **An absolute path made of components has these components.** -/
theorem components_ofComponents_root : (ofComponents (.root :: cs)).components = .root :: cs := by
  have htext : (ofComponents (.root :: cs)).text.toList =
      [] ++ '/' :: ['/'].intercalate (cs.map fun c => c.text.toList) := by
    simp [ofComponents, Function.comp_def]
  rw [components_eq, htext, ofPieces_append_slash, ofPieces_intercalate h]
  rfl

end

/-! ## Joining -/

section
variable {p q : Path} (hp : p.isEmpty = false) (hq : q.isAbsolute = false)
include hp hq

theorem exists_toList_join : ∃ cs, (p.text.toList = cs ∧ cs ≠ [] ∨ p.text.toList = cs ++ ['/']) ∧
    (p.join q).text.toList = cs ++ '/' :: q.text.toList := by
  unfold join
  rw [hp, hq, Bool.or_self, if_neg Bool.false_ne_true]
  by_cases hlast : p.text.toList.getLast? = some '/'
  · obtain ⟨cs, hcs⟩ := List.getLast?_eq_some_iff.1 hlast
    exact ⟨cs, .inr hcs, by simp [hcs]⟩
  · refine ⟨p.text.toList, .inl ⟨rfl, ?_⟩, by simp [hlast]⟩
    intro he
    simp [isEmpty, String.toList_eq_nil_iff.1 he] at hp

/-- **The components of a relative path come behind those of the path it is joined to.** -/
theorem components_join : (p.join q).components = p.components ++ ofPieces q.text.toList := by
  obtain ⟨cs, hcs, hjoin⟩ := exists_toList_join hp hq
  rw [components_eq, components_eq p, hjoin, ofPieces_append_slash, List.append_assoc]
  rcases hcs with ⟨h, hne⟩ | h
  · rw [h, lead_append_slash hne]
  · rw [h, ofPieces_append_slash cs []]
    cases cs with
    | nil => rfl
    | cons c cs =>
      have hne := List.cons_ne_nil c cs
      rw [lead_append_slash hne, lead_append_slash hne, show ofPieces [] = [] from rfl,
        List.append_nil]

end

/-- Behind a component comes a slash before the next one. -/
theorem join_text {c d : Component} (hc : c.IsStep) (hd : d.IsStep) (s : String) :
    (⟨s ++ c.text⟩ : Path).join ⟨d.text⟩ = ⟨s ++ c.text ++ "/" ++ d.text⟩ := by
  have hempty : (⟨s ++ c.text⟩ : Path).isEmpty = false := by
    simp [isEmpty, hc.text_ne_empty]
  have hlast : (s ++ c.text).toList.getLast? ≠ some '/' := by
    intro he
    rw [String.toList_append, List.getLast?_append] at he
    cases hlast : c.text.toList.getLast? with
    | none => exact hc.text_ne_nil (List.getLast?_eq_none_iff.1 hlast)
    | some e =>
      rw [hlast, Option.some_or] at he
      exact hc.slash_not_mem_text (List.mem_of_getLast? (hlast.trans he))
  rw [join, hd.isAbsolute_text, hempty, Bool.or_self, if_neg Bool.false_ne_true,
    if_neg (by simpa using hlast)]

theorem intercalate_concat {cs : List Component} (hne : cs ≠ []) (d : Component) :
    "/".intercalate ((cs ++ [d]).map Component.text) =
      "/".intercalate (cs.map Component.text) ++ "/" ++ d.text := by
  rw [List.map_append, String.intercalate_append_of_ne_nil (by simpa) (by simp)]
  simp

section
variable {cs : List Component} {d : Component} (h : ∀ c ∈ cs, c.IsStep) (hd : d.IsStep)
include h

theorem exists_intercalate_eq (hne : cs ≠ []) :
    ∃ (s : String) (c : Component), c.IsStep ∧
      "/".intercalate (cs.map Component.text) = s ++ c.text := by
  obtain ⟨init, c, rfl⟩ := (List.eq_nil_or_concat cs).resolve_left hne
  refine ⟨if init = [] then "" else "/".intercalate (init.map Component.text) ++ "/", c,
    h c (by simp), ?_⟩
  by_cases hinit : init = []
  · simp [hinit]
  · rw [if_neg hinit, List.concat_eq_append, List.map_append,
      String.intercalate_append_of_ne_nil (by simpa) (by simp)]
    simp

include hd

/-- **One component more**, behind a relative path. -/
theorem join_ofComponents : (ofComponents cs).join ⟨d.text⟩ = ofComponents (cs ++ [d]) := by
  have hcd : ∀ c ∈ cs ++ [d], c.IsStep := by simpa [or_imp, forall_and] using ⟨h, hd⟩
  rw [ofComponents_of_isStep h, ofComponents_of_isStep hcd]
  by_cases hne : cs = []
  · simp [hne]
  · obtain ⟨s, c, hc, ht⟩ := exists_intercalate_eq h hne
    rw [intercalate_concat hne, ht, join_text hc hd]

/-- **One component more**, behind an absolute path. -/
theorem join_ofComponents_root :
    (ofComponents (.root :: cs)).join ⟨d.text⟩ = ofComponents (.root :: cs ++ [d]) := by
  simp only [ofComponents, List.cons_append]
  by_cases hne : cs = []
  · simp [hne, join, hd.isAbsolute_text, isEmpty]
  · obtain ⟨s, c, hc, ht⟩ := exists_intercalate_eq h hne
    rw [intercalate_concat hne, ht, ← String.append_assoc, join_text hc hd]
    simp only [String.append_assoc]

end

end PlaybookScan.Path

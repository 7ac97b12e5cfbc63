import PlaybookScan.Cli.Scan
import PlaybookScan.Proofs.Lint.Catalogue

/-!
# Rule lists

A scan is given a list of rules or none, and then every rule is active. Of the catalogue an analysis
sees only what identifiers mean, so lists that are the same but for order, repetitions and blanks
(`Options.Restated`) make no difference to it (`perform_congr`). `perform_selects` says besides
which rules the saved issues have, and which findings are dropped for their rules.
-/

set_option autoImplicit false

namespace PlaybookScan

/-! ## Blanks around a text -/

namespace Text

theorem trimEnd_append_blanks (cs : List Char) {blanks : List Char}
    (h : ∀ c ∈ blanks, isBlank c = true) : trimEnd (cs ++ blanks) = trimEnd cs := by
  unfold trimEnd
  rw [List.reverse_append,
    List.dropWhile_append_of_pos fun c hc => h c (List.mem_reverse.1 hc)]

theorem trimChars_of_blanks {cs : List Char} (h : ∀ c ∈ cs, isBlank c = true) :
    trimChars cs = [] := by
  unfold trimChars
  rw [List.dropWhile_eq_nil_iff.2 h]
  rfl

theorem trimChars_pad {before after : List Char} (hbefore : ∀ c ∈ before, isBlank c = true)
    (hafter : ∀ c ∈ after, isBlank c = true) (cs : List Char) :
    trimChars (before ++ (cs ++ after)) = trimChars cs := by
  unfold trimChars
  rw [List.dropWhile_append_of_pos hbefore, List.dropWhile_append]
  split
  case isTrue hblank =>
    -- with nothing before them the blanks behind are dropped from the front
    rw [List.dropWhile_eq_nil_iff.2 hafter, List.isEmpty_iff.1 hblank]
  case isFalse => exact trimEnd_append_blanks _ hafter

theorem trim_of_blank {s : String} (h : isBlankText s = true) : trim s = "" := by
  unfold trim
  rw [trimChars_of_blanks (List.all_eq_true.1 h)]

theorem trim_pad {before after : String} (hbefore : isBlankText before = true)
    (hafter : isBlankText after = true) (s : String) : trim (before ++ s ++ after) = trim s := by
  unfold trim
  rw [String.toList_append, String.toList_append, List.append_assoc,
    trimChars_pad (List.all_eq_true.1 hbefore) (List.all_eq_true.1 hafter)]

end Text

/-! ## What a list activates -/

namespace Options

/-- The entries that count, without the blanks around them. -/
def entries (ids : List String) : List String := (ids.map Text.trim).filter (· ≠ "")

theorem mem_entries {ids : List String} {e : String} :
    e ∈ entries ids ↔ ∃ id ∈ ids, Text.trim id ≠ "" ∧ e = Text.trim id := by
  simp only [entries, List.mem_filter, List.mem_map, decide_eq_true_eq]
  constructor
  · rintro ⟨⟨id, hid, rfl⟩, hne⟩
    exact ⟨id, hid, hne, rfl⟩
  · rintro ⟨id, hid, hne, rfl⟩
    exact ⟨⟨id, hid, rfl⟩, hne⟩

theorem mem_entries_cons {ids : List String} {id e : String} :
    e ∈ entries (id :: ids) ↔ (Text.trim id ≠ "" ∧ e = Text.trim id) ∨ e ∈ entries ids := by
  simp only [mem_entries, List.mem_cons, or_and_right, exists_or, exists_eq_left]

theorem entries_eq_nil {ids : List String} (h : ∀ id ∈ ids, Text.isBlankText id = true) :
    entries ids = [] := by
  refine List.eq_nil_iff_forall_not_mem.2 fun e he => ?_
  obtain ⟨id, hid, hne, -⟩ := mem_entries.1 he
  exact hne (Text.trim_of_blank (h id hid))

theorem catalogue_some (ids : List String) : catalogue (some ids) =
    Catalogue.empty.activateAll ((entries ids).map (RuleKey.mk RuleKey.ansible)) := by
  rw [Catalogue.activateAll, List.foldl_map]
  rfl

theorem isActive_catalogue_some {ids : List String} {k : RuleKey} :
    (catalogue (some ids)).isActive k = true ↔ ∃ e ∈ entries ids, k = ⟨RuleKey.ansible, e⟩ := by
  rw [catalogue_some, Catalogue.isActive_activateAll_iff, List.mem_map]
  simp [Catalogue.isActive, Catalogue.empty, eq_comm]

theorem isActive_ansible {ids : List String} {id : String} :
    (catalogue (some ids)).isActive ⟨RuleKey.ansible, id⟩ = true ↔ id ∈ entries ids := by
  simp [isActive_catalogue_some]

theorem resolve?_catalogue_none (id : String) :
    (catalogue none).resolve? id = some ⟨RuleKey.ansible, id⟩ :=
  Catalogue.resolve?_eq_some_iff.2
    ⟨by simp [catalogue, Catalogue.isActive, Catalogue.allOf], .inl rfl⟩

/-- Neither the printed identifier nor its other spelling is an entry of the list. -/
structure Unlisted (ids : List String) (id : String) : Prop where
  printed : id ∉ entries ids
  bare : ∀ rest, rest ≠ "" → id = "E" ++ rest → rest ∉ entries ids
  legacy : (∀ rest, rest ≠ "" → id ≠ "E" ++ rest) → "E" ++ id ∉ entries ids

theorem resolve?_catalogue_eq_none_iff {ids : List String} {id : String} :
    (catalogue (some ids)).resolve? id = none ↔ Unlisted ids id := by
  rw [Catalogue.resolve?_eq_none_iff, Bool.eq_false_iff, Bool.eq_false_iff, Ne, Ne,
    isActive_ansible, isActive_ansible]
  rcases RuleKey.otherSpelling_cases id with ⟨rest, hrest, rfl, hother⟩ | ⟨hbare, hother⟩
  · rw [hother]
    constructor
    · rintro ⟨hid, hvariant⟩
      refine ⟨hid, fun rest' _ h => ?_, fun h => absurd rfl (h rest hrest)⟩
      exact (String.append_right_inj "E").1 h ▸ hvariant
    · intro h
      exact ⟨h.printed, h.bare rest hrest rfl⟩
  · rw [hother]
    constructor
    · rintro ⟨hid, hvariant⟩
      exact ⟨hid, fun rest hrest h => absurd h (hbare rest hrest), fun _ => hvariant⟩
    · intro h
      exact ⟨h.printed, h.legacy hbare⟩

example : (catalogue (some [" ", ""])).resolve? "301" = none ∧
    (catalogue none).resolve? "301" = some ⟨"ansible", "301"⟩ ∧
    (catalogue (some ["301 ", " 301"])).resolve? "E301" = some ⟨"ansible", "301"⟩ := by
  decide +kernel

/-! ## Lists that say the same -/

/-- Changes to a list of rules that do not count: another order, entries once more, blanks around
entries and blank entries. -/
inductive Restated : List String → List String → Prop where
  | reordered {ids ids' : List String} (h : ids.Perm ids') : Restated ids ids'
  | repeated {ids : List String} {id : String} (h : id ∈ ids) : Restated ids (id :: ids)
  | padded {ids : List String} {before after : String} (hbefore : Text.isBlankText before = true)
      (hafter : Text.isBlankText after = true) (id : String) :
      Restated (id :: ids) ((before ++ id ++ after) :: ids)
  | blank {ids : List String} {id : String} (h : Text.isBlankText id = true) :
      Restated ids (id :: ids)
  | symm {ids ids' : List String} (h : Restated ids ids') : Restated ids' ids
  | trans {ids ids' ids'' : List String} (h : Restated ids ids') (h' : Restated ids' ids'') :
      Restated ids ids''

theorem Restated.mem_entries_iff {ids ids' : List String} (h : Restated ids ids') (e : String) :
    e ∈ entries ids ↔ e ∈ entries ids' := by
  induction h with
  | reordered h => simp only [mem_entries, h.mem_iff]
  | repeated h =>
    rw [mem_entries_cons]
    exact ⟨.inr, fun he => he.elim (fun ⟨hne, he⟩ => mem_entries.2 ⟨_, h, hne, he⟩) id⟩
  | padded hbefore hafter id =>
    rw [mem_entries_cons, mem_entries_cons, Text.trim_pad hbefore hafter]
  | blank h =>
    rw [mem_entries_cons]
    exact ⟨.inr, fun he => he.elim (fun ⟨hne, _⟩ => absurd (Text.trim_of_blank h) hne) id⟩
  | symm _ ih => exact ih.symm
  | trans _ _ ih ih' => exact ih.trans ih'

theorem Restated.resolve?_eq {ids ids' : List String} (h : Restated ids ids') :
    (catalogue (some ids)).resolve? = (catalogue (some ids')).resolve? :=
  Catalogue.resolve?_congr fun id => by
    rw [isActive_ansible, isActive_ansible, h.mem_entries_iff]

end Options

/-! ## Scans -/

theorem Logged.bind_eq_bind {α β : Type} {m m' : Logged α} {f f' : α → Logged β}
    (hevents : m.events = m'.events) (hvalue : f m.value = f' m'.value) : m >>= f = m' >>= f' := by
  show Logged.mk _ _ = Logged.mk _ _
  rw [hevents, hvalue]

namespace Scan

variable {σ : Type} (runner : Runner σ) (cwd : WorkingDir) (o : Options) (output : Sink) (s : σ)

theorem report_congr {total : Nat} {output : Sink} {r r' : Report} {c c' : Context} (hr : r = r')
    (hc : c.issues = c'.issues) : report total output r c = report total output r' c' := by
  unfold report
  rw [hr, hc]

theorem perform_eq_of_alike (disk : Disk) {properties properties' : List (String × String)}
    {rules rules' : Option (List String)}
    (h : ∀ files, Analysis.Alike (context { o with properties, rules } files)
      (context { o with properties := properties', rules := rules' } files)) :
    perform runner disk cwd { o with properties, rules } output s =
      perform runner disk cwd { o with properties := properties', rules := rules' } output s := by
  unfold perform
  simp only
  split
  case h_1 => rfl
  case h_2 files hfiles =>
    obtain ⟨hevents, hreport, hissues, hstate⟩ :=
      (h files).execute_eq runner .ansible o.lintArgs cwd s
    refine Prod.ext (congrArg (_ >>= ·) (funext fun _ => ?_)) hstate
    exact Logged.bind_eq_bind hevents (report_congr hreport hissues)

/-- **A scan sees of its rules what identifiers mean.** -/
theorem perform_congr (disk : Disk) {rules rules' : Option (List String)}
    (h : (Options.catalogue rules).resolve? = (Options.catalogue rules').resolve?) :
    perform runner disk cwd { o with rules := rules' } output s =
      perform runner disk cwd { o with rules } output s :=
  perform_eq_of_alike runner cwd o output s disk fun _ => ⟨rfl, rfl, rfl, h.symm⟩

/-- The findings that the scan of these files aggregates. -/
def aggregated (files : FileSet) : List (FileUri × Finding) :=
  Analysis.foundIn cwd (context o files)
    (Analysis.lintReplies runner .ansible o.lintArgs (context o files) s)

/-- The issues that it saves. -/
def savedIssues (files : FileSet) : List Issue :=
  (Analysis.execute runner .ansible o.lintArgs cwd (context o files) s).1.value.2.issues

theorem savedIssues_eq (files : FileSet) : savedIssues runner cwd o s files =
    (aggregated runner cwd o s files).filterMap (Analysis.accept? (context o files)) := by
  rw [savedIssues, Analysis.value_execute_eq]
  exact List.nil_append _

theorem resolve?_of_mem_savedIssues {files : FileSet} {i : Issue}
    (h : i ∈ savedIssues runner cwd o s files) :
    ∃ p ∈ aggregated runner cwd o s files,
      (Options.catalogue o.rules).resolve? p.2.rule = some i.rule := by
  rw [savedIssues_eq] at h
  obtain ⟨p, hp, hi⟩ := List.mem_filterMap.1 h
  exact ⟨p, hp, (Analysis.content_of_accept? hi).1⟩

theorem rule_of_mem_savedIssues {ids : List String} (ho : o.rules = some ids) {files : FileSet}
    {i : Issue} (h : i ∈ savedIssues runner cwd o s files) :
    ∃ e ∈ Options.entries ids, i.rule = ⟨RuleKey.ansible, e⟩ := by
  obtain ⟨p, -, hp⟩ := resolve?_of_mem_savedIssues runner cwd o s h
  rw [ho] at hp
  exact Options.isActive_catalogue_some.1 (Catalogue.resolve?_eq_some_iff.1 hp).1

/-- **Rules by a list, and rules without one.** By a list, saved issues have the rules that are its
trimmed entries, and a finding on a known file is dropped for its rule just if it is unlisted;
order, repetitions and blanks do not count. Without a list no finding is dropped for its rule. -/
theorem perform_selects (disk : Disk) :
    (∀ rules files,
      let o := { o with rules }
      let c := context o files
      tally .inactive (Analysis.ownLog cwd c (Analysis.probed runner c s).1
          (Analysis.runsOf runner .ansible o.lintArgs c s)) =
        (aggregated runner cwd o s files).countP (Analysis.droppedForRule c)) ∧
      (∀ ids files,
        let o := { o with rules := some ids }
        (∀ i ∈ savedIssues runner cwd o s files, ∃ e ∈ ids,
          Text.trim e ≠ "" ∧ i.rule.display = "ansible:" ++ Text.trim e) ∧
        (∀ p ∈ aggregated runner cwd o s files,
          Analysis.droppedForRule (context o files) p = true ↔
            (files.find? p.1).isSome = true ∧ Options.Unlisted ids p.2.rule) ∧
        ((∀ e ∈ ids, Text.isBlankText e = true) → savedIssues runner cwd o s files = [])) ∧
      (∀ ids ids', Options.Restated ids ids' →
        (∀ files, savedIssues runner cwd { o with rules := some ids' } s files =
          savedIssues runner cwd { o with rules := some ids } s files) ∧
        perform runner disk cwd { o with rules := some ids' } output s =
          perform runner disk cwd { o with rules := some ids } output s) ∧
      ∀ files,
        let o := { o with rules := none }
        let appended := Analysis.kept (context o files) (aggregated runner cwd o s files)
        (∀ p ∈ aggregated runner cwd o s files,
          Analysis.droppedForRule (context o files) p = false) ∧
        savedIssues runner cwd o s files = appended.map Prod.fst ∧
        ∀ a ∈ appended, a.1.rule.display = "ansible:" ++ a.2 := by
  refine ⟨fun rules files => ?logged, fun ids files => ⟨fun i hi => ?listed, fun p _ => ?dropped,
    fun hblank => ?blank⟩, fun ids ids' h => ⟨fun files => ?saved, ?performed⟩, fun files =>
    ⟨fun p _ => ?undropped, ?appended, fun a ha => ?printed⟩⟩
  case logged => exact Analysis.tally_inactive_ownLog ..
  case listed =>
    obtain ⟨e, he, hrule⟩ := rule_of_mem_savedIssues runner cwd _ s rfl hi
    obtain ⟨id, hid, hne, rfl⟩ := Options.mem_entries.1 he
    exact ⟨id, hid, hne, by rw [hrule]; rfl⟩
  case dropped =>
    rw [Analysis.droppedForRule_iff, ← Options.resolve?_catalogue_eq_none_iff]
    rfl
  case blank =>
    refine List.eq_nil_iff_forall_not_mem.2 fun i hi => ?_
    obtain ⟨e, he, -⟩ := rule_of_mem_savedIssues runner cwd _ s rfl hi
    rw [Options.entries_eq_nil hblank] at he
    cases he
  case saved =>
    exact (Analysis.execute_congr runner .ansible o.lintArgs cwd
      (context { o with rules := some ids } files) s h.resolve?_eq).2.2.1
  case performed => exact perform_congr runner cwd o output s disk h.resolve?_eq
  case undropped =>
    rw [Bool.eq_false_iff, Ne, Analysis.droppedForRule_iff]
    rintro ⟨-, hnone⟩
    cases (Options.resolve?_catalogue_none p.2.rule).symm.trans hnone
  case appended => rw [savedIssues_eq, Analysis.map_fst_kept]
  case printed =>
    have hrule := Analysis.resolve?_of_mem_kept ha
    have hsome := (Options.resolve?_catalogue_none a.2).symm.trans hrule
    rw [← Option.some.inj hsome]
    rfl

end Scan

end PlaybookScan

import Mathlib.Data.List.Basic
import Mathlib.Data.List.TakeWhile
import PlaybookScan.Diagnostic
import PlaybookScan.Proofs.Text.Numeral

/-!
# What the layouts accept

`Fits layout p cs` says that the parts `p` are one way of reading the line `cs` in a layout, with
line numbers in any decimal digits. A line may be read in several ways; the reader takes one with
the longest file name and misses none (`parts?_eq_some_iff`, `parts?_eq_none_iff`). What it takes is
the longest start whose rest is accepted (`longestStart?_eq_some_iff`), and the rests stand behind a
line mark (`lineMark?_append`, `eq_append_of_lineMark?`).
-/

set_option autoImplicit false

namespace PlaybookScan.Diagnostic

open Text

/-! ## Lines and their parts -/

/-- A rule as bracketed lines print it: an `E` and a word. -/
def IsLegacyId (rule : List Char) : Prop :=
  ∃ word, rule = 'E' :: word ∧ word ≠ [] ∧ ∀ c ∈ word, isWordChar c = true

/-- A rule as the other layouts print it. -/
def IsRuleId (rule : List Char) : Prop := rule ≠ [] ∧ ∀ c ∈ rule, isIdChar c = true

instance (rule : List Char) : Decidable (IsLegacyId rule) :=
  decidable_of_iff (rule.head? = some 'E' ∧ rule.tail ≠ [] ∧ rule.tail.all isWordChar = true) <| by
    cases rule <;> simp [IsLegacyId]

instance (rule : List Char) : Decidable (IsRuleId rule) :=
  decidable_of_iff (rule ≠ [] ∧ rule.all isIdChar = true) (by simp [IsRuleId])

theorem IsLegacyId.not_mem {rule : List Char} (h : IsLegacyId rule) {c : Char}
    (hc : isWordChar c = false) : c ∉ rule := by
  obtain ⟨word, rfl, -, hw⟩ := h
  intro hm
  rcases List.mem_cons.1 hm with rfl | hm
  · exact absurd hc (by decide)
  · simp [hw c hm] at hc

theorem IsRuleId.not_mem {rule : List Char} (h : IsRuleId rule) {c : Char}
    (hc : isIdChar c = false) : c ∉ rule := fun hm => by simp [h.2 c hm] at hc

/-- What stands between the file name and the message of a bracketed line. -/
def header (ds rule : List Char) : List Char :=
  ':' :: (ds ++ ':' :: ' ' :: '[' :: (rule ++ [']', ' ']))

/-- What stands between the file name and the detail of a composite rule. -/
def compositeMark (ds : List Char) : List Char := ':' :: (ds ++ ": yaml (yaml[".toList)

/-- The ways of reading a line in a layout. -/
inductive Fits : Layout → Parts → List Char → Prop
  | bracketed {file ds rule message cs : List Char} : file ≠ [] → IsDigits ds → IsLegacyId rule →
      cs = file ++ (header ds rule ++ message) → Fits .bracketed ⟨file, ds, rule, some message⟩ cs
  | rulePrefix {file ds rule cs : List Char} : file ≠ [] → IsDigits ds → IsRuleId rule →
      cs = rule ++ ' ' :: (file ++ ':' :: ds) → Fits .rulePrefix ⟨file, ds, rule, none⟩ cs
  | suffixColon {file ds rule cs : List Char} : file ≠ [] → IsDigits ds → IsRuleId rule →
      cs = file ++ ':' :: (ds ++ ':' :: ' ' :: rule) → Fits .suffixColon ⟨file, ds, rule, none⟩ cs
  | composite {file ds inner cs : List Char} : file ≠ [] → IsDigits ds → inner ≠ [] →
      cs = file ++ (compositeMark ds ++ (inner ++ [']', ')'])) →
      Fits .suffixColon ⟨file, ds, "yaml[".toList ++ inner ++ [']'], none⟩ cs

theorem Fits.filename_ne_nil {layout : Layout} {p : Parts} {cs : List Char}
    (h : Fits layout p cs) : p.filename ≠ [] := by
  cases h <;> assumption

/-! ## The longest start -/

section
variable {α : Type} {p : List Char → Option α}

theorem longestStart?_eq_none_iff {cs : List Char} :
    longestStart? p cs = none ↔ ∀ start rest, cs = start ++ rest → start ≠ [] → p rest = none := by
  induction cs with
  | nil => simp [longestStart?]
  | cons c cs ih =>
    constructor
    · intro h start rest he hne
      simp only [longestStart?] at h
      split at h
      · cases h
      · rename_i hn
        obtain ⟨c', start, rfl⟩ := List.exists_cons_of_ne_nil hne
        obtain ⟨-, he⟩ := List.cons.inj he
        by_cases hs : start = []
        · subst hs
          simpa [he] using h
        · exact ih.1 hn start rest he hs
    · intro h
      have hn : longestStart? p cs = none := ih.2 fun start rest he _ =>
        h (c :: start) rest (by rw [he, List.cons_append]) (by simp)
      simp only [longestStart?, hn]
      rw [h [c] cs rfl (by simp)]
      rfl

theorem longestStart?_spec {cs start : List Char} {a : α}
    (h : longestStart? p cs = some (start, a)) :
    ∃ rest, cs = start ++ rest ∧ start ≠ [] ∧ p rest = some a ∧
      ∀ s r, cs = s ++ r → start.length < s.length → p r = none := by
  induction cs generalizing start a with
  | nil => cases h
  | cons c cs ih =>
    simp only [longestStart?] at h
    cases hl : longestStart? p cs with
    | none =>
      rw [hl] at h
      obtain ⟨a', ha, he⟩ := Option.map_eq_some_iff.1 h
      cases he
      refine ⟨cs, rfl, by simp, ha, fun s r he hlt => ?_⟩
      obtain ⟨c', s, rfl⟩ := List.exists_cons_of_ne_nil (l := s) (by rintro rfl; simp at hlt)
      exact longestStart?_eq_none_iff.1 hl s r (List.cons.inj he).2 (by rintro rfl; simp at hlt)
    | some q =>
      rw [hl] at h
      cases h
      obtain ⟨rest, he, -, ha, hmax⟩ := ih hl
      refine ⟨rest, by rw [he, List.cons_append], by simp, ha, fun s r he hlt => ?_⟩
      obtain ⟨c', s, rfl⟩ := List.exists_cons_of_ne_nil (l := s) (by rintro rfl; simp at hlt)
      exact hmax s r (List.cons.inj he).2 (by simpa using hlt)

theorem longestStart?_eq_some_iff {cs start : List Char} {a : α} :
    longestStart? p cs = some (start, a) ↔
      ∃ rest, cs = start ++ rest ∧ start ≠ [] ∧ p rest = some a ∧
        ∀ s r, cs = s ++ r → start.length < s.length → p r = none := by
  refine ⟨longestStart?_spec, ?_⟩
  rintro ⟨rest, he, hne, ha, hmax⟩
  cases hl : longestStart? p cs with
  | none =>
    rw [longestStart?_eq_none_iff.1 hl start rest he hne] at ha
    cases ha
  | some q =>
    obtain ⟨start', a'⟩ := q
    obtain ⟨rest', he', -, ha', hmax'⟩ := longestStart?_spec hl
    -- of two starts with accepted rests neither is longer
    have h1 : ¬ start'.length < start.length := fun hlt => by
      rw [hmax' start rest he hlt] at ha
      cases ha
    have h2 : ¬ start.length < start'.length := fun hlt => by
      rw [hmax start' rest' he' hlt] at ha'
      cases ha'
    obtain ⟨rfl, rfl⟩ := List.append_inj (he'.symm.trans he) (by omega)
    rw [Option.some.inj (ha'.symm.trans ha)]

end

/-! ## Line marks and rules -/

theorem takeWhile_append_cons {p : Char → Bool} {xs ys : List Char} {c : Char}
    (h : ∀ x ∈ xs, p x = true) (hc : p c = false) : (xs ++ c :: ys).takeWhile p = xs := by
  rw [List.takeWhile_append_of_pos h, List.takeWhile_cons_of_neg (by simp [hc]), List.append_nil]

theorem dropWhile_append_cons {p : Char → Bool} {xs ys : List Char} {c : Char}
    (h : ∀ x ∈ xs, p x = true) (hc : p c = false) : (xs ++ c :: ys).dropWhile p = c :: ys := by
  rw [List.dropWhile_append_of_pos h, List.dropWhile_cons_of_neg (by simp [hc])]

theorem isDecimalDigit_colon : isDecimalDigit ':' = false := by decide

theorem lineMark?_append {ds : List Char} (h : IsDigits ds) (rest : List Char) :
    lineMark? (':' :: (ds ++ ':' :: rest)) = some (ds, ':' :: rest) := by
  simp only [lineMark?, takeWhile_append_cons h.2 isDecimalDigit_colon,
    dropWhile_append_cons h.2 isDecimalDigit_colon, if_neg h.1]

theorem eq_append_of_lineMark? {cs ds rest : List Char} (h : lineMark? cs = some (ds, rest)) :
    cs = ':' :: (ds ++ rest) ∧ IsDigits ds := by
  unfold lineMark? at h
  split at h
  · rename_i cs
    split at h
    · cases h
    · rename_i hne
      simp only [Option.some.injEq, Prod.mk.injEq] at h
      obtain ⟨rfl, rfl⟩ := h
      exact ⟨by rw [List.takeWhile_append_dropWhile], hne, fun c hc => List.mem_takeWhile_imp hc⟩
  · cases h

theorem bracketedRule?_eq_some_iff {cs rule message : List Char} :
    bracketedRule? cs = some (rule, message) ↔
      cs = ':' :: ' ' :: '[' :: (rule ++ ']' :: ' ' :: message) ∧ IsLegacyId rule := by
  constructor
  · intro h
    unfold bracketedRule? at h
    split at h
    · rename_i cs
      split at h
      · rename_i c word message' ht hd
        simp only [Option.some.injEq, Prod.mk.injEq] at h
        obtain ⟨rfl, rfl⟩ := h
        have hw : ∀ x ∈ c :: word, isWordChar x = true := fun x hx =>
          List.mem_takeWhile_imp (ht.symm ▸ hx)
        refine ⟨?_, c :: word, rfl, by simp, hw⟩
        rw [← List.takeWhile_append_dropWhile (p := isWordChar) (l := cs), ht, hd]
        rfl
      · cases h
    · cases h
  · rintro ⟨rfl, word, rfl, hne, hw⟩
    obtain ⟨c, word, rfl⟩ := List.exists_cons_of_ne_nil hne
    have hb : isWordChar ']' = false := by decide
    simp only [bracketedRule?, List.cons_append]
    rw [← List.cons_append, takeWhile_append_cons hw hb, dropWhile_append_cons hw hb]
    rfl

theorem compositeRule?_eq_some_iff {cs rule : List Char} :
    compositeRule? cs = some rule ↔
      ∃ inner, inner ≠ [] ∧ cs = inner ++ [']', ')'] ∧ rule = "yaml[".toList ++ inner ++ [']'] := by
  constructor
  · intro h
    unfold compositeRule? at h
    split at h
    · rename_i c inner hr
      refine ⟨(c :: inner).reverse, by simp, ?_, (Option.some.inj h).symm⟩
      rw [← List.reverse_reverse cs, hr]
      simp
    · cases h
  · rintro ⟨inner, hne, rfl, rfl⟩
    obtain ⟨c, inner', hr⟩ := List.exists_cons_of_ne_nil (List.reverse_ne_nil_iff.2 hne)
    have hi : inner = (c :: inner').reverse := by rw [← hr, List.reverse_reverse]
    simp [compositeRule?, hi]

theorem suffixRule?_eq_some_iff {cs rule : List Char} :
    suffixRule? cs = some rule ↔
      (IsRuleId rule ∧ cs = ':' :: ' ' :: rule) ∨
        ∃ inner, inner ≠ [] ∧ cs = ": yaml (yaml[".toList ++ (inner ++ [']', ')']) ∧
          rule = "yaml[".toList ++ inner ++ [']'] := by
  have hcomposite : ": yaml (yaml[".toList =
    ':' :: ' ' :: ['y', 'a', 'm', 'l', ' ', '(', 'y', 'a', 'm', 'l', '['] := by decide
  rw [hcomposite]
  constructor
  · intro h
    unfold suffixRule? at h
    split at h
    · rename_i cs
      split at h
      · rename_i inner hp
        rw [List.isPrefixOf?_eq_some_iff_append_eq] at hp
        obtain ⟨detail, hne, rfl, rfl⟩ := compositeRule?_eq_some_iff.1 h
        exact .inr ⟨detail, hne, by rw [← hp]; rfl, rfl⟩
      · split at h
        · rename_i hc
          cases h
          exact .inl ⟨⟨hc.1, List.all_eq_true.1 hc.2⟩, rfl⟩
        · cases h
    · cases h
  · rintro (⟨⟨hne, hid⟩, rfl⟩ | ⟨inner, hne, rfl, rfl⟩)
    · have hp :
          ['y', 'a', 'm', 'l', ' ', '(', 'y', 'a', 'm', 'l', '['].isPrefixOf? rule = none := by
        rw [Option.eq_none_iff_forall_ne_some]
        intro tail ht
        rw [List.isPrefixOf?_eq_some_iff_append_eq] at ht
        have := hid ' ' (by rw [← ht]; simp)
        exact absurd this (by decide)
      simp only [suffixRule?, hp]
      rw [if_pos ⟨hne, List.all_eq_true.2 hid⟩]
    · have hp : ['y', 'a', 'm', 'l', ' ', '(', 'y', 'a', 'm', 'l', '['].isPrefixOf?
          (['y', 'a', 'm', 'l', ' ', '(', 'y', 'a', 'm', 'l', '['] ++ (inner ++ [']', ')'])) =
          some (inner ++ [']', ')']) := List.isPrefixOf?_eq_some_iff_append_eq.2 rfl
      simp only [suffixRule?, List.cons_append, List.nil_append] at hp ⊢
      simp only [hp]
      exact compositeRule?_eq_some_iff.2 ⟨inner, hne, rfl, rfl⟩

/-! ## The three readers -/

/-- What a bracketed line has behind its file name. -/
def bracketedRest? (cs : List Char) : Option (List Char × List Char × List Char) := do
  let (digits, cs) ← lineMark? cs
  let (rule, message) ← bracketedRule? cs
  return (digits, rule, message)

/-- What a line that ends in its rule has behind its file name. -/
def suffixRest? (cs : List Char) : Option (List Char × List Char) := do
  let (digits, cs) ← lineMark? cs
  let rule ← suffixRule? cs
  return (digits, rule)

/-- The parts of a file name and the rest of a bracketed line. -/
def bracketedParts (file : List Char) (rest : List Char × List Char × List Char) : Parts :=
  ⟨file, rest.1, rest.2.1, some rest.2.2⟩

/-- The parts of a file name and the rest of a line that ends in its rule. -/
def suffixParts (file : List Char) (rest : List Char × List Char) : Parts :=
  ⟨file, rest.1, rest.2, none⟩

theorem bracketed?_eq (cs : List Char) :
    bracketed? cs = (longestStart? bracketedRest? cs).map fun q => bracketedParts q.1 q.2 := rfl

theorem bracketedRest?_eq_some_iff {cs ds rule message : List Char} :
    bracketedRest? cs = some (ds, rule, message) ↔
      cs = header ds rule ++ message ∧ IsDigits ds ∧ IsLegacyId rule := by
  simp only [bracketedRest?, header, Option.bind_eq_bind, Option.bind_eq_some_iff, Prod.exists]
  constructor
  · rintro ⟨ds', r, hm, rule', message', hr, he⟩
    cases he
    obtain ⟨rfl, hds⟩ := eq_append_of_lineMark? hm
    obtain ⟨rfl, hrule⟩ := bracketedRule?_eq_some_iff.1 hr
    exact ⟨by simp, hds, hrule⟩
  · rintro ⟨rfl, hds, hrule⟩
    refine ⟨ds, _, ?_, rule, message, bracketedRule?_eq_some_iff.2 ⟨rfl, hrule⟩, rfl⟩
    rw [← lineMark?_append hds]
    simp

theorem suffixRest?_eq_some_iff {cs ds rule : List Char} :
    suffixRest? cs = some (ds, rule) ↔
      IsDigits ds ∧ ∃ rest, cs = ':' :: (ds ++ rest) ∧ suffixRule? rest = some rule := by
  simp only [suffixRest?, Option.bind_eq_bind, Option.bind_eq_some_iff, Prod.exists]
  constructor
  · rintro ⟨ds', r, hm, rule', hr, he⟩
    cases he
    obtain ⟨rfl, hds⟩ := eq_append_of_lineMark? hm
    exact ⟨hds, r, rfl, hr⟩
  · rintro ⟨hds, rest, rfl, hr⟩
    refine ⟨ds, rest, ?_, rule, hr, rfl⟩
    rcases suffixRule?_eq_some_iff.1 hr with ⟨-, rfl⟩ | ⟨inner, -, rfl, -⟩
    · exact lineMark?_append hds _
    · exact lineMark?_append hds _

theorem fits_bracketed_iff {p : Parts} {cs : List Char} :
    Fits .bracketed p cs ↔ ∃ rest a, cs = p.filename ++ rest ∧ p.filename ≠ [] ∧
      bracketedRest? rest = some a ∧ p = bracketedParts p.filename a := by
  constructor
  · rintro (⟨hf, hds, hr, rfl⟩)
    exact ⟨_, (_, _, _), rfl, hf, bracketedRest?_eq_some_iff.2 ⟨rfl, hds, hr⟩, rfl⟩
  · rintro ⟨rest, ⟨ds, rule, message⟩, rfl, hf, ha, hp⟩
    obtain ⟨rfl, hds, hr⟩ := bracketedRest?_eq_some_iff.1 ha
    rw [hp]
    exact .bracketed hf hds hr rfl

theorem fits_suffixColon_iff {p : Parts} {cs : List Char} :
    Fits .suffixColon p cs ↔ ∃ rest a, cs = p.filename ++ rest ∧ p.filename ≠ [] ∧
      suffixRest? rest = some a ∧ p = suffixParts p.filename a := by
  constructor
  · intro h
    cases h with
    | suffixColon hf hds hr he =>
      exact ⟨_, (_, _), he, hf, suffixRest?_eq_some_iff.2
        ⟨hds, _, rfl, suffixRule?_eq_some_iff.2 (.inl ⟨hr, rfl⟩)⟩, rfl⟩
    | composite hf hds hi he =>
      exact ⟨_, (_, _), he, hf, suffixRest?_eq_some_iff.2
        ⟨hds, _, by simp [compositeMark], suffixRule?_eq_some_iff.2 (.inr ⟨_, hi, rfl, rfl⟩)⟩, rfl⟩
  · rintro ⟨rest, ⟨ds, rule⟩, rfl, hf, ha, hp⟩
    obtain ⟨hds, rest, rfl, hr⟩ := suffixRest?_eq_some_iff.1 ha
    rw [hp]
    rcases suffixRule?_eq_some_iff.1 hr with ⟨hid, rfl⟩ | ⟨inner, hi, rfl, rfl⟩
    · exact .suffixColon hf hds hid rfl
    · exact .composite hf hds hi (by simp [compositeMark, suffixParts])

/-- `p` is a way of reading `cs`, and no way has a longer file name. -/
def FitsLongest (layout : Layout) (p : Parts) (cs : List Char) : Prop :=
  Fits layout p cs ∧ ∀ q, Fits layout q cs → q.filename.length ≤ p.filename.length

section
variable {α : Type} {layout : Layout} {rest? : List Char → Option α}
  (build : List Char → α → Parts)
  (hfits : ∀ p cs, Fits layout p cs ↔ ∃ rest a, cs = p.filename ++ rest ∧ p.filename ≠ [] ∧
    rest? rest = some a ∧ p = build p.filename a)
  (hfile : ∀ file a, (build file a).filename = file)
include hfits hfile

theorem longest_eq_none_iff {cs : List Char} :
    ((longestStart? rest? cs).map fun q => build q.1 q.2) = none ↔ ∀ p, ¬ Fits layout p cs := by
  rw [Option.map_eq_none_iff, longestStart?_eq_none_iff]
  constructor
  · intro h p hp
    obtain ⟨rest, a, he, hne, ha, -⟩ := (hfits p cs).1 hp
    rw [h _ _ he hne] at ha
    cases ha
  · intro h start rest he hne
    rw [Option.eq_none_iff_forall_ne_some]
    intro a ha
    exact h (build start a) ((hfits _ _).2
      ⟨rest, a, by rw [hfile, he], by rwa [hfile], ha, by rw [hfile]⟩)

theorem longest_eq_some_iff {cs : List Char} {p : Parts} :
    ((longestStart? rest? cs).map fun q => build q.1 q.2) = some p ↔ FitsLongest layout p cs := by
  rw [Option.map_eq_some_iff]
  constructor
  · rintro ⟨⟨start, a⟩, hl, rfl⟩
    obtain ⟨rest, he, hne, ha, hmax⟩ := longestStart?_eq_some_iff.1 hl
    refine ⟨(hfits _ _).2 ⟨rest, a, by rw [hfile, he], by rwa [hfile], ha, by rw [hfile]⟩, ?_⟩
    intro q hq
    obtain ⟨rest', a', he', -, ha', -⟩ := (hfits q cs).1 hq
    rw [hfile]
    refine Nat.le_of_not_lt fun hlt => ?_
    rw [hmax _ _ he' hlt] at ha'
    cases ha'
  · rintro ⟨hp, hmax⟩
    obtain ⟨rest, a, he, hne, ha, hb⟩ := (hfits p cs).1 hp
    refine ⟨(p.filename, a), longestStart?_eq_some_iff.2 ⟨rest, he, hne, ha, ?_⟩, hb.symm⟩
    intro s r hs hlt
    rw [Option.eq_none_iff_forall_ne_some]
    intro a' ha'
    have := hmax (build s a') ((hfits _ _).2
      ⟨r, a', by rw [hfile, hs], by rw [hfile]; rintro rfl; simp at hlt, ha', by rw [hfile]⟩)
    rw [hfile] at this
    omega

end

theorem rulePrefix?_eq_some_iff {cs : List Char} {p : Parts} :
    rulePrefix? cs = some p ↔ Fits .rulePrefix p cs := by
  constructor
  · intro h
    unfold rulePrefix? at h
    split at h
    · rename_i c rule place hr hp
      split at h
      · rename_i d digits f filename hd hf
        cases h
        have hplace : place = (f :: filename).reverse ++ ':' :: (d :: digits).reverse := by
          rw [← List.reverse_reverse place,
            ← List.takeWhile_append_dropWhile (p := isDecimalDigit) (l := place.reverse), hd, hf]
          simp
        refine .rulePrefix (by simp) ⟨by simp, fun x hx => ?_⟩ ⟨by simp, fun x hx => ?_⟩ ?_
        · exact List.mem_takeWhile_imp (hd.symm ▸ List.mem_reverse.1 hx)
        · exact List.mem_takeWhile_imp (hr.symm ▸ hx)
        · rw [← hplace, ← hr, ← hp, List.takeWhile_append_dropWhile]
      · cases h
    · cases h
  · intro h
    cases h with
    | @rulePrefix file ds rule cs hf hds hr he =>
      have hsp : isIdChar ' ' = false := by decide
      have hall : ∀ x ∈ ds.reverse, isDecimalDigit x = true := fun x hx =>
        hds.2 x (List.mem_reverse.1 hx)
      have hplace : (file ++ ':' :: ds).reverse = ds.reverse ++ ':' :: file.reverse := by simp
      obtain ⟨c, rule, rfl⟩ := List.exists_cons_of_ne_nil hr.1
      obtain ⟨f, file', hfile⟩ := List.exists_cons_of_ne_nil (List.reverse_ne_nil_iff.2 hf)
      obtain ⟨d, ds', hd⟩ := List.exists_cons_of_ne_nil (List.reverse_ne_nil_iff.2 hds.1)
      unfold rulePrefix?
      rw [he, takeWhile_append_cons hr.2 hsp, dropWhile_append_cons hr.2 hsp]
      simp only
      rw [hplace, takeWhile_append_cons hall isDecimalDigit_colon,
        dropWhile_append_cons hall isDecimalDigit_colon, hd, hfile]
      simp only
      rw [← hd, ← hfile, List.reverse_reverse, List.reverse_reverse]

theorem Fits.eq_of_rulePrefix {p q : Parts} {cs : List Char} (hp : Fits .rulePrefix p cs)
    (hq : Fits .rulePrefix q cs) : p = q :=
  Option.some.inj ((rulePrefix?_eq_some_iff.2 hp).symm.trans (rulePrefix?_eq_some_iff.2 hq))

theorem Fits.longest_of_rulePrefix {p : Parts} {cs : List Char} (h : Fits .rulePrefix p cs) :
    FitsLongest .rulePrefix p cs :=
  ⟨h, fun q hq => by rw [h.eq_of_rulePrefix hq]⟩

theorem parts?_eq_none_iff {layout : Layout} {cs : List Char} :
    parts? layout cs = none ↔ '\n' ∈ cs ∨ ∀ p, ¬ Fits layout p cs := by
  unfold parts?
  split
  · rename_i hn
    simp [hn]
  · rename_i hn
    simp only [hn, false_or]
    cases layout with
    | bracketed =>
      exact longest_eq_none_iff bracketedParts (fun _ _ => fits_bracketed_iff) fun _ _ => rfl
    | rulePrefix =>
      simp only [Option.eq_none_iff_forall_ne_some, ne_eq, rulePrefix?_eq_some_iff]
    | suffixColon =>
      exact longest_eq_none_iff suffixParts (fun _ _ => fits_suffixColon_iff) fun _ _ => rfl

theorem parts?_eq_some_iff {layout : Layout} {cs : List Char} {p : Parts} :
    parts? layout cs = some p ↔ '\n' ∉ cs ∧ FitsLongest layout p cs := by
  unfold parts?
  split
  · rename_i hn
    simp [hn]
  · rename_i hn
    simp only [hn, not_false_eq_true, true_and]
    cases layout with
    | bracketed =>
      exact longest_eq_some_iff bracketedParts (fun _ _ => fits_bracketed_iff) fun _ _ => rfl
    | rulePrefix =>
      exact rulePrefix?_eq_some_iff.trans ⟨Fits.longest_of_rulePrefix, And.left⟩
    | suffixColon =>
      exact longest_eq_some_iff suffixParts (fun _ _ => fits_suffixColon_iff) fun _ _ => rfl

theorem append_cons_ne_append_cons {x y s t : List Char} {a b : Char} (hab : a ≠ b) (ha : a ∉ t)
    (hb : b ∉ s) : x ++ a :: s ≠ y ++ b :: t := by
  intro h
  rcases List.append_eq_append_iff.1 h with ⟨z, -, hz⟩ | ⟨z, -, hz⟩
  · have hm : b ∈ a :: s := by rw [hz]; simp
    rcases List.mem_cons.1 hm with he | hm
    · exact hab he.symm
    · exact hb hm
  · have hm : a ∈ b :: t := by rw [hz]; simp
    rcases List.mem_cons.1 hm with he | hm
    · exact hab he
    · exact ha hm

/-- A line that ends in its line number does not end in its rule. -/
theorem Fits.not_rulePrefix_and_suffixColon {p q : Parts} {cs : List Char}
    (hp : Fits .rulePrefix p cs) (hq : Fits .suffixColon q cs) : False := by
  cases hp with
  | @rulePrefix file ds rule cs hf hds hr he =>
    cases hq with
    | @suffixColon file' ds' rule' cs hf' hds' hr' he' =>
      refine append_cons_ne_append_cons (x := rule ++ ' ' :: file)
        (y := file' ++ ':' :: (ds' ++ [':'])) (a := ':') (by decide) (hr'.not_mem (by decide))
        (hds.not_mem (c := ' ') (by decide)) ?_
      simpa using he.symm.trans he'
    | @composite file' ds' inner cs hf' hds' hi' he' =>
      refine append_cons_ne_append_cons (x := rule ++ ' ' :: file)
        (y := file' ++ (compositeMark ds' ++ (inner ++ [']']))) (a := ':') (by decide)
        List.not_mem_nil (hds.not_mem (c := ')') (by decide)) ?_
      simpa using he.symm.trans he'

end PlaybookScan.Diagnostic

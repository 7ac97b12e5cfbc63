import PlaybookScan.Proofs.Diagnostic.Layout

/-!
# Diagnostics and their lines

What is read from a line is what the line prints (`prints_of_parse?`), and a printed diagnostic is
read back (`parse?_printed`). Names and messages may hold text that looks like the middle of a line
(`IsHeader`, `IsCompositeMark`), so this needs that the longest file name is the intended one:

* `mark_suffix`: a mark further right than the line's own one lies in what follows.
* `header_prefix_of_append`: a header that starts in the file name ends there.
* `Fits.longest_of_avoids`, `Fits.length_le_of_isRuleId`: no file name is longer than the intended
  one if the message holds no header, or if the line ends in a rule that is not composite.
-/

set_option autoImplicit false

namespace PlaybookScan.Diagnostic

open Text

/-! ## Printed lines -/

def bracketedLine (file ds rule message : String) : String :=
  file ++ ":" ++ ds ++ ": [" ++ rule ++ "] " ++ message

def rulePrefixLine (file ds rule : String) : String := rule ++ " " ++ file ++ ":" ++ ds

def suffixColonLine (file ds rule : String) : String := file ++ ":" ++ ds ++ ": " ++ rule

/-- `line` is the diagnostic `d` with its line number written as `ds`. -/
def Prints (ds line : String) (d : Diagnostic) : Prop :=
  match d.layout with
  | .bracketed =>
    IsLegacyId d.finding.rule.toList ∧ ∃ message, d.finding.message = some message ∧
      line = bracketedLine d.filename ds d.finding.rule message
  | .rulePrefix =>
    IsRuleId d.finding.rule.toList ∧ d.finding.message = none ∧
      line = rulePrefixLine d.filename ds d.finding.rule
  | .suffixColon =>
    d.finding.message = none ∧
      ((IsRuleId d.finding.rule.toList ∧ line = suffixColonLine d.filename ds d.finding.rule) ∨
        ∃ inner, inner ≠ "" ∧ d.finding.rule = "yaml[" ++ inner ++ "]" ∧
          line = suffixColonLine d.filename ds ("yaml (" ++ d.finding.rule ++ ")"))

theorem toList_bracketedLine (file ds rule message : String) :
    (bracketedLine file ds rule message).toList =
      file.toList ++ (header ds.toList rule.toList ++ message.toList) := by
  simp [bracketedLine, header]

theorem toList_rulePrefixLine (file ds rule : String) :
    (rulePrefixLine file ds rule).toList =
      rule.toList ++ ' ' :: (file.toList ++ ':' :: ds.toList) := by
  simp [rulePrefixLine]

theorem toList_suffixColonLine (file ds rule : String) :
    (suffixColonLine file ds rule).toList =
      file.toList ++ ':' :: (ds.toList ++ ':' :: ' ' :: rule.toList) := by
  simp [suffixColonLine]

theorem toList_compositeLine (file ds inner : String) :
    (suffixColonLine file ds ("yaml (yaml[" ++ inner ++ "])")).toList =
      file.toList ++ (compositeMark ds.toList ++ (inner.toList ++ [']', ')'])) := by
  simp [suffixColonLine, compositeMark]

/-! ## Reading -/

theorem findSome?_parseAs? (a b c : Layout) (line : String) :
    [a, b, c].findSome? (parseAs? · line) =
      (parseAs? a line).or ((parseAs? b line).or (parseAs? c line)) := by
  simp only [List.findSome?]
  cases parseAs? a line <;> cases parseAs? b line <;> cases parseAs? c line <;> rfl

theorem parse?_eq (line : String) :
    parse? line = (parseAs? .bracketed line).or
      ((parseAs? .rulePrefix line).or (parseAs? .suffixColon line)) :=
  findSome?_parseAs? .bracketed .rulePrefix .suffixColon line

/-- The diagnostic that parts make with the line number `n`. -/
def ofParts (layout : Layout) (p : Parts) (n : UInt32) : Diagnostic :=
  ⟨String.ofList p.filename, ⟨n, String.ofList p.rule, p.message.map String.ofList⟩, layout⟩

theorem parseAs?_eq_some_iff {layout : Layout} {line : String} {d : Diagnostic} :
    parseAs? layout line = some d ↔ ∃ p n, '\n' ∉ line.toList ∧ FitsLongest layout p line.toList ∧
      IsNumeral p.digits n.toNat ∧ d = ofParts layout p n := by
  simp only [parseAs?, Option.bind_eq_some_iff, parts?_eq_some_iff, ofParts?,
    Option.map_eq_some_iff, number?_eq_some_iff]
  constructor
  · rintro ⟨p, ⟨hn, hp⟩, n, hd, rfl⟩
    exact ⟨p, n, hn, hp, hd, rfl⟩
  · rintro ⟨p, n, hn, hp, hd, rfl⟩
    exact ⟨p, ⟨hn, hp⟩, n, hd, rfl⟩

theorem parseAs?_of_fitsLongest {layout : Layout} {p : Parts} {line : String}
    (h : FitsLongest layout p line.toList) (hnl : '\n' ∉ line.toList) :
    parseAs? layout line = (number? p.digits).map (ofParts layout p) := by
  rw [parseAs?, parts?_eq_some_iff.2 ⟨hnl, h⟩]
  rfl

theorem parseAs?_eq_none {layout : Layout} {line : String} (h : ∀ p, ¬ Fits layout p line.toList) :
    parseAs? layout line = none := by
  simp [parseAs?, parts?_eq_none_iff.2 (.inr h)]

theorem exists_fits_of_parse? {line : String} {d : Diagnostic} (h : parse? line = some d) :
    ∃ p, '\n' ∉ line.toList ∧ Fits d.layout p line.toList ∧
      IsNumeral p.digits d.finding.line.toNat ∧ d = ofParts d.layout p d.finding.line := by
  simp only [parse?, List.findSome?_eq_some_iff] at h
  obtain ⟨-, layout, -, -, h, -⟩ := h
  obtain ⟨p, n, hn, hp, hd, rfl⟩ := parseAs?_eq_some_iff.1 h
  exact ⟨p, hn, hp.1, hd, rfl⟩

theorem filename_ne_empty_of_parse? {line : String} {d : Diagnostic} (h : parse? line = some d) :
    d.filename ≠ "" := by
  obtain ⟨p, -, hp, -, hd⟩ := exists_fits_of_parse? h
  rw [hd]
  simpa [ofParts] using hp.filename_ne_nil

theorem Fits.prints {layout : Layout} {p : Parts} {line : String} (h : Fits layout p line.toList)
    (n : UInt32) : Prints (String.ofList p.digits) line (ofParts layout p n) := by
  cases h with
  | bracketed hf hds hr he =>
    exact ⟨by simpa [ofParts] using hr, _, rfl, String.toList_injective (by
      simp [toList_bracketedLine, he, ofParts])⟩
  | rulePrefix hf hds hr he =>
    exact ⟨by simpa [ofParts] using hr, rfl, String.toList_injective (by
      simp [toList_rulePrefixLine, he, ofParts])⟩
  | suffixColon hf hds hr he =>
    exact ⟨rfl, .inl ⟨by simpa [ofParts] using hr, String.toList_injective (by
      simp [toList_suffixColonLine, he, ofParts])⟩⟩
  | @composite file ds inner cs hf hds hi he =>
    refine ⟨rfl, .inr ⟨String.ofList inner, by simpa using hi, ?_, String.toList_injective ?_⟩⟩
    · exact String.toList_injective (by simp [ofParts])
    · simp [toList_suffixColonLine, compositeMark, he, ofParts]

/-- **What is read is what the line prints**, in ASCII digits that name a number of 32 bits. -/
theorem prints_of_parse? {line : String} {d : Diagnostic} (h : parse? line = some d) :
    '\n' ∉ line.toList ∧ d.filename ≠ "" ∧ d.finding.line.toNat ≤ 4294967295 ∧
      ∃ ds, IsNumeral ds.toList d.finding.line.toNat ∧ Prints ds line d := by
  obtain ⟨p, hn, hp, hds, hd⟩ := exists_fits_of_parse? h
  refine ⟨hn, filename_ne_empty_of_parse? h, ?_, String.ofList p.digits, by simpa using hds, ?_⟩
  · have := d.finding.line.toNat_lt
    omega
  · rw [hd]
    exact hp.prints _

theorem prints_of_header_in_name :
    parse? "a:1: [E1] b:007: [E301] x: y" =
      some ⟨"a:1: [E1] b", ⟨7, "E301", some "x: y"⟩, .bracketed⟩ ∧
    ∃ ds, IsNumeral ds.toList 7 ∧ Prints ds "a:1: [E1] b:007: [E301] x: y"
      ⟨"a:1: [E1] b", ⟨7, "E301", some "x: y"⟩, .bracketed⟩ := by
  have h : parse? "a:1: [E1] b:007: [E301] x: y" =
    some ⟨"a:1: [E1] b", ⟨7, "E301", some "x: y"⟩, .bracketed⟩ := by decide
  exact ⟨h, (prints_of_parse? h).2.2.2⟩

/-! ## Texts that must not stand in a name or a message -/

def IsHeader (h : List Char) : Prop := ∃ ds rule, IsDigits ds ∧ IsLegacyId rule ∧ h = header ds rule

def IsCompositeMark (h : List Char) : Prop := ∃ ds, IsDigits ds ∧ h = compositeMark ds

/-- No text in `P` stands anywhere in `cs`. -/
def Avoids (P : List Char → Prop) (cs : List Char) : Prop := ∀ h, P h → ¬ h <:+: cs

theorem avoids_isHeader_iff {cs : List Char} :
    Avoids IsHeader cs ↔ bracketed? (' ' :: cs) = none := by
  rw [bracketed?_eq,
    longest_eq_none_iff bracketedParts (fun _ _ => fits_bracketed_iff) fun _ _ => rfl]
  constructor
  · intro h p hp
    cases hp with
    | @bracketed file ds rule message cs hf hds hr he =>
      obtain ⟨c, file, rfl⟩ := List.exists_cons_of_ne_nil hf
      refine h _ ⟨ds, rule, hds, hr, rfl⟩ ⟨file, message, ?_⟩
      simpa using (List.cons.inj he).2.symm
  · rintro h _ ⟨ds, rule, hds, hr, rfl⟩ ⟨s, t, he⟩
    exact h ⟨' ' :: s, ds, rule, some t⟩
      (.bracketed (by simp) hds hr (by rw [← he]; simp))

instance (cs : List Char) : Decidable (Avoids IsHeader cs) :=
  decidable_of_iff' _ avoids_isHeader_iff

/-! ## Where a mark can stand -/

theorem suffix_of_cons_suffix_append {c : Char} {y a b : List Char} (h : c :: y <:+ a ++ b)
    (hc : c ∉ a) : c :: y <:+ b := by
  obtain ⟨s, hs⟩ := h
  rcases List.append_eq_append_iff.1 hs with ⟨z, rfl, hz⟩ | ⟨z, -, rfl⟩
  · cases z with
    | nil => exact ⟨[], by simpa using hz⟩
    | cons d z =>
      obtain ⟨rfl, -⟩ := List.cons.inj hz
      exact absurd (by simp) hc
  · exact ⟨z, rfl⟩

theorem infix_of_cons_infix_append {c : Char} {y a b : List Char} (h : c :: y <:+: a ++ b)
    (hc : c ∉ a) : c :: y <:+: b := by
  obtain ⟨s, t, hs⟩ := h
  have ht : c :: (y ++ t) <:+ a ++ b := ⟨s, by simpa using hs⟩
  exact List.IsInfix.trans ⟨[], t, by simp⟩ (suffix_of_cons_suffix_append ht hc).isInfix

theorem infix_of_append_infix_append {u a b : List Char} {c : Char} (h : u ++ [c] <:+: a ++ b)
    (hc : c ∉ b) : u ++ [c] <:+: a := by
  obtain ⟨s, t, hs⟩ := h
  rcases List.append_eq_append_iff.1 hs with ⟨z, rfl, -⟩ | ⟨z, hz, rfl⟩
  · exact ⟨s, z, rfl⟩
  · rcases List.eq_nil_or_concat z with rfl | ⟨z, d, rfl⟩
    · exact ⟨s, [], by simpa using hz⟩
    · rw [List.concat_eq_append, ← List.append_assoc, ← List.append_assoc] at hz
      obtain ⟨-, hd⟩ := List.append_inj' hz rfl
      exact absurd (by simp [(List.cons.inj hd).1]) hc

theorem header_eq_append (ds rule : List Char) :
    header ds rule = ':' :: (ds ++ ':' :: ' ' :: '[' :: (rule ++ [']'])) ++ [' '] := by
  simp [header]

theorem compositeMark_eq_append (ds : List Char) :
    compositeMark ds = ':' :: (ds ++ ": yaml (yaml".toList) ++ ['['] := by
  simp [compositeMark]

/-- A line mark behind the first one of `:ds: text` stands in `text`. -/
theorem mark_suffix {ds ds' x y z : List Char} (hds : IsDigits ds) (hds' : IsDigits ds')
    (hx : x ≠ []) (h : ':' :: (ds ++ ':' :: ' ' :: z) = x ++ ':' :: (ds' ++ y)) :
    ':' :: (ds' ++ y) <:+ z := by
  obtain ⟨c, x, rfl⟩ := List.exists_cons_of_ne_nil hx
  have hs : ':' :: (ds' ++ y) <:+ ds ++ ':' :: ' ' :: z := ⟨x, (List.cons.inj h).2.symm⟩
  have hs := suffix_of_cons_suffix_append hs (hds.not_mem isDecimalDigit_colon)
  rcases List.suffix_cons_iff.1 hs with he | hs
  · obtain ⟨d, rest, rfl, hd⟩ := hds'.exists_cons
    have hd' : d = ' ' := by simpa using (List.cons.inj (List.cons.inj he).2).1
    rw [hd'] at hd
    exact absurd hd (by decide)
  · rcases List.suffix_cons_iff.1 hs with he | hs
    · cases he
    · exact hs

/-- A header that starts in a file name, before a line mark, ends in the file name. -/
theorem header_prefix_of_append {f ds rule n t y : List Char} (hds : IsDigits ds)
    (hr : IsLegacyId rule) (hn : IsDigits n) (hf : f ≠ [])
    (h : f ++ ':' :: (n ++ y) = header ds rule ++ t) : header ds rule <+: f := by
  obtain ⟨c, f, rfl⟩ := List.exists_cons_of_ne_nil hf
  rcases List.append_eq_append_iff.1 h with ⟨z, hz, hz'⟩ | ⟨z, hz, -⟩
  · cases z with
    | nil => exact ⟨[], by simpa using hz⟩
    | cons d z =>
      -- the only colon of a header behind its first character is followed by a space
      simp only [List.cons_append, List.cons.injEq] at hz'
      obtain ⟨rfl, hzt⟩ := hz'
      have htail : ':' ∉ ' ' :: '[' :: (rule ++ [']', ' ']) := by
        simp [hr.not_mem (c := ':') (by decide)]
      have hz := ((List.append_cons_inj_of_notMem (hds.not_mem isDecimalDigit_colon) htail).1
        (List.cons.inj hz).2).2.2
      obtain ⟨d, rest, rfl, hd⟩ := hn.exists_cons
      rw [← hz] at hzt
      simp only [List.cons_append, List.cons.injEq] at hzt
      obtain ⟨rfl, -⟩ := hzt
      exact absurd hd (by decide)
  · exact ⟨z, hz.symm⟩

/-! ## The four shapes -/

theorem Fits.header_infix {p : Parts} {cs : List Char} (h : Fits .bracketed p cs) :
    ∃ ds rule, IsDigits ds ∧ IsLegacyId rule ∧ header ds rule <:+: cs := by
  cases h with
  | @bracketed file ds rule message cs hf hds hr he =>
    exact ⟨ds, rule, hds, hr, file, message, by rw [he, List.append_assoc]⟩

theorem Fits.suffixColon_mark {p : Parts} {cs : List Char} (h : Fits .suffixColon p cs) :
    ∃ y, IsDigits p.digits ∧ cs = p.filename ++ ':' :: (p.digits ++ y) := by
  cases h with
  | suffixColon hf hds hr he => exact ⟨_, hds, he⟩
  | composite hf hds hi he => exact ⟨_, hds, by simpa [compositeMark] using he⟩

/-- A header of a bracketed reading is behind the file name, if that holds none. -/
theorem Fits.header_behind {p : Parts} {f n y : List Char} (hn : IsDigits n)
    (hf : Avoids IsHeader f) (h : Fits .bracketed p (f ++ ':' :: (n ++ y))) :
    ∃ x ds rule message, IsDigits ds ∧ IsLegacyId rule ∧
      ':' :: (n ++ y) = x ++ (header ds rule ++ message) := by
  generalize hcs : f ++ ':' :: (n ++ y) = cs at h
  cases h with
  | @bracketed file ds rule message cs hfile hds hr he =>
    rw [← hcs] at he
    rcases List.append_eq_append_iff.1 he with ⟨x, rfl, hx⟩ | ⟨x, rfl, hx⟩
    · exact ⟨x, ds, rule, message, hds, hr, hx⟩
    · by_cases hxe : x = []
      · subst hxe
        exact ⟨[], ds, rule, message, hds, hr, by simpa using hx.symm⟩
      · have hp := header_prefix_of_append hds hr hn hxe hx.symm
        exact absurd (hp.isInfix.trans (List.infix_append_right)) (hf _ ⟨ds, rule, hds, hr, rfl⟩)

theorem length_le_of_mark {file file' ds ds' y z : List Char} (hds : IsDigits ds)
    (hds' : IsDigits ds') (h : file ++ ':' :: (ds ++ ':' :: ' ' :: z) = file' ++ ':' :: (ds' ++ y))
    (hz : ¬ ':' :: (ds' ++ y) <:+ z) : file'.length ≤ file.length := by
  rcases List.append_eq_append_iff.1 h with ⟨x, rfl, hx⟩ | ⟨x, rfl, -⟩
  · by_cases hxe : x = []
    · simp [hxe]
    · exact absurd (mark_suffix hds hds' hxe hx) hz
  · simp

theorem Fits.longest_of_avoids {file ds rule message cs : List Char}
    (h : Fits .bracketed ⟨file, ds, rule, some message⟩ cs) (hm : Avoids IsHeader message) :
    FitsLongest .bracketed ⟨file, ds, rule, some message⟩ cs := by
  refine ⟨h, fun q hq => ?_⟩
  cases h with
  | bracketed hf hds hr he =>
    cases hq with
    | @bracketed file' ds' rule' message' cs hf' hds' hr' he' =>
      refine length_le_of_mark hds hds'
        (y := ':' :: ' ' :: '[' :: (rule' ++ ']' :: ' ' :: message'))
        (z := '[' :: (rule ++ [']', ' ']) ++ message)
        (by simpa [header] using he.symm.trans he') fun hs => ?_
      have hs := suffix_of_cons_suffix_append hs (by simp [hr.not_mem (c := ':') (by decide)])
      refine hm _ ⟨ds', rule', hds', hr', rfl⟩ (List.IsInfix.trans ?_ hs.isInfix)
      exact ⟨[], message', by simp [header]⟩

theorem newline_not_mem_bracketedLine {file ds rule message : String} (hf : '\n' ∉ file.toList)
    (hds : IsDigits ds.toList) (hr : IsLegacyId rule.toList) (hm : '\n' ∉ message.toList) :
    '\n' ∉ (bracketedLine file ds rule message).toList := by
  simp [toList_bracketedLine, header, hf, hm, hds.not_mem (c := '\n') (by decide),
    hr.not_mem (c := '\n') (by decide)]

theorem parseAs?_bracketedLine {file ds rule message : String} (hne : file ≠ "")
    (hds : IsDigits ds.toList) (hr : IsLegacyId rule.toList)
    (hnl : '\n' ∉ (bracketedLine file ds rule message).toList)
    (hm : Avoids IsHeader message.toList) :
    parseAs? .bracketed (bracketedLine file ds rule message) =
      (number? ds.toList).map fun n => ⟨file, ⟨n, rule, some message⟩, .bracketed⟩ := by
  have hfits : Fits .bracketed ⟨file.toList, ds.toList, rule.toList, some message.toList⟩
      (bracketedLine file ds rule message).toList :=
    .bracketed (by simpa using hne) hds hr (toList_bracketedLine ..)
  rw [parseAs?_of_fitsLongest (hfits.longest_of_avoids hm) hnl]
  exact Option.map_congr fun n _ => by simp [ofParts]

theorem Fits.length_le_of_isRuleId {p q : Parts} {cs : List Char} (hp : Fits .suffixColon p cs)
    (hr : IsRuleId p.rule) (hq : Fits .suffixColon q cs) :
    q.filename.length ≤ p.filename.length := by
  obtain ⟨y, hds', he'⟩ := hq.suffixColon_mark
  cases hp with
  | suffixColon hf hds hr' he =>
    refine length_le_of_mark hds hds' (he.symm.trans he') fun hs => ?_
    exact hr.not_mem (c := ':') (by decide) (hs.subset List.mem_cons_self)
  | composite => exact absurd (by simp) (hr.not_mem (c := '[') (by decide))

theorem Fits.isRuleId_of_isRuleId {p q : Parts} {cs : List Char} (hp : Fits .suffixColon p cs)
    (hr : IsRuleId p.rule) (hq : Fits .suffixColon q cs) : IsRuleId q.rule := by
  cases hq with
  | suffixColon _ _ hr' _ => exact hr'
  | @composite file' ds' inner' cs hf' hds' hi' he' =>
    cases hp with
    | @suffixColon file ds rule cs hf hds hr' he =>
      refine (append_cons_ne_append_cons (x := file ++ ':' :: (ds ++ [':'])) (a := ' ') (b := ')')
        (y := file' ++ (compositeMark ds' ++ (inner' ++ [']']))) (by decide) List.not_mem_nil
        (hr.not_mem (by decide)) ?_).elim
      simpa using he.symm.trans he'
    | composite => exact absurd (by simp) (hr.not_mem (c := '[') (by decide))

section
variable {file ds : String} {n : UInt32} (hne : file ≠ "") (hnl : '\n' ∉ file.toList)
  (hds : IsNumeral ds.toList n.toNat)
include hne hnl hds

theorem parse?_bracketedLine {rule message : String} (hr : IsLegacyId rule.toList)
    (hm : '\n' ∉ message.toList) (hh : Avoids IsHeader message.toList) :
    parse? (bracketedLine file ds rule message) =
      some ⟨file, ⟨n, rule, some message⟩, .bracketed⟩ := by
  have hd := hds.isDigits
  have hline := newline_not_mem_bracketedLine hnl hd hr hm
  rw [parse?_eq, parseAs?_bracketedLine hne hd hr hline hh, number?_eq_some_iff.2 hds]
  rfl

theorem parse?_rulePrefixLine {rule : String} (hr : IsRuleId rule.toList)
    (hf : Avoids IsHeader file.toList) :
    parse? (rulePrefixLine file ds rule) = some ⟨file, ⟨n, rule, none⟩, .rulePrefix⟩ := by
  have hd := hds.isDigits
  have hline := toList_rulePrefixLine file ds rule
  have hbracketed : parseAs? .bracketed (rulePrefixLine file ds rule) = none := by
    refine parseAs?_eq_none fun p hp => ?_
    obtain ⟨ds', rule', hd', hr', hi⟩ := hp.header_infix
    have hcolon : ':' ∉ rule.toList ++ [' '] := by simp [hr.not_mem (c := ':') (by decide)]
    have hspace : ' ' ∉ ':' :: ds.toList := by simp [hd.not_mem (c := ' ') (by decide)]
    refine hf _ ⟨ds', rule', hd', hr', rfl⟩ (infix_of_cons_infix_append ?_ hcolon)
    rw [hline, header_eq_append] at hi
    rw [← header, header_eq_append]
    exact infix_of_append_infix_append (by simpa using hi) hspace
  have h : parseAs? .rulePrefix (rulePrefixLine file ds rule) =
      some ⟨file, ⟨n, rule, none⟩, .rulePrefix⟩ := by
    have hfits : Fits .rulePrefix ⟨file.toList, ds.toList, rule.toList, none⟩
      (rulePrefixLine file ds rule).toList := .rulePrefix (by simpa using hne) hd hr hline
    refine parseAs?_eq_some_iff.2 ⟨_, n, ?_, hfits.longest_of_rulePrefix, hds, by simp [ofParts]⟩
    rw [hline]
    simp [hnl, hd.not_mem (c := '\n') (by decide), hr.not_mem (c := '\n') (by decide)]
  rw [parse?_eq, hbracketed, h]
  rfl

theorem parse?_suffixColonLine {rule : String} (hr : IsRuleId rule.toList)
    (hf : Avoids IsHeader file.toList) :
    parse? (suffixColonLine file ds rule) = some ⟨file, ⟨n, rule, none⟩, .suffixColon⟩ := by
  have hd := hds.isDigits
  have hline := toList_suffixColonLine file ds rule
  have hfits : Fits .suffixColon ⟨file.toList, ds.toList, rule.toList, none⟩
    (suffixColonLine file ds rule).toList := .suffixColon (by simpa using hne) hd hr hline
  have hbracketed : parseAs? .bracketed (suffixColonLine file ds rule) = none := by
    refine parseAs?_eq_none fun p hp => ?_
    rw [hline] at hp
    obtain ⟨x, ds', rule', message', hd', hr', he⟩ := hp.header_behind hd hf
    have hm : '[' ∈ ':' :: (ds.toList ++ ':' :: ' ' :: rule.toList) := by rw [he]; simp [header]
    simp [hd.not_mem (c := '[') (by decide), hr.not_mem (c := '[') (by decide)] at hm
  have hprefix : parseAs? .rulePrefix (suffixColonLine file ds rule) = none :=
    parseAs?_eq_none fun p hp => hp.not_rulePrefix_and_suffixColon hfits
  have h : parseAs? .suffixColon (suffixColonLine file ds rule) =
      some ⟨file, ⟨n, rule, none⟩, .suffixColon⟩ := by
    refine parseAs?_eq_some_iff.2 ⟨_, n, ?_,
      ⟨hfits, fun q hq => hfits.length_le_of_isRuleId hr hq⟩, hds, by simp [ofParts]⟩
    rw [hline]
    simp [hnl, hd.not_mem (c := '\n') (by decide), hr.not_mem (c := '\n') (by decide)]
  rw [parse?_eq, hbracketed, hprefix, h]
  rfl

theorem parse?_compositeLine {inner : String} (hi : inner ≠ "") (hin : '\n' ∉ inner.toList)
    (hh : Avoids IsHeader inner.toList) (hc : Avoids IsCompositeMark inner.toList)
    (hf : Avoids IsHeader file.toList) :
    parse? (suffixColonLine file ds ("yaml (yaml[" ++ inner ++ "])")) =
      some ⟨file, ⟨n, "yaml[" ++ inner ++ "]", none⟩, .suffixColon⟩ := by
  have hd := hds.isDigits
  have hline := toList_compositeLine file ds inner
  have hfits := Fits.composite (by simpa using hne) hd (by simpa using hi) hline
  generalize hl : suffixColonLine file ds ("yaml (yaml[" ++ inner ++ "])") = line at *
  have hmark : line.toList = file.toList ++ ':' ::
      (ds.toList ++ ':' :: ' ' :: ("yaml (yaml[".toList ++ (inner.toList ++ [']', ')']))) := by
    simpa [compositeMark] using hline
  have hbracketed : parseAs? .bracketed line = none := by
    refine parseAs?_eq_none fun p hp => ?_
    rw [hmark] at hp
    obtain ⟨x, ds', rule', message', hd', hr', he⟩ := hp.header_behind hd hf
    by_cases hx : x = []
    · have hm := congrArg lineMark? he
      simp [hx, header, lineMark?_append hd, lineMark?_append hd'] at hm
    · have hs := mark_suffix hd hd' (y := ':' :: ' ' :: '[' :: (rule' ++ ']' :: ' ' :: message'))
        hx (he.trans (by simp [header]))
      have hs := suffix_of_cons_suffix_append hs (by decide)
      refine hh _ ⟨ds', rule', hd', hr', rfl⟩ ?_
      rw [header_eq_append]
      refine infix_of_append_infix_append (b := [']', ')']) (List.IsInfix.trans ?_ hs.isInfix)
        (by decide)
      exact ⟨[], message', by simp⟩
  have hprefix : parseAs? .rulePrefix line = none :=
    parseAs?_eq_none fun p hp => hp.not_rulePrefix_and_suffixColon hfits
  have h : parseAs? .suffixColon line =
      some ⟨file, ⟨n, "yaml[" ++ inner ++ "]", none⟩, .suffixColon⟩ := by
    refine parseAs?_eq_some_iff.2 ⟨_, n, ?_, ⟨hfits, fun q hq => ?_⟩, hds, ?_⟩
    · rw [hline]
      simp [compositeMark, hnl, hin, hd.not_mem (c := '\n') (by decide)]
    · have hbare : ¬ IsRuleId q.rule := fun hr =>
        (hq.isRuleId_of_isRuleId hr hfits).not_mem (c := '[') (by decide) (by simp)
      generalize hcs : line.toList = cs at hq
      cases hq with
      | suffixColon _ _ hr' _ => exact absurd hr' hbare
      | @composite file' ds' inner' cs hf' hd' hi' he =>
        refine length_le_of_mark hd hd' (y := ": yaml (yaml[".toList ++ (inner' ++ [']', ')']))
          ((hmark.symm.trans hcs).trans (he.trans (by simp [compositeMark]))) fun hs => ?_
        have hs := suffix_of_cons_suffix_append hs (by decide)
        refine hc _ ⟨ds', hd', rfl⟩ ?_
        rw [compositeMark_eq_append]
        refine infix_of_append_infix_append (b := [']', ')']) (List.IsInfix.trans ?_ hs.isInfix)
          (by decide)
        exact ⟨[], inner' ++ [']', ')'], by simp⟩
    · have hrule :
          String.ofList ("yaml[".toList ++ inner.toList ++ [']']) = "yaml[" ++ inner ++ "]" :=
        String.toList_injective (by simp)
      simp only [ofParts, String.ofList_toList, hrule, Option.map_none]
  rw [parse?_eq, hbracketed, hprefix, h]
  rfl

end

/-- **A printed diagnostic is read back**, with any zeros in front of its line number: a bracketed
one if its message holds no header, the others if their file name holds none, a composite one if
its detail holds neither a header nor a composite mark. -/
theorem parse?_printed {file : String} (hne : file ≠ "") (hnl : '\n' ∉ file.toList) (zeros : Nat)
    (n : UInt32) :
    (∀ rule message : String, IsLegacyId rule.toList → '\n' ∉ message.toList →
      Avoids IsHeader message.toList →
      parse? (file ++ ":" ++ padded zeros n ++ ": [" ++ rule ++ "] " ++ message) =
        some ⟨file, ⟨n, rule, some message⟩, .bracketed⟩) ∧
    (Avoids IsHeader file.toList →
      (∀ rule : String, IsRuleId rule.toList →
        parse? (rule ++ " " ++ file ++ ":" ++ padded zeros n) =
          some ⟨file, ⟨n, rule, none⟩, .rulePrefix⟩) ∧
      (∀ rule : String, IsRuleId rule.toList →
        parse? (file ++ ":" ++ padded zeros n ++ ": " ++ rule) =
          some ⟨file, ⟨n, rule, none⟩, .suffixColon⟩) ∧
      ∀ inner : String, inner ≠ "" → '\n' ∉ inner.toList → Avoids IsHeader inner.toList →
        Avoids IsCompositeMark inner.toList →
        parse? (file ++ ":" ++ padded zeros n ++ ": " ++ ("yaml (yaml[" ++ inner ++ "])")) =
          some ⟨file, ⟨n, "yaml[" ++ inner ++ "]", none⟩, .suffixColon⟩) := by
  have hds := isNumeral_padded zeros n
  refine ⟨fun rule message hr hm hh => parse?_bracketedLine hne hnl hds hr hm hh,
    fun hf => ⟨?_, ?_, ?_⟩⟩
  · exact fun rule hr => parse?_rulePrefixLine hne hnl hds hr hf
  · exact fun rule hr => parse?_suffixColonLine hne hnl hds hr hf
  · exact fun inner hi hin hh hc => parse?_compositeLine hne hnl hds hi hin hh hc hf

theorem parse?_printed_colons :
    parse? ("a:1: b" ++ ":" ++ padded 2 7 ++ ": [" ++ "E301" ++ "] " ++ "see c:2: [no] d") =
      some ⟨"a:1: b", ⟨7, "E301", some "see c:2: [no] d"⟩, .bracketed⟩ ∧
    parse? ("no-tabs" ++ " " ++ "a:1: b" ++ ":" ++ padded 2 7) =
      some ⟨"a:1: b", ⟨7, "no-tabs", none⟩, .rulePrefix⟩ ∧
    parse? ("a:1: b" ++ ":" ++ padded 2 7 ++ ": " ++ "301") =
      some ⟨"a:1: b", ⟨7, "301", none⟩, .suffixColon⟩ ∧
    parse? ("a:1: b" ++ ":" ++ padded 2 7 ++ ": " ++ ("yaml (yaml[" ++ "x:9: y" ++ "])")) =
      some ⟨"a:1: b", ⟨7, "yaml[" ++ "x:9: y" ++ "]", none⟩, .suffixColon⟩ := by
  have hmark : Avoids IsCompositeMark "x:9: y".toList := fun _ ⟨ds, _, he⟩ hi =>
    absurd (hi.subset (a := '(') (by simp [he, compositeMark])) (by decide)
  have hne : "a:1: b" ≠ "" := by decide
  obtain ⟨h1, h⟩ := parse?_printed hne (by decide) 2 7
  obtain ⟨h2, h3, h4⟩ := h (by decide)
  exact ⟨h1 "E301" "see c:2: [no] d" (by decide) (by decide) (by decide),
    h2 "no-tabs" (by decide), h3 "301" (by decide),
    h4 "x:9: y" (by decide) (by decide) (by decide) hmark⟩

end PlaybookScan.Diagnostic

import PlaybookScan.Proofs.Diagnostic.RoundTrip

/-!
# Which reading of a line counts

A line may be read in several ways in one layout. The one with the longest file name counts: there
is just one (`Fits.exists_longest`, `FitsLongest.unique`), and the layout has an answer if the
digits of this reading write a line number (`parseAs?_of_fitsLongest`, `parseAs?_eq_none_iff`).
`parse?_chooses` puts the three layouts together.

Of the headers in a bracketed line it is therefore the last one that counts, also if it stands in
what was meant as the message (`Fits.quoted`, `readAlike_iff_avoids`).
-/

set_option autoImplicit false

namespace PlaybookScan.Diagnostic

open Text

/-! ## The reading with the longest file name -/

theorem eq_of_length_filename {α : Type} {rest? : List Char → Option α}
    (build : List Char → α → Parts) {p q : Parts} {cs : List Char}
    (hp : ∃ rest a, cs = p.filename ++ rest ∧ p.filename ≠ [] ∧ rest? rest = some a ∧
      p = build p.filename a)
    (hq : ∃ rest a, cs = q.filename ++ rest ∧ q.filename ≠ [] ∧ rest? rest = some a ∧
      q = build q.filename a)
    (h : p.filename.length = q.filename.length) : p = q := by
  obtain ⟨rest, a, he, -, ha, hpa⟩ := hp
  obtain ⟨rest', b, he', -, hb, hqb⟩ := hq
  obtain ⟨hname, rfl⟩ := List.append_inj (he.symm.trans he') h
  rw [hpa, hqb, hname, Option.some.inj (ha.symm.trans hb)]

theorem Fits.eq_of_length {layout : Layout} {p q : Parts} {cs : List Char} (hp : Fits layout p cs)
    (hq : Fits layout q cs) (h : p.filename.length = q.filename.length) : p = q := by
  cases layout with
  | bracketed =>
    rw [fits_bracketed_iff] at hp hq
    exact eq_of_length_filename bracketedParts hp hq h
  | rulePrefix => exact hp.eq_of_rulePrefix hq
  | suffixColon =>
    rw [fits_suffixColon_iff] at hp hq
    exact eq_of_length_filename suffixParts hp hq h

theorem FitsLongest.unique {layout : Layout} {p q : Parts} {cs : List Char}
    (hp : FitsLongest layout p cs) (hq : FitsLongest layout q cs) : p = q :=
  hp.1.eq_of_length hq.1 (Nat.le_antisymm (hq.2 p hp.1) (hp.2 q hq.1))

theorem Fits.exists_longest {layout : Layout} {p : Parts} {cs : List Char} (h : Fits layout p cs)
    (hnl : '\n' ∉ cs) : ∃ q, FitsLongest layout q cs := by
  cases hq : parts? layout cs with
  | none => exact ((parts?_eq_none_iff.1 hq).elim hnl fun hn => hn p h).elim
  | some q => exact ⟨q, (parts?_eq_some_iff.1 hq).2⟩

theorem Fits.isDigits {layout : Layout} {p : Parts} {cs : List Char} (h : Fits layout p cs) :
    IsDigits p.digits := by
  cases h <;> assumption

/-- **A layout has no answer** if no reading fits or the digits of the longest write no number. -/
theorem parseAs?_eq_none_iff {layout : Layout} {line : String} :
    parseAs? layout line = none ↔ '\n' ∈ line.toList ∨ (∀ p, ¬ Fits layout p line.toList) ∨
      ∃ p, FitsLongest layout p line.toList ∧
        ((∃ c ∈ p.digits, c.isDigit = false) ∨ 4294967295 < Nat.ofDigitChars 10 p.digits 0) := by
  by_cases hnl : '\n' ∈ line.toList
  · simp [parseAs?, parts?_eq_none_iff.2 (.inl hnl), hnl]
  by_cases hfits : ∃ p, Fits layout p line.toList
  · obtain ⟨p, hp⟩ := hfits
    obtain ⟨q, hq⟩ := hp.exists_longest hnl
    rw [parseAs?_of_fitsLongest hq hnl, Option.map_eq_none_iff,
      number?_eq_none_iff hq.1.isDigits.1]
    constructor
    · exact fun h => .inr (.inr ⟨q, hq, h⟩)
    · rintro (h | h | ⟨q', hq', h⟩)
      · exact absurd h hnl
      · exact absurd hp (h p)
      · rwa [hq.unique hq']
  · have hnone : ∀ p, ¬ Fits layout p line.toList := not_exists.1 hfits
    simp [parseAs?_eq_none hnone, hnone]

/-! ## Headers in messages -/

/-- A header in the message can be taken for that of the line. -/
theorem Fits.quoted {file ds rule quoted ds' rule' message cs : List Char}
    (h : Fits .bracketed ⟨file, ds, rule, some (quoted ++ (header ds' rule' ++ message))⟩ cs)
    (hds : IsDigits ds') (hr : IsLegacyId rule') :
    Fits .bracketed ⟨file ++ (header ds rule ++ quoted), ds', rule', some message⟩ cs := by
  cases h with
  | bracketed hf _ _ he => exact .bracketed (by simp [hf]) hds hr (by simp [he])

/-- **The header that counts is the last one.** -/
theorem FitsLongest.avoids {file ds rule message cs : List Char}
    (h : FitsLongest .bracketed ⟨file, ds, rule, some message⟩ cs) : Avoids IsHeader message := by
  rintro _ ⟨ds', rule', hds, hr, rfl⟩ ⟨quoted, rest, rfl⟩
  -- a header in the message would make a longer file name
  have hq : Fits .bracketed ⟨file ++ (header ds rule ++ quoted), ds', rule', some rest⟩ cs :=
    Fits.quoted (by simpa using h.1) hds hr
  have hle := h.2 _ hq
  simp only [header, List.length_append, List.length_cons] at hle
  omega

theorem avoids_of_parseAs?_bracketed {line : String} {d : Diagnostic}
    (h : parseAs? .bracketed line = some d) :
    ∃ message, d.finding.message = some message ∧ Avoids IsHeader message.toList := by
  obtain ⟨⟨file, ds, rule, message?⟩, n, -, hp, -, rfl⟩ := parseAs?_eq_some_iff.1 h
  obtain ⟨message, rfl⟩ : ∃ message, message? = some message := by
    cases hp.1 with
    | bracketed => exact ⟨_, rfl⟩
  exact ⟨String.ofList message, rfl, by simpa using hp.avoids⟩

/-! ## Rules at the end of a line -/

/-- A rule that is given as `yaml (yaml[inner])`. -/
def IsComposite (rule : List Char) : Prop :=
  ∃ inner, inner ≠ [] ∧ rule = "yaml[".toList ++ inner ++ [']']

/-- **A line that ends in its rule is read in one way**, unless the rule is composite. -/
theorem Fits.eq_or_composite {p q : Parts} {cs : List Char} (hp : Fits .suffixColon p cs)
    (hq : Fits .suffixColon q cs) : p = q ∨ (IsComposite p.rule ∧ IsComposite q.rule) := by
  have hcases {p : Parts} (hp : Fits .suffixColon p cs) : IsRuleId p.rule ∨ IsComposite p.rule := by
    cases hp with
    | suffixColon _ _ hr _ => exact .inl hr
    | composite _ _ hi _ => exact .inr ⟨_, hi, rfl⟩
  have hsame {p q : Parts} (hp : Fits .suffixColon p cs) (hr : IsRuleId p.rule)
      (hq : Fits .suffixColon q cs) : p = q := by
    have hr' := hp.isRuleId_of_isRuleId hr hq
    exact hp.eq_of_length hq
      (Nat.le_antisymm (hq.length_le_of_isRuleId hr' hp) (hp.length_le_of_isRuleId hr hq))
  rcases hcases hp with hr | hp'
  · exact .inl (hsame hp hr hq)
  rcases hcases hq with hr | hq'
  · exact .inl (hsame hq hr hp).symm
  · exact .inr ⟨hp', hq'⟩

/-- No line has both of the layouts without a message. -/
theorem parseAs?_rulePrefix_or_suffixColon (line : String) :
    parseAs? .rulePrefix line = none ∨ parseAs? .suffixColon line = none := by
  by_cases h : ∃ p, Fits .rulePrefix p line.toList
  · obtain ⟨p, hp⟩ := h
    exact .inr (parseAs?_eq_none fun q hq => hp.not_rulePrefix_and_suffixColon hq)
  · exact .inl (parseAs?_eq_none (not_exists.1 h))

theorem parse?_swapped (line : String) :
    parse? line = [.bracketed, .suffixColon, .rulePrefix].findSome? (parseAs? · line) := by
  rw [parse?_eq, findSome?_parseAs?]
  rcases parseAs?_rulePrefix_or_suffixColon line with h | h <;>
    rw [h, Option.none_or, Option.or_none]

/-- **Of the ways of reading a line the one with the longest file name counts**, in each layout,
even if its digits write no number. So the message of a bracketed line holds no header. The other
two layouts share no line, and read one in one way only unless the rule is composite. -/
theorem parse?_chooses (line : String) :
    (∀ layout p, '\n' ∉ line.toList → Fits layout p line.toList →
      ∃ q, FitsLongest layout q line.toList ∧
        (∀ q', FitsLongest layout q' line.toList → q' = q) ∧
        parseAs? layout line = (number? q.digits).map (ofParts layout q)) ∧
    (∀ layout, parseAs? layout line = none ↔
      '\n' ∈ line.toList ∨ (∀ p, ¬ Fits layout p line.toList) ∨
        ∃ p, FitsLongest layout p line.toList ∧
          ((∃ c ∈ p.digits, c.isDigit = false) ∨ 4294967295 < Nat.ofDigitChars 10 p.digits 0)) ∧
    (∀ d, parseAs? .bracketed line = some d →
      ∃ message, d.finding.message = some message ∧ Avoids IsHeader message.toList) ∧
    (parseAs? .bracketed line = none →
      parse? line = (parseAs? .rulePrefix line).or (parseAs? .suffixColon line)) ∧
    (∀ p q, ¬ (Fits .rulePrefix p line.toList ∧ Fits .suffixColon q line.toList)) ∧
    (∀ p q, Fits .rulePrefix p line.toList → Fits .rulePrefix q line.toList → p = q) ∧
    (∀ p q, Fits .suffixColon p line.toList → Fits .suffixColon q line.toList →
      p = q ∨ (IsComposite p.rule ∧ IsComposite q.rule)) ∧
    parse? line = [.bracketed, .suffixColon, .rulePrefix].findSome? (parseAs? · line) := by
  refine ⟨?longest, fun _ => parseAs?_eq_none_iff, fun _ => avoids_of_parseAs?_bracketed,
    ?rest, ?disjoint, fun _ _ => Fits.eq_of_rulePrefix, fun _ _ => Fits.eq_or_composite,
    parse?_swapped line⟩
  case longest =>
    intro layout p hnl hp
    obtain ⟨q, hq⟩ := hp.exists_longest hnl
    exact ⟨q, hq, fun _ hq' => hq'.unique hq, parseAs?_of_fitsLongest hq hnl⟩
  case rest =>
    intro h
    rw [parse?_eq, h, Option.none_or]
  case disjoint => exact fun p q h => h.1.not_rulePrefix_and_suffixColon h.2

/-- A bracketed line whose number is too large is read with the rule in front, although a shorter
file name would have a good number behind it. -/
theorem parse?_chooses_other_layout :
    let line := "x f:1: [E1] a:99999999999: [E2] b:3"
    let short : Parts := ⟨"x f".toList, "1".toList, "E1".toList,
      some "a:99999999999: [E2] b:3".toList⟩
    let long : Parts := ⟨"x f:1: [E1] a".toList, "99999999999".toList, "E2".toList,
      some "b:3".toList⟩
    Fits .bracketed short line.toList ∧ FitsLongest .bracketed long line.toList ∧
      parseAs? .bracketed line = none ∧
      parse? line =
        some ⟨"f:1: [E1] a:99999999999: [E2] b", ⟨3, "x", none⟩, .rulePrefix⟩ := by
  intro line short long
  have hshort : Fits .bracketed short line.toList :=
    .bracketed (by decide) ⟨by decide, List.all_eq_true.1 (by decide)⟩ (by decide) (by decide)
  have hlong : FitsLongest .bracketed long line.toList :=
    (parts?_eq_some_iff.1 (by decide : parts? .bracketed line.toList = some long)).2
  obtain ⟨-, hnone, -, hrest, -⟩ := parse?_chooses line
  have hbracketed : parseAs? .bracketed line = none :=
    (hnone .bracketed).2 (.inr (.inr ⟨long, hlong, .inr (by decide)⟩))
  exact ⟨hshort, hlong, hbracketed, (hrest hbracketed).trans (by decide)⟩

/-! ## What a message can change -/

/-- Both lines are read with the same file name, number and rule, and with the messages `m₁` and
`m₂`. -/
def ReadAlike (line₁ m₁ line₂ m₂ : String) : Prop :=
  ∃ file n rule layout₁ layout₂,
    parse? line₁ = some ⟨file, ⟨n, rule, some m₁⟩, layout₁⟩ ∧
      parse? line₂ = some ⟨file, ⟨n, rule, some m₂⟩, layout₂⟩

theorem parseAs?_layout_of_parse? {line : String} {d : Diagnostic} (h : parse? line = some d) :
    parseAs? d.layout line = some d := by
  obtain ⟨l, -, h⟩ := List.exists_of_findSome?_eq_some h
  obtain ⟨p, n, -, -, -, rfl⟩ := parseAs?_eq_some_iff.1 h
  exact h

theorem Fits.eq_bracketed {layout : Layout} {p : Parts} {cs message : List Char}
    (h : Fits layout p cs) (hm : p.message = some message) : layout = .bracketed := by
  cases h with
  | bracketed => rfl
  | rulePrefix => cases hm
  | suffixColon => cases hm
  | composite => cases hm

theorem avoids_of_parse? {line message : String} {d : Diagnostic} (h : parse? line = some d)
    (hm : d.finding.message = some message) : Avoids IsHeader message.toList := by
  obtain ⟨p, -, hp, -, hd⟩ := exists_fits_of_parse? h
  have hpm : p.message.map String.ofList = some message := by
    rw [hd] at hm
    exact hm
  obtain ⟨m, hpm, -⟩ := Option.map_eq_some_iff.1 hpm
  have h := parseAs?_layout_of_parse? h
  rw [hp.eq_bracketed hpm] at h
  obtain ⟨message', hm', ha⟩ := avoids_of_parseAs?_bracketed h
  rwa [Option.some.inj (hm.symm.trans hm')]

theorem bracketedLine_quoted (file ds rule quoted ds' rule' message : String) :
    bracketedLine file ds rule (quoted ++ bracketedLine "" ds' rule' message) =
      bracketedLine (bracketedLine file ds rule quoted) ds' rule' message := by
  simp [bracketedLine, String.append_assoc]

theorem exists_last_header {message : String} (h : ¬ Avoids IsHeader message.toList) :
    ∃ quoted ds rule rest, message = quoted ++ bracketedLine "" ds rule rest ∧
      IsDigits ds.toList ∧ IsLegacyId rule.toList ∧ Avoids IsHeader rest.toList := by
  -- the reader itself finds the last header, once a blank stands in front as a file name
  rw [avoids_isHeader_iff] at h
  obtain ⟨p, hp⟩ := Option.ne_none_iff_exists'.1 h
  rw [bracketed?_eq,
    longest_eq_some_iff bracketedParts (fun _ _ => fits_bracketed_iff) fun _ _ => rfl] at hp
  obtain ⟨file, ds, rule, message?⟩ := p
  cases message? with
  | none => nomatch hp.1
  | some rest =>
    have ha := hp.avoids
    cases hp.1 with
    | bracketed hf hds hr he =>
      obtain ⟨c, quoted, rfl⟩ := List.exists_cons_of_ne_nil hf
      refine ⟨String.ofList quoted, String.ofList ds, String.ofList rule, String.ofList rest,
        String.toList_injective ?_, by simpa using hds, by simpa using hr, by simpa using ha⟩
      rw [(List.cons.inj he).2]
      simp [toList_bracketedLine]

/-- **What is reported does not depend on the message as long as it quotes no header, and only
then.** If the message quotes headers, the last of them is what the layout reads: the file name
reaches up to it, and the line number and the rule are the quoted ones. -/
theorem readAlike_iff_avoids {file : String} (hne : file ≠ "") (hnl : '\n' ∉ file.toList)
    (zeros : Nat) (n : UInt32) {rule : String} (hr : IsLegacyId rule.toList) :
    let line := bracketedLine file (padded zeros n) rule
    (∀ m₁ m₂ : String, '\n' ∉ m₁.toList → '\n' ∉ m₂.toList →
      (ReadAlike (line m₁) m₁ (line m₂) m₂ ↔
        Avoids IsHeader m₁.toList ∧ Avoids IsHeader m₂.toList)) ∧
    ∀ m : String, '\n' ∉ m.toList →
      (Avoids IsHeader m.toList ∧
        parse? (line m) = some ⟨file, ⟨n, rule, some m⟩, .bracketed⟩) ∨
      ∃ quoted ds' rule' rest, m = quoted ++ bracketedLine "" ds' rule' rest ∧
        IsDigits ds'.toList ∧ IsLegacyId rule'.toList ∧ Avoids IsHeader rest.toList ∧
        parseAs? .bracketed (line m) =
          (number? ds'.toList).map fun k => ⟨line quoted, ⟨k, rule', some rest⟩, .bracketed⟩ := by
  intro line
  have hds := isNumeral_padded zeros n
  have hread {m : String} (hm : '\n' ∉ m.toList) (ha : Avoids IsHeader m.toList) :
      parse? (line m) = some ⟨file, ⟨n, rule, some m⟩, .bracketed⟩ :=
    parse?_bracketedLine hne hnl hds hr hm ha
  refine ⟨fun m₁ m₂ h₁ h₂ => ⟨?alike, ?avoids⟩, fun m hm => ?_⟩
  case alike =>
    rintro ⟨file', k, rule', layout₁, layout₂, hp₁, hp₂⟩
    exact ⟨avoids_of_parse? hp₁ rfl, avoids_of_parse? hp₂ rfl⟩
  case avoids =>
    rintro ⟨ha₁, ha₂⟩
    exact ⟨file, n, rule, .bracketed, .bracketed, hread h₁ ha₁, hread h₂ ha₂⟩
  by_cases ha : Avoids IsHeader m.toList
  · exact .inl ⟨ha, hread hm ha⟩
  obtain ⟨quoted, ds', rule', rest, rfl, hds', hr', ha'⟩ := exists_last_header ha
  refine .inr ⟨quoted, ds', rule', rest, rfl, hds', hr', ha', ?_⟩
  have hline : line (quoted ++ bracketedLine "" ds' rule' rest) =
      bracketedLine (line quoted) ds' rule' rest := bracketedLine_quoted ..
  rw [hline]
  refine parseAs?_bracketedLine (fun h => ?_) hds' hr' ?_ ha'
  · have := congrArg String.toList h
    simp [line, toList_bracketedLine, header] at this
  · rw [← hline]
    exact newline_not_mem_bracketedLine hnl hds.isDigits hr hm

/-- Messages of which one is empty and the other holds everything but a header. -/
theorem readAlike_without_header :
    ReadAlike (bracketedLine "a:1: b" (padded 2 7) "E301" "") ""
      (bracketedLine "a:1: b" (padded 2 7) "E301" "c:2: [no] d") "c:2: [no] d" := by
  have hne : "a:1: b" ≠ "" := by decide
  have hr : IsLegacyId "E301".toList := by decide
  obtain ⟨halike, -⟩ := readAlike_iff_avoids hne (by decide) 2 7 hr
  exact (halike "" "c:2: [no] d" (by decide) (by decide)).2 ⟨by decide, by decide⟩

/-- A message that quotes another diagnostic changes the file name, the line number and the rule. -/
theorem not_readAlike_quoted_header :
    let line := bracketedLine "f.yml" (padded 0 1) "E1"
    let m₁ := "m"
    let m₂ := "see g.yml:2: [E2] x"
    ("f.yml" ≠ "" ∧ '\n' ∉ "f.yml".toList ∧ IsLegacyId "E1".toList ∧
      '\n' ∉ m₁.toList ∧ '\n' ∉ m₂.toList) ∧
      parse? (line m₁) = some ⟨"f.yml", ⟨1, "E1", some m₁⟩, .bracketed⟩ ∧
      parse? (line m₂) = some ⟨"f.yml:1: [E1] see g.yml", ⟨2, "E2", some "x"⟩, .bracketed⟩ ∧
      ¬ ReadAlike (line m₁) m₁ (line m₂) m₂ := by
  intro line m₁ m₂
  have h₂ : parse? (line m₂) =
      some ⟨"f.yml:1: [E1] see g.yml", ⟨2, "E2", some "x"⟩, .bracketed⟩ := by decide
  refine ⟨by decide, by decide, h₂, ?_⟩
  rintro ⟨file, n, rule, layout₁, layout₂, -, h⟩
  have hd := Option.some.inj (h.symm.trans h₂)
  have hm : some m₂ = some "x" := congrArg (fun d : Diagnostic => d.finding.message) hd
  exact absurd hm (by decide)

end PlaybookScan.Diagnostic

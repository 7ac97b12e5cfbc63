import PlaybookScan.Text.CharClass

/-!
# Numerals

`IsNumeral ds n`: the ASCII digits `ds` write the number `n`, perhaps with zeros in front. Reading
accepts exactly the numerals of 32-bit numbers (`number?_eq_some_iff`), whatever other decimal
digits there are, and every such number has a numeral with any number of zeros in front
(`isNumeral_padded`).
-/

set_option autoImplicit false

namespace PlaybookScan.Text

/-- `ds` writes `n` in decimal. -/
structure IsNumeral (ds : List Char) (n : Nat) : Prop where
  ne_nil : ds ≠ []
  ascii : ∀ c ∈ ds, c.isDigit = true
  value : Nat.ofDigitChars 10 ds 0 = n

theorem digitsValue_eq (ds : List Char) : digitsValue ds = Nat.ofDigitChars 10 ds 0 := rfl

theorem number?_eq_some_iff {ds : List Char} {n : UInt32} :
    number? ds = some n ↔ IsNumeral ds n.toNat := by
  unfold number?
  constructor
  · intro h
    split at h
    · rename_i hc
      obtain ⟨hne, ha, hlt⟩ := hc
      refine ⟨hne, List.all_eq_true.1 ha, ?_⟩
      rw [← digitsValue_eq, ← Option.some.inj h, UInt32.toNat_ofNat_of_lt' hlt]
    · cases h
  · rintro ⟨hne, ha, hv⟩
    rw [← digitsValue_eq] at hv
    have hlt : digitsValue ds < 4294967296 := hv ▸ n.toNat_lt
    rw [if_pos ⟨hne, List.all_eq_true.2 ha, hlt⟩, hv, UInt32.ofNat_toNat]

theorem number?_eq_none_iff {ds : List Char} (h : ds ≠ []) :
    number? ds = none ↔
      (∃ c ∈ ds, c.isDigit = false) ∨ 4294967295 < Nat.ofDigitChars 10 ds 0 := by
  rw [number?, ← digitsValue_eq]
  by_cases ha : ds.all Char.isDigit = true
  · have ha' : ¬ ∃ c ∈ ds, c.isDigit = false := by simpa using ha
    simp only [ne_eq, h, not_false_eq_true, ha, true_and, ite_eq_right_iff, reduceCtorEq,
      imp_false, ha', false_or]
    omega
  · simpa [ha] using Or.inl (by simpa using ha)

/-- `n` in decimal behind `zeros` zeros. -/
def padded (zeros : Nat) (n : UInt32) : String :=
  String.ofList (List.replicate zeros '0') ++ decimal n

theorem isNumeral_padded (zeros : Nat) (n : UInt32) :
    IsNumeral (padded zeros n).toList n.toNat := by
  have h : (padded zeros n).toList = List.replicate zeros '0' ++ Nat.toDigits 10 n.toNat := by
    simp [padded, decimal]
  rw [h]
  refine ⟨?ne_nil, ?ascii, ?value⟩
  case ne_nil => simp [Nat.toDigits_ne_nil]
  case ascii =>
    intro c hc
    rcases List.mem_append.1 hc with hc | hc
    · rw [List.eq_of_mem_replicate hc]; rfl
    · exact Nat.isDigit_of_mem_toDigits (by decide) (by decide) hc
  case value => simp [Nat.ofDigitChars_append]

/-- A run of decimal digits of any script. -/
def IsDigits (ds : List Char) : Prop := ds ≠ [] ∧ ∀ c ∈ ds, isDecimalDigit c = true

theorem IsNumeral.isDigits {ds : List Char} {n : Nat} (h : IsNumeral ds n) : IsDigits ds :=
  ⟨h.ne_nil, fun c hc => isDecimalDigit_of_isDigit (h.ascii c hc)⟩

theorem IsDigits.not_mem {ds : List Char} (h : IsDigits ds) {c : Char}
    (hc : isDecimalDigit c = false) : c ∉ ds := fun hm => by simp [h.2 c hm] at hc

theorem IsDigits.exists_cons {ds : List Char} (h : IsDigits ds) :
    ∃ d rest, ds = d :: rest ∧ isDecimalDigit d = true := by
  obtain ⟨d, rest, rfl⟩ := List.exists_cons_of_ne_nil h.1
  exact ⟨d, rest, rfl, h.2 d List.mem_cons_self⟩

end PlaybookScan.Text

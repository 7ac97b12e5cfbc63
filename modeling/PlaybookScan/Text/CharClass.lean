/-!
# Character classes

Letters, other digits and letter case are those of ASCII; every other character belongs to no such
class and is its own other case.

`isBlank` is the Unicode property White_Space, `trim` removes it at both ends of a text. What is
left starts and ends with a character that is not blank.

`isDecimalDigit` is the Unicode general category Nd, as of version 16. Its characters come in runs
of ten, one per script, so the table lists where the runs start. `number?` reads a number, which
only ASCII digits can write, within 32 bits.
-/

set_option autoImplicit false

namespace PlaybookScan.Text

/-! ## ASCII -/

/-- ASCII letters, digits and the underscore. -/
def isWordChar (c : Char) : Bool := c.isAlphanum || c == '_'

/-- Word characters and the hyphen. -/
def isIdChar (c : Char) : Bool := isWordChar c || c == '-'

/-- Equality up to the case of ASCII letters. -/
def eqIgnoreCase (s t : String) : Bool :=
  s.toList.map Char.toLower == t.toList.map Char.toLower

theorem eqIgnoreCase_iff {s t : String} (ht : t.toList.map Char.toLower = t.toList) :
    eqIgnoreCase s t = true ↔ s.toLower = t := by
  have htoLower : s.toLower.toList = s.toList.map Char.toLower := String.toList_map
  rw [eqIgnoreCase, beq_iff_eq, ht, ← String.toList_inj, htoLower]

/-! ## Blank characters -/

/-- The characters with the property White_Space. -/
def isBlank (c : Char) : Bool :=
  let n := c.toNat
  (0x09 ≤ n && n ≤ 0x0D) || n == 0x20 || n == 0x85 || n == 0xA0 || n == 0x1680 ||
    (0x2000 ≤ n && n ≤ 0x200A) || n == 0x2028 || n == 0x2029 || n == 0x202F || n == 0x205F ||
    n == 0x3000

/-- `cs` without the blank characters it ends in. -/
def trimEnd (cs : List Char) : List Char := (cs.reverse.dropWhile isBlank).reverse

/-- `cs` without the blank characters it starts and ends in. -/
def trimChars (cs : List Char) : List Char := trimEnd (cs.dropWhile isBlank)

def trim (s : String) : String := String.ofList (trimChars s.toList)

/-- A text of blank characters only. -/
def isBlankText (s : String) : Bool := s.toList.all isBlank

theorem isBlank_of_isWhitespace {c : Char} (h : c.isWhitespace = true) : isBlank c = true := by
  simp only [Char.isWhitespace, Bool.or_eq_true, decide_eq_true_eq] at h
  rcases h with ((rfl | rfl) | rfl) | rfl <;> rfl

@[simp] theorem toList_trim (s : String) : (trim s).toList = trimChars s.toList := by
  simp [trim]

/-! ## Decimal digits -/

/-- First characters of the runs of ten decimal digits. -/
def digitRuns : List Nat :=
  [0x30, 0x660, 0x6F0, 0x7C0, 0x966, 0x9E6, 0xA66, 0xAE6, 0xB66, 0xBE6, 0xC66, 0xCE6, 0xD66, 0xDE6,
    0xE50, 0xED0, 0xF20, 0x1040, 0x1090, 0x17E0, 0x1810, 0x1946, 0x19D0, 0x1A80, 0x1A90, 0x1B50,
    0x1BB0, 0x1C40, 0x1C50, 0xA620, 0xA8D0, 0xA900, 0xA9D0, 0xA9F0, 0xAA50, 0xABF0, 0xFF10, 0x104A0,
    0x10D30, 0x10D40, 0x11066, 0x110F0, 0x11136, 0x111D0, 0x112F0, 0x11450, 0x114D0, 0x11650,
    0x116C0, 0x116D0, 0x116DA, 0x11730, 0x118E0, 0x11950, 0x11BF0, 0x11C50, 0x11D50, 0x11DA0,
    0x11F50, 0x16130, 0x16A60, 0x16AC0, 0x16B50, 0x16D70, 0x1CCF0, 0x1D7CE, 0x1D7D8, 0x1D7E2,
    0x1D7EC, 0x1D7F6, 0x1E140, 0x1E2F0, 0x1E4F0, 0x1E5F1, 0x1E950, 0x1FBF0]

/-- The characters of the general category Nd. -/
def isDecimalDigit (c : Char) : Bool :=
  digitRuns.any fun start => start ≤ c.toNat && c.toNat < start + 10

theorem isDecimalDigit_of_isDigit {c : Char} (h : c.isDigit = true) : isDecimalDigit c = true := by
  simp only [Char.isDigit, Bool.and_eq_true, decide_eq_true_eq] at h
  have h1 : 48 ≤ c.toNat := h.1
  have h2 : c.toNat ≤ 57 := h.2
  simp only [isDecimalDigit, List.any_eq_true, Bool.and_eq_true, decide_eq_true_eq]
  exact ⟨0x30, by simp [digitRuns], by omega, by omega⟩

/-- The number that a run of ASCII digits writes, the most significant digit first. -/
def digitsValue (ds : List Char) : Nat := ds.foldl (fun n d => 10 * n + (d.toNat - 48)) 0

/-- Reads a number below 2 ^ 32. Leading zeros are fine, digits outside ASCII are not. -/
def number? (ds : List Char) : Option UInt32 :=
  if ds ≠ [] ∧ ds.all Char.isDigit ∧ digitsValue ds < 4294967296 then
    some (UInt32.ofNat (digitsValue ds))
  else none

/-- `n` in decimal, without leading zeros. -/
def decimal (n : UInt32) : String := toString n.toNat

end PlaybookScan.Text

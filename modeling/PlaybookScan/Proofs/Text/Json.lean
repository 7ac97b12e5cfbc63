import PlaybookScan.Proofs.Text.Numeral
import PlaybookScan.Text.JsonString

/-!
# Reading JSON

A reader of JSON texts (RFC 8259): values with blanks around them, objects as lists of members in
the order of the text, strings with escapes and surrogate pairs, numbers as a whole number times a
power of ten. A lone surrogate is no text.

What is written as a JSON string is read back, in front of any rest (`value_jsonString`), and so is
a natural number in decimal (`value_toDigits`). An object is read member by member: `value_object`,
`members_cons`, `members_last`.
-/

set_option autoImplicit false

namespace PlaybookScan.Text

inductive Json where
  | null
  | bool (value : Bool)
  /-- `mantissa` times ten to the power of `exponent`. -/
  | number (mantissa exponent : Int)
  | string (text : String)
  | array (items : List Json)
  | object (members : List (String × Json))
  deriving Repr

namespace Json

/-! ## Strings -/

def hexValue? (c : Char) : Option Nat :=
  if c.isDigit then some (c.toNat - 48)
  else if 'a' ≤ c ∧ c ≤ 'f' then some (c.toNat - 87)
  else if 'A' ≤ c ∧ c ≤ 'F' then some (c.toNat - 55)
  else none

/-- The number that four hexadecimal digits write. -/
def unit? (a b c d : Char) : Option Nat := do
  return ((16 * (← hexValue? a) + (← hexValue? b)) * 16 + (← hexValue? c)) * 16 + (← hexValue? d)

/-- The character that a letter behind a backslash stands for. -/
def named? : Char → Option Char
  | '"' => some '"'
  | '\\' => some '\\'
  | '/' => some '/'
  | 'b' => some '\x08'
  | 'f' => some '\x0c'
  | 'n' => some '\n'
  | 'r' => some '\r'
  | 't' => some '\t'
  | _ => none

/-- Reads a string behind its first quote. Answers its characters and the rest. -/
def chars : List Char → Option (List Char × List Char)
  | [] => none
  | '"' :: cs => some ([], cs)
  | '\\' :: 'u' :: a :: b :: c :: d :: cs => do
    let unit ← unit? a b c d
    if unit < 0xD800 ∨ 0xE000 ≤ unit then
      let (text, rest) ← chars cs
      return (Char.ofNat unit :: text, rest)
    else match cs with
      | '\\' :: 'u' :: a :: b :: c :: d :: cs =>
        let low ← unit? a b c d
        if unit < 0xDC00 ∧ 0xDC00 ≤ low ∧ low < 0xE000 then
          let (text, rest) ← chars cs
          return (Char.ofNat (0x10000 + 0x400 * (unit - 0xD800) + (low - 0xDC00)) :: text, rest)
        else none
      | _ => none
  | '\\' :: c :: cs => do
    let c ← named? c
    let (text, rest) ← chars cs
    return (c :: text, rest)
  | c :: cs => do
    if c = '\\' ∨ c.toNat < 0x20 then none
    let (text, rest) ← chars cs
    return (c :: text, rest)

/-! ## Numbers -/

/-- Reads digits, one at least. -/
def digits? (cs : List Char) : Option (List Char × List Char) :=
  match cs.takeWhile Char.isDigit with
  | [] => none
  | d :: ds => some (d :: ds, cs.dropWhile Char.isDigit)

def fraction? : List Char → Option (List Char × List Char)
  | '.' :: cs => digits? cs
  | cs => some ([], cs)

def exponent? : List Char → Option (Int × List Char)
  | 'e' :: cs | 'E' :: cs => do
    let (sign, cs) : Int × List Char := match cs with
      | '-' :: cs => (-1, cs)
      | '+' :: cs => (1, cs)
      | cs => (1, cs)
    let (ds, rest) ← digits? cs
    return (sign * digitsValue ds, rest)
  | cs => some (0, cs)

/-- The sign of a number, and what stands behind it. -/
def sign : List Char → Int × List Char
  | '-' :: cs => (-1, cs)
  | cs => (1, cs)

/-- Reads a number. No zeros stand in front of its whole part. -/
def number? (cs : List Char) : Option (Json × List Char) := do
  let (sign, cs) := sign cs
  let (whole, cs) ← digits? cs
  if whole.head? = some '0' ∧ whole ≠ ['0'] then none
  let (part, cs) ← fraction? cs
  let (power, cs) ← exponent? cs
  return (.number (sign * digitsValue (whole ++ part)) (power - part.length), cs)

/-! ## Values -/

def isBlank (c : Char) : Bool := c == ' ' || c == '\t' || c == '\n' || c == '\r'

/-- What stands behind the blanks. -/
def unblank (cs : List Char) : List Char := cs.dropWhile isBlank

mutual

/-- Reads a value whose parts are nested less than `depth` deep. -/
def value : Nat → List Char → Option (Json × List Char)
  | 0, _ => none
  | depth + 1, cs =>
    match unblank cs with
    | 'n' :: 'u' :: 'l' :: 'l' :: cs => some (.null, cs)
    | 't' :: 'r' :: 'u' :: 'e' :: cs => some (.bool true, cs)
    | 'f' :: 'a' :: 'l' :: 's' :: 'e' :: cs => some (.bool false, cs)
    | '"' :: cs => do
      let (text, rest) ← chars cs
      return (.string (String.ofList text), rest)
    | '[' :: cs => match unblank cs with
      | ']' :: cs => some (.array [], cs)
      | cs => do
        let (items, rest) ← items depth cs
        return (.array items, rest)
    | '\x7b' :: cs => match unblank cs with
      | '\x7d' :: cs => some (.object [], cs)
      | cs => do
        let (members, rest) ← members depth cs
        return (.object members, rest)
    | cs => number? cs

/-- Reads the items of an array, one at least, and the bracket behind them. -/
def items : Nat → List Char → Option (List Json × List Char)
  | 0, _ => none
  | depth + 1, cs => do
    let (item, cs) ← value depth cs
    match unblank cs with
    | ',' :: cs =>
      let (others, rest) ← items depth cs
      return (item :: others, rest)
    | ']' :: cs => return ([item], cs)
    | _ => none

/-- Reads the members of an object, one at least, and the brace behind them. -/
def members : Nat → List Char → Option (List (String × Json) × List Char)
  | 0, _ => none
  | depth + 1, cs =>
    match unblank cs with
    | '"' :: cs => do
      let (name, cs) ← chars cs
      match unblank cs with
      | ':' :: cs =>
        let (item, cs) ← value depth cs
        match unblank cs with
        | ',' :: cs =>
          let (others, rest) ← members depth cs
          return ((String.ofList name, item) :: others, rest)
        | '\x7d' :: cs => return ([(String.ofList name, item)], cs)
        | _ => none
      | _ => none
    | _ => none

end

/-- Reads a text that is one value. No part of it is nested deeper than the text is long. -/
def parse? (cs : List Char) : Option Json :=
  match value (cs.length + 1) cs with
  | some (j, rest) => if unblank rest = [] then some j else none
  | none => none

/-! ## Strings are read back -/

theorem chars_named {e c : Char} (he : e ≠ 'u') (h : named? e = some c) (rest : List Char) :
    chars ('\\' :: e :: rest) = (chars rest).map fun p => (c :: p.1, p.2) := by
  rw [chars.eq_4 e rest (fun a b c d cs h => absurd h he), h]
  cases chars rest <;> rfl

theorem chars_unit {a b c d : Char} {n : Nat} (h : unit? a b c d = some n) (hn : n < 0xD800)
    (rest : List Char) : chars ('\\' :: 'u' :: a :: b :: c :: d :: rest) =
      (chars rest).map fun p => (Char.ofNat n :: p.1, p.2) := by
  rw [chars.eq_3, h]
  simp only [Option.bind_eq_bind, Option.bind_some, if_pos (Or.inl hn)]
  cases chars rest <;> rfl

theorem chars_plain {c : Char} (hquote : c ≠ '"') (hslash : c ≠ '\\') (hc : ¬ c.toNat < 0x20)
    (rest : List Char) : chars (c :: rest) = (chars rest).map fun p => (c :: p.1, p.2) := by
  rw [chars.eq_5 c rest hquote (fun _ _ _ _ _ h => absurd h hslash) (fun _ _ h => absurd h hslash)]
  rw [if_neg (by simp [hslash, hc])]
  cases chars rest <;> rfl

theorem fourDigits_eq : ∀ n < 0x20, ∃ a b c d, fourDigits n = [a, b, c, d] ∧
    unit? a b c d = some n := by
  intro n hn
  have h : fourDigits n = ['0', '0', Nat.digitChar (n / 16), Nat.digitChar (n % 16)] := by
    revert n
    decide
  refine ⟨_, _, _, _, h, ?_⟩
  revert n
  decide

theorem chars_jsonChar_append (c : Char) (rest : List Char) :
    chars (jsonChar c ++ rest) = (chars rest).map fun p => (c :: p.1, p.2) := by
  unfold jsonChar
  split
  case h_8 hquote hslash _ _ _ _ _ =>
    split
    case isTrue hc =>
      obtain ⟨a, b, d, e, hdigits, hunit⟩ := fourDigits_eq c.toNat hc
      rw [hdigits, List.append_assoc]
      exact (chars_unit hunit (by omega) rest).trans (by rw [Char.ofNat_toNat])
    case isFalse hc => exact chars_plain hquote hslash hc rest
  all_goals exact chars_named (by decide) rfl rest

/-- What is written between quotes is read back, up to the second quote. -/
theorem chars_flatMap_jsonChar (cs rest : List Char) :
    chars (cs.flatMap jsonChar ++ '"' :: rest) = some (cs, rest) := by
  induction cs with
  | nil => rfl
  | cons c cs ih => rw [List.flatMap_cons, List.append_assoc, chars_jsonChar_append, ih]; rfl

theorem toList_jsonString_append (s : String) (rest : List Char) :
    (jsonString s).toList ++ rest = '"' :: (s.toList.flatMap jsonChar ++ '"' :: rest) := by
  simp [jsonString]

theorem value_jsonString (depth : Nat) (s : String) (rest : List Char) :
    value (depth + 1) ((jsonString s).toList ++ rest) = some (.string s, rest) := by
  rw [toList_jsonString_append]
  simp [value, unblank, isBlank, chars_flatMap_jsonChar]

/-! ## Natural numbers are read back -/

/-- What may stand behind a whole number that is complete. -/
def EndsNumber (rest : List Char) : Prop :=
  ∀ c ∈ rest.head?, c.isDigit = false ∧ c ≠ '.' ∧ c ≠ 'e' ∧ c ≠ 'E'

theorem digits?_append {ds rest : List Char} (hne : ds ≠ []) (hds : ∀ c ∈ ds, c.isDigit = true)
    (hrest : ∀ c ∈ rest.head?, c.isDigit = false) : digits? (ds ++ rest) = some (ds, rest) := by
  have htake : (ds ++ rest).takeWhile Char.isDigit = ds := by
    rw [List.takeWhile_append_of_pos hds]
    cases rest with
    | nil => simp
    | cons c rest => simp [hrest c rfl]
  have hdrop : (ds ++ rest).dropWhile Char.isDigit = rest := by
    rw [List.dropWhile_append_of_pos hds]
    cases rest with
    | nil => simp
    | cons c rest => simp [hrest c rfl]
  obtain ⟨d, ds, rfl⟩ := List.exists_cons_of_ne_nil hne
  simp only [digits?, htake, hdrop]

theorem head?_toDigits_ne {n : Nat} (h : n ≠ 0) : (Nat.toDigits 10 n).head? ≠ some '0' := by
  induction n using Nat.strongRecOn with
  | ind n ih =>
    by_cases hn : n < 10
    · rw [Nat.toDigits_of_lt_base hn]
      exact (by decide : ∀ n < 10, n ≠ 0 → [n.digitChar].head? ≠ some '0') n hn h
    · obtain ⟨d, ds, hds⟩ :=
        List.exists_cons_of_ne_nil (Nat.toDigits_ne_nil (n := n / 10) (b := 10))
      have hd := ih (n / 10) (by omega) (by omega)
      rw [Nat.toDigits_of_base_le (by decide) (by omega), hds]
      rwa [hds] at hd

theorem number?_toDigits (n : Nat) {rest : List Char} (hrest : EndsNumber rest) :
    number? (Nat.toDigits 10 n ++ rest) = some (.number n 0, rest) := by
  have hds : ∀ c ∈ Nat.toDigits 10 n, c.isDigit = true := fun c hc =>
    Nat.isDigit_of_mem_toDigits (by decide) (by decide) hc
  have hdigits : digits? (Nat.toDigits 10 n ++ rest) = some (Nat.toDigits 10 n, rest) :=
    digits?_append Nat.toDigits_ne_nil hds fun c hc => (hrest c hc).1
  have hzero : ¬ ((Nat.toDigits 10 n).head? = some '0' ∧ Nat.toDigits 10 n ≠ ['0']) := by
    rintro ⟨hhead, hne⟩
    by_cases hn : n = 0
    · exact hne (hn ▸ rfl)
    · exact head?_toDigits_ne hn hhead
  have hfraction : fraction? rest = some ([], rest) := by
    unfold fraction?
    split
    · exact absurd rfl (hrest '.' rfl).2.1
    · rfl
  have hexponent : exponent? rest = some (0, rest) := by
    unfold exponent?
    split
    · exact absurd rfl (hrest 'e' rfl).2.2.1
    · exact absurd rfl (hrest 'E' rfl).2.2.2
    · rfl
  have hvalue : (digitsValue (Nat.toDigits 10 n) : Int) = n := by
    rw [digitsValue_eq, Nat.ofDigitChars_toDigits (by decide) (by decide)]
  have hsign : sign (Nat.toDigits 10 n ++ rest) = (1, Nat.toDigits 10 n ++ rest) := by
    obtain ⟨d, ds, h⟩ := List.exists_cons_of_ne_nil (Nat.toDigits_ne_nil (n := n) (b := 10))
    have hd : d ≠ '-' := by
      rintro rfl
      exact absurd (hds '-' (h ▸ List.mem_cons_self)) (by decide)
    rw [h, List.cons_append, sign.eq_2 _ fun cs h => hd (List.cons.inj h).1]
  simp [number?, hsign, hdigits, hzero, hfraction, hexponent, hvalue]

theorem isBlank_of_isDigit {c : Char} (h : c.isDigit = true) : isBlank c = false := by
  refine Bool.eq_false_iff.2 fun hc => ?_
  simp only [isBlank, Bool.or_eq_true, beq_iff_eq] at hc
  rcases hc with ((rfl | rfl) | rfl) | rfl <;> exact absurd h (by decide)

theorem value_toDigits (depth n : Nat) {rest : List Char} (hrest : EndsNumber rest) :
    value (depth + 1) (Nat.toDigits 10 n ++ rest) = some (.number n 0, rest) := by
  obtain ⟨d, ds, h⟩ := List.exists_cons_of_ne_nil (Nat.toDigits_ne_nil (n := n) (b := 10))
  have hd : d.isDigit = true :=
    Nat.isDigit_of_mem_toDigits (by decide) (by decide) (h ▸ List.mem_cons_self)
  have hunblank : unblank (d :: (ds ++ rest)) = d :: (ds ++ rest) :=
    List.dropWhile_cons_of_neg (Bool.not_eq_true _ ▸ isBlank_of_isDigit hd)
  rw [← number?_toDigits n hrest, h, List.cons_append, value, hunblank]
  split
  case h_7 => rfl
  all_goals
    rename_i heq
    obtain ⟨rfl, -⟩ := List.cons.inj heq
    exact absurd hd (by decide)

/-! ## Objects are read back member by member -/

section
variable {depth : Nat} {name : String} {item : Json} {cs rest : List Char}

theorem members_last (h : value depth cs = some (item, '\x7d' :: rest)) :
    members (depth + 1) ((jsonString name).toList ++ ':' :: cs) = some ([(name, item)], rest) := by
  rw [toList_jsonString_append]
  simp [members, unblank, isBlank, chars_flatMap_jsonChar, h]

theorem members_cons {others : List (String × Json)} {last : List Char}
    (h : value depth cs = some (item, ',' :: rest))
    (hothers : members depth rest = some (others, last)) :
    members (depth + 1) ((jsonString name).toList ++ ':' :: cs) =
      some ((name, item) :: others, last) := by
  rw [toList_jsonString_append]
  simp [members, unblank, isBlank, chars_flatMap_jsonChar, h, hothers]

theorem value_object {found : List (String × Json)}
    (h : members depth ((jsonString name).toList ++ cs) = some (found, rest)) :
    value (depth + 1) ('\x7b' :: ((jsonString name).toList ++ cs)) =
      some (.object found, rest) := by
  rw [toList_jsonString_append] at h ⊢
  simp [value, unblank, isBlank, h]

end

end Json

end PlaybookScan.Text

import Mathlib.Data.List.Lex
import PlaybookScan.Text.Utf8

/-!
# UTF-8

`decode_encode`: decoding the UTF-8 bytes of a text gives the text, also in front of other bytes.
UTF-8 keeps the order of texts (`encode_lt_encode`). Two characters with the same number of bytes
differ first in the digit, of six bits each, in which their numbers differ first
(`continuation_lt`); else the one with fewer bytes has the smaller first byte.
-/

set_option autoImplicit false

namespace PlaybookScan.Text.Utf8

theorem toNat_byte {n : Nat} (h : n < 256) : (UInt8.ofNat n).toNat = n := by
  rw [UInt8.toNat_ofNat', Nat.mod_eq_of_lt h]

theorem following_cons {n acc m : Nat} {low high : UInt8} {bs : List UInt8} (hm : m < 64)
    (hl : low.toNat ≤ m + 128) (hh : m + 128 ≤ high.toNat) :
    following (n + 1) low high acc (UInt8.ofNat (m + 128) :: bs) =
      following n 0x80 0xBF (64 * acc + m) bs := by
  have hb := toNat_byte (n := m + 128) (by omega)
  simp only [following]
  rw [if_pos ⟨UInt8.le_iff_toNat_le.2 (by omega), UInt8.le_iff_toNat_le.2 (by omega)⟩, hb,
    Nat.add_sub_cancel]

theorem next_of_following {b : UInt8} {bs rest : List UInt8} {l : Lead} {n : Nat}
    (hb : 128 ≤ b.toNat) (hl : lead? b = some l)
    (hf : following l.following l.low l.high l.bits bs = (some n, rest)) :
    next b bs = (Char.ofNat n, rest) := by
  have h : ¬ b < 0x80 := by
    rw [UInt8.lt_iff_toNat_lt]
    exact Nat.not_lt.2 hb
  simp only [next, if_neg h, hl, hf]

/-! ## First bytes -/

theorem lead?_two : ∀ k < 32, 2 ≤ k → lead? (UInt8.ofNat (k + 0xC0)) = some ⟨1, 0x80, 0xBF, k⟩ := by
  decide

theorem lead?_three : ∀ k < 16, lead? (UInt8.ofNat (k + 0xE0)) =
    some ⟨2, if k = 0 then 0xA0 else 0x80, if k = 13 then 0x9F else 0xBF, k⟩ := by
  decide

theorem lead?_four : ∀ k < 5, lead? (UInt8.ofNat (k + 0xF0)) =
    some ⟨3, if k = 0 then 0x90 else 0x80, if k = 4 then 0x8F else 0xBF, k⟩ := by
  decide

/-! ## Characters -/

theorem next_one {n : Nat} (h : n ≤ 0x7F) (rest : List UInt8) :
    next (UInt8.ofNat n) rest = (Char.ofNat n, rest) := by
  have hb := toNat_byte (n := n) (by omega)
  have h : UInt8.ofNat n < 0x80 := UInt8.lt_iff_toNat_lt.2 (by rw [hb]; exact Nat.lt_succ_of_le h)
  rw [next, if_pos h, hb]

theorem next_two {n : Nat} (hl : 0x80 ≤ n) (hh : n ≤ 0x7FF) (rest : List UInt8) :
    next (UInt8.ofNat (n / 64 % 0x20 + 0xC0)) (UInt8.ofNat (n % 0x40 + 0x80) :: rest) =
      (Char.ofNat n, rest) := by
  refine next_of_following (by rw [toNat_byte] <;> omega) (lead?_two _ (by omega) (by omega)) ?_
  rw [following_cons (by omega) (by simp) (by simp; omega), following]
  congr 2
  dsimp only
  omega

theorem next_three {n : Nat} (hl : 0x800 ≤ n) (hh : n ≤ 0xFFFF)
    (hv : n < 0xD800 ∨ 0xDFFF < n) (rest : List UInt8) :
    next (UInt8.ofNat (n / 4096 % 0x10 + 0xE0)) (UInt8.ofNat (n / 64 % 0x40 + 0x80) ::
      UInt8.ofNat (n % 0x40 + 0x80) :: rest) = (Char.ofNat n, rest) := by
  refine next_of_following (by rw [toNat_byte] <;> omega) (lead?_three _ (by omega)) ?_
  have hlow : (if n / 4096 % 16 = 0 then 0xA0 else 0x80 : UInt8).toNat ≤ n / 64 % 64 + 128 := by
    split <;> simp
    omega
  have hhigh : n / 64 % 64 + 128 ≤ (if n / 4096 % 16 = 13 then 0x9F else 0xBF : UInt8).toNat := by
    split <;> simp <;> omega
  rw [following_cons (by omega) hlow hhigh, following_cons (by omega) (by simp) (by simp; omega),
    following]
  congr 2
  dsimp only
  omega

theorem next_four {n : Nat} (hl : 0x10000 ≤ n) (hh : n < 0x110000) (rest : List UInt8) :
    next (UInt8.ofNat (n / 262144 % 0x08 + 0xF0)) (UInt8.ofNat (n / 4096 % 0x40 + 0x80) ::
      UInt8.ofNat (n / 64 % 0x40 + 0x80) :: UInt8.ofNat (n % 0x40 + 0x80) :: rest) =
      (Char.ofNat n, rest) := by
  refine next_of_following (by rw [toNat_byte] <;> omega) (lead?_four _ (by omega)) ?_
  have hlow : (if n / 262144 % 8 = 0 then 0x90 else 0x80 : UInt8).toNat ≤ n / 4096 % 64 + 128 := by
    split <;> simp
    omega
  have hhigh : n / 4096 % 64 + 128 ≤ (if n / 262144 % 8 = 4 then 0x8F else 0xBF : UInt8).toNat := by
    split <;> simp <;> omega
  rw [following_cons (by omega) hlow hhigh, following_cons (by omega) (by simp) (by simp; omega),
    following_cons (by omega) (by simp) (by simp; omega), following]
  congr 2
  dsimp only
  omega

theorem next_utf8EncodeChar (c : Char) (rest : List UInt8) :
    ∃ b bs, String.utf8EncodeChar c = b :: bs ∧ next b (bs ++ rest) = (c, rest) := by
  have hv : c.toNat < 0xD800 ∨ 0xDFFF < c.toNat ∧ c.toNat < 0x110000 := c.valid
  have hc : Char.ofNat c.toNat = c := Char.ofNat_toNat c
  unfold String.utf8EncodeChar
  simp only [show c.val.toNat = c.toNat from rfl]
  generalize c.toNat = n at hv hc
  subst hc
  split
  · exact ⟨_, _, rfl, next_one (by assumption) rest⟩
  · split
    · exact ⟨_, _, rfl, next_two (by omega) (by assumption) rest⟩
    · split
      · exact ⟨_, _, rfl, next_three (by omega) (by assumption) (by omega) rest⟩
      · exact ⟨_, _, rfl, next_four (by omega) (by omega) rest⟩

theorem decode_utf8EncodeChar_append (c : Char) (rest : List UInt8) :
    decode (String.utf8EncodeChar c ++ rest) = c :: decode rest := by
  obtain ⟨b, bs, hc, hn⟩ := next_utf8EncodeChar c rest
  rw [hc, List.cons_append, decode_cons, hn]

theorem encode_append (as bs : List Char) : encode (as ++ bs) = encode as ++ encode bs :=
  List.flatMap_append

theorem encode_flatten (pieces : List (List Char)) :
    encode pieces.flatten = (pieces.map encode).flatten := by
  induction pieces with
  | nil => rfl
  | cons piece pieces ih =>
    rw [List.flatten_cons, encode_append, ih]
    rfl

theorem decode_encode_append (cs : List Char) (rest : List UInt8) :
    decode (encode cs ++ rest) = cs ++ decode rest := by
  induction cs with
  | nil => rfl
  | cons c cs ih =>
    rw [encode, List.flatMap_cons, List.append_assoc, decode_utf8EncodeChar_append, ← encode, ih,
      List.cons_append]

/-- **The bytes of a text read as the text.** -/
theorem decode_encode (cs : List Char) : decode (encode cs) = cs := by
  simpa using decode_encode_append cs []

/-! ## The order of bytes -/

/-- The last `k` bytes of the character with number `n`. -/
def continuation : Nat → Nat → List UInt8
  | 0, _ => []
  | k + 1, n => UInt8.ofNat (n / 64 ^ k % 64 + 128) :: continuation k n

theorem ofNat_lt_ofNat {i j : Nat} (h : i < j) (hj : j < 256) : UInt8.ofNat i < UInt8.ofNat j := by
  rw [UInt8.lt_iff_toNat_lt, UInt8.toNat_ofNat', UInt8.toNat_ofNat', Nat.mod_eq_of_lt hj,
    Nat.mod_eq_of_lt (h.trans hj)]
  exact h

/-- Numbers whose digits above the last `k` are the same are told apart by the last `k`. -/
theorem continuation_lt {k n m : Nat} (h : n / 64 ^ k = m / 64 ^ k) (hlt : n < m)
    (bs ds : List UInt8) : continuation k n ++ bs < continuation k m ++ ds := by
  induction k with
  | zero => simp only [Nat.pow_zero, Nat.div_one] at h; omega
  | succ k ih =>
    rw [continuation, continuation, List.cons_append, List.cons_append, List.cons_lt_cons_iff]
    by_cases hk : n / 64 ^ k = m / 64 ^ k
    · exact .inr ⟨by rw [hk], ih hk⟩
    · refine .inl (ofNat_lt_ofNat ?_ (by omega))
      have hle : n / 64 ^ k ≤ m / 64 ^ k := Nat.div_le_div_right hlt.le
      rw [Nat.pow_succ, ← Nat.div_div_eq_div_mul, ← Nat.div_div_eq_div_mul] at h
      omega

theorem lead_continuation_lt {k n m start : Nat} (hlt : n < m) (hm : m / 64 ^ k + start < 256)
    (bs ds : List UInt8) :
    UInt8.ofNat (n / 64 ^ k + start) :: (continuation k n ++ bs) <
      UInt8.ofNat (m / 64 ^ k + start) :: (continuation k m ++ ds) := by
  rw [List.cons_lt_cons_iff]
  have hle : n / 64 ^ k ≤ m / 64 ^ k := Nat.div_le_div_right hlt.le
  by_cases hk : n / 64 ^ k = m / 64 ^ k
  · exact .inr ⟨by rw [hk], continuation_lt hk hlt bs ds⟩
  · exact .inl (ofNat_lt_ofNat (by omega) hm)

/-- How many bytes come behind the first one of the character with number `n`. -/
def width (n : Nat) : Nat :=
  if n < 0x80 then 0 else if n < 0x800 then 1 else if n < 0x10000 then 2 else 3

/-- Where the first bytes of the characters with `k` more bytes begin. -/
def leadStart : Nat → Nat
  | 0 => 0
  | 1 => 0xC0
  | 2 => 0xE0
  | 3 => 0xF0
  | _ => 0x100

theorem utf8EncodeChar_eq (c : Char) : String.utf8EncodeChar c =
    UInt8.ofNat (c.toNat / 64 ^ width c.toNat + leadStart (width c.toNat)) ::
      continuation (width c.toNat) c.toNat := by
  have hc : c.toNat < 0xD800 ∨ 0xDFFF < c.toNat ∧ c.toNat < 0x110000 := c.valid
  unfold String.utf8EncodeChar width
  simp only [show c.val.toNat = c.toNat from rfl, ← Nat.lt_succ_iff]
  generalize c.toNat = n at hc
  by_cases h1 : n < 0x80
  · simp [h1, leadStart, continuation]
  by_cases h2 : n < 0x800
  · simp [h1, h2, leadStart, continuation, Nat.mod_eq_of_lt (show n / 64 < 32 by omega)]
  by_cases h3 : n < 0x10000
  · simp [h1, h2, h3, leadStart, continuation, Nat.mod_eq_of_lt (show n / 4096 < 16 by omega)]
  · simp [h1, h2, h3, leadStart, continuation, Nat.mod_eq_of_lt (show n / 262144 < 8 by omega)]

theorem lead_lt_leadStart {n : Nat} (h : n < 0x110000) :
    n / 64 ^ width n + leadStart (width n) < leadStart (width n + 1) := by
  unfold width
  split_ifs <;> simp only [leadStart] <;> omega

theorem width_le {n m : Nat} (h : n ≤ m) : width n ≤ width m := by
  unfold width
  split_ifs <;> omega

theorem width_le_three (n : Nat) : width n ≤ 3 := by
  unfold width
  split_ifs <;> omega

theorem leadStart_le : ∀ k ≤ 4, ∀ j ≤ k, leadStart j ≤ leadStart k := by
  decide

/-- **Characters are in the order of their bytes**, whatever follows them. -/
theorem utf8EncodeChar_lt {c d : Char} (h : c < d) (bs ds : List UInt8) :
    String.utf8EncodeChar c ++ bs < String.utf8EncodeChar d ++ ds := by
  have hlt : c.toNat < d.toNat := h
  have hd : d.toNat < 0x110000 := by
    have : d.toNat < 0xD800 ∨ 0xDFFF < d.toNat ∧ d.toNat < 0x110000 := d.valid
    omega
  rw [utf8EncodeChar_eq, utf8EncodeChar_eq, List.cons_append, List.cons_append]
  generalize c.toNat = n, d.toNat = m at hlt hd
  have hn := lead_lt_leadStart (hlt.trans hd)
  have hm := lead_lt_leadStart hd
  have hwidth := width_le_three m
  have hm256 : m / 64 ^ width m + leadStart (width m) < 256 :=
    hm.trans_le (leadStart_le 4 le_rfl _ (by omega))
  rcases (width_le hlt.le).eq_or_lt with hw | hw
  · rw [hw]
    exact lead_continuation_lt hlt hm256 bs ds
  · have hstart : leadStart (width n + 1) ≤ leadStart (width m) :=
      leadStart_le _ (by omega) _ hw
    have hlead := (hn.trans_le hstart).trans_le (Nat.le_add_left _ (m / 64 ^ width m))
    exact List.cons_lt_cons_iff.2 (.inl (ofNat_lt_ofNat hlead hm256))

/-- **A text that comes first comes first by its bytes.** -/
theorem encode_lt_encode {cs ds : List Char} (h : cs < ds) : encode cs < encode ds := by
  induction h with
  | nil =>
    rw [encode, encode, List.flatMap_cons, utf8EncodeChar_eq]
    exact List.nil_lt_cons _ _
  | rel hcd => exact utf8EncodeChar_lt hcd _ _
  | @cons c cs ds h ih =>
    rw [encode, List.flatMap_cons, encode, List.flatMap_cons]
    exact List.append_left_lt ih

end PlaybookScan.Text.Utf8

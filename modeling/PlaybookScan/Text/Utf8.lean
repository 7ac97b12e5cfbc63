/-!
# UTF-8

`encode` writes characters as bytes. `decode` reads any bytes: each longest run that starts a
character without finishing it, and each byte that starts none, reads as one U+FFFD.
-/

set_option autoImplicit false

namespace PlaybookScan.Text.Utf8

def encode (cs : List Char) : List UInt8 := cs.flatMap String.utf8EncodeChar

/-- What the first byte of a character of several bytes announces. -/
structure Lead where
  /-- Number of bytes that follow. -/
  following : Nat
  /-- Range of the first byte that follows; the later ones are in 0x80 to 0xBF. -/
  low : UInt8
  high : UInt8
  /-- Bits of the character in the first byte. -/
  bits : Nat
  deriving DecidableEq, Repr

/-- The first bytes of characters of several bytes. The narrowed ranges leave out overlong forms,
surrogates and what lies above U+10FFFF. -/
def lead? (b : UInt8) : Option Lead :=
  if 0xC2 ≤ b ∧ b ≤ 0xDF then some ⟨1, 0x80, 0xBF, b.toNat - 0xC0⟩
  else if b = 0xE0 then some ⟨2, 0xA0, 0xBF, 0⟩
  else if b = 0xED then some ⟨2, 0x80, 0x9F, 0xD⟩
  else if 0xE1 ≤ b ∧ b ≤ 0xEF then some ⟨2, 0x80, 0xBF, b.toNat - 0xE0⟩
  else if b = 0xF0 then some ⟨3, 0x90, 0xBF, 0⟩
  else if 0xF1 ≤ b ∧ b ≤ 0xF3 then some ⟨3, 0x80, 0xBF, b.toNat - 0xF0⟩
  else if b = 0xF4 then some ⟨3, 0x80, 0x8F, 4⟩
  else none

/-- Reads `n` following bytes, the next one in `low` to `high`, onto the bits `acc`. Answers the
character's number if they are all there, and what is left after those that are. -/
def following : Nat → UInt8 → UInt8 → Nat → List UInt8 → Option Nat × List UInt8
  | 0, _, _, acc, bs => (some acc, bs)
  | _ + 1, _, _, _, [] => (none, [])
  | n + 1, low, high, acc, b :: bs =>
    if low ≤ b ∧ b ≤ high then following n 0x80 0xBF (64 * acc + (b.toNat - 0x80)) bs
    else (none, b :: bs)

theorem length_following (n : Nat) (low high : UInt8) (acc : Nat) (bs : List UInt8) :
    (following n low high acc bs).2.length ≤ bs.length := by
  induction n generalizing low high acc bs with
  | zero => simp [following]
  | succ n ih =>
    cases bs with
    | nil => simp [following]
    | cons b bs =>
      simp only [following]
      split
      · exact Nat.le_succ_of_le (ih ..)
      · exact Nat.le_refl _

/-- The character that a non-empty text starts with, and what is left after it. -/
def next (b : UInt8) (bs : List UInt8) : Char × List UInt8 :=
  if b < 0x80 then (Char.ofNat b.toNat, bs)
  else match lead? b with
    | none => ('\uFFFD', bs)
    | some l =>
      match following l.following l.low l.high l.bits bs with
      | (some n, rest) => (Char.ofNat n, rest)
      | (none, rest) => ('\uFFFD', rest)

theorem length_next (b : UInt8) (bs : List UInt8) : (next b bs).2.length ≤ bs.length := by
  unfold next
  split
  · exact Nat.le_refl _
  · split
    · exact Nat.le_refl _
    · rename_i l _
      have h := length_following l.following l.low l.high l.bits bs
      split <;> simp_all

/-- Reads `bs` after the characters `done`, the last of which comes first. -/
def decodeOnto (done : List Char) : List UInt8 → List Char
  | [] => done.reverse
  | b :: bs => decodeOnto ((next b bs).1 :: done) (next b bs).2
termination_by bs => bs.length
decreasing_by exact Nat.lt_succ_of_le (length_next b bs)

def decode (bs : List UInt8) : List Char := decodeOnto [] bs

theorem decodeOnto_eq (done : List Char) (bs : List UInt8) :
    decodeOnto done bs = done.reverse ++ decode bs := by
  induction h : bs.length using Nat.strongRecOn generalizing done bs with
  | ind n ih =>
    cases bs with
    | nil => simp [decode, decodeOnto]
    | cons b bs =>
      have hl := length_next b bs
      simp only [List.length_cons] at h
      rw [decode, decodeOnto, decodeOnto, ih _ (by omega) _ _ rfl, ih _ (by omega) [_] _ rfl]
      simp

@[simp] theorem decode_nil : decode [] = [] := by simp [decode, decodeOnto]

theorem decode_cons (b : UInt8) (bs : List UInt8) :
    decode (b :: bs) = (next b bs).1 :: decode (next b bs).2 := by
  rw [decode, decodeOnto, decodeOnto_eq]
  simp

end PlaybookScan.Text.Utf8

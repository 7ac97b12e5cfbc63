import PlaybookScan.Proofs.Text.Utf8

/-!
# What bytes read as that are no UTF-8

`Lossy bs cs`: read from the front, `bs` gives the characters `cs`, with one U+FFFD for the longest
run that begins a character but is none, or for a single byte that begins none (`IsBroken`).
`decode` reads in this way, and there is no other one (`lossy_iff`). A byte that announces others
(`lead?`) begins a character together with all bytes behind it that are in their ranges
(`beginsChar_cons_iff`). Broken bytes never reach across a byte of ASCII, where decoding goes on as
if from the start (`decode_append_cons`).
-/

set_option autoImplicit false

namespace PlaybookScan.Text.Utf8

/-- The bytes of a character, or the first of them. -/
def BeginsChar (bs : List UInt8) : Prop := ∃ c, bs <+: String.utf8EncodeChar c

/-- No character comes next, and `bad` is the longest run in front of `rest` that begins one, or a
single byte if none does. -/
structure IsBroken (bad rest : List UInt8) : Prop where
  ne_nil : bad ≠ []
  no_char : ∀ c, ¬ String.utf8EncodeChar c <+: bad ++ rest
  begins : BeginsChar bad ∨ bad.length = 1
  longest : ∀ start, start <+: bad ++ rest → BeginsChar start → start.length ≤ bad.length

/-- The bytes read as the characters. -/
inductive Lossy : List UInt8 → List Char → Prop where
  | nil : Lossy [] []
  | char (c : Char) {bs : List UInt8} {cs : List Char} (h : Lossy bs cs) :
      Lossy (String.utf8EncodeChar c ++ bs) (c :: cs)
  | broken {bad rest : List UInt8} {cs : List Char} (hbad : IsBroken bad rest)
      (h : Lossy rest cs) : Lossy (bad ++ rest) ('\uFFFD' :: cs)

/-! ## The bytes behind the first one -/

/-- The first byte is in the range from `low` to `high`, all others are in the widest range. -/
def Follow (low high : UInt8) : List UInt8 → Prop
  | [] => True
  | b :: bs => (low ≤ b ∧ b ≤ high) ∧ Follow 0x80 0xBF bs

/-- The number with the bits `acc` and then those of `bs`. -/
def value (acc : Nat) (bs : List UInt8) : Nat :=
  bs.foldl (fun acc b => 64 * acc + (b.toNat - 0x80)) acc

theorem value_cons (acc : Nat) (b : UInt8) (bs : List UInt8) :
    value acc (b :: bs) = value (64 * acc + (b.toNat - 0x80)) bs := by
  simp only [value, List.foldl_cons]

theorem following_cases (n : Nat) (low high : UInt8) (acc : Nat) (bs : List UInt8) :
    ∃ taken rest, bs = taken ++ rest ∧ Follow low high taken ∧ taken.length ≤ n ∧
      following n low high acc bs =
        (if taken.length = n then some (value acc taken) else none, rest) ∧
      ∀ start, start <+: bs → Follow low high start → start.length ≤ n →
        start.length ≤ taken.length := by
  induction n generalizing low high acc bs with
  | zero => exact ⟨[], bs, rfl, trivial, le_rfl, rfl, fun _ _ _ h => h⟩
  | succ n ih =>
    cases bs with
    | nil =>
      refine ⟨[], [], rfl, trivial, Nat.zero_le _, rfl, fun start h _ _ => ?_⟩
      rw [List.prefix_nil.1 h]
    | cons b bs =>
      by_cases hb : low ≤ b ∧ b ≤ high
      · obtain ⟨taken, rest, rfl, hfollow, hle, heq, hlongest⟩ :=
          ih 0x80 0xBF (64 * acc + (b.toNat - 0x80)) bs
        refine ⟨b :: taken, rest, rfl, ⟨hb, hfollow⟩, Nat.succ_le_succ hle, ?_, ?_⟩
        · rw [following, if_pos hb, heq, value_cons, List.length_cons]
          simp only [Nat.add_right_cancel_iff]
        · intro start hstart hf hlen
          cases start with
          | nil => exact Nat.zero_le _
          | cons d start =>
            obtain ⟨rfl, htail⟩ := List.cons_prefix_cons.1 hstart
            exact Nat.succ_le_succ (hlongest start htail hf.2 (Nat.le_of_succ_le_succ hlen))
      · refine ⟨[], b :: bs, rfl, trivial, Nat.zero_le _, ?_, ?_⟩
        · rw [following, if_neg hb]
          rfl
        · intro start hstart hf _
          cases start with
          | nil => exact le_rfl
          | cons d start =>
            obtain ⟨rfl, -⟩ := List.cons_prefix_cons.1 hstart
            exact absurd hf.1 hb

theorem continuation_value {low high : UInt8} (hlow : 0x80 ≤ low.toNat) (hhigh : high.toNat ≤ 0xBF)
    {bs : List UInt8} (h : Follow low high bs) (acc : Nat) :
    continuation bs.length (value acc bs) = bs ∧ value acc bs / 64 ^ bs.length = acc := by
  induction bs generalizing low high acc with
  | nil => exact ⟨rfl, Nat.div_one acc⟩
  | cons b bs ih =>
    obtain ⟨⟨hlb, hbh⟩, h⟩ := h
    rw [UInt8.le_iff_toNat_le] at hlb hbh
    obtain ⟨hrest, hdiv⟩ := @ih 0x80 0xBF (by simp) (by simp) h (64 * acc + (b.toNat - 0x80))
    have hdigit : (64 * acc + (b.toNat - 0x80)) % 64 + 128 = b.toNat := by omega
    rw [value_cons, List.length_cons, continuation, hrest, hdiv, hdigit, UInt8.ofNat_toNat]
    refine ⟨rfl, ?_⟩
    rw [Nat.pow_succ, ← Nat.div_div_eq_div_mul, hdiv]
    omega

/-! ## Bytes that begin a character -/

/-- What a first byte announces. The ranges are those in which the number belongs to a character
with this number of bytes. -/
theorem lead?_bounds {b : UInt8} {l : Lead} (h : lead? b = some l) :
    b.toNat = l.bits + leadStart l.following ∧
      0x80 ≤ l.low.toNat ∧ l.low.toNat ≤ l.high.toNat ∧ l.high.toNat ≤ 0xBF ∧
      (l.following = 1 ∧ 0x80 ≤ 64 * l.bits + (l.low.toNat - 0x80) ∧
          64 * l.bits + (l.high.toNat - 0x80) < 0x800 ∨
        l.following = 2 ∧ 0x20 ≤ 64 * l.bits + (l.low.toNat - 0x80) ∧
          64 * l.bits + (l.high.toNat - 0x80) < 0x400 ∧
          (64 * l.bits + (l.high.toNat - 0x80) < 0x360 ∨
            0x380 ≤ 64 * l.bits + (l.low.toNat - 0x80)) ∨
        l.following = 3 ∧ 0x10 ≤ 64 * l.bits + (l.low.toNat - 0x80) ∧
          64 * l.bits + (l.high.toNat - 0x80) < 0x110) := by
  unfold lead? at h
  simp only [UInt8.le_iff_toNat_le, ← UInt8.toNat_inj] at h
  split_ifs at h <;> cases h <;> simp [leadStart] at * <;> omega

theorem beginsChar_of_eq {c : Char} {bs : List UInt8} (h : String.utf8EncodeChar c = bs) :
    BeginsChar bs :=
  ⟨c, [], by rw [List.append_nil, h]⟩

theorem toNat_ofNat_of_isValidChar {n : Nat} (h : n.isValidChar) : (Char.ofNat n).toNat = n := by
  rw [Char.ofNat, dif_pos h]
  rfl

/-- A first byte and all the bytes that it announces are a character. -/
theorem exists_char_of_follow {b : UInt8} {l : Lead} {bs : List UInt8} (hl : lead? b = some l)
    (hf : Follow l.low l.high bs) (hlen : bs.length = l.following) :
    ∃ c : Char, String.utf8EncodeChar c = b :: bs ∧ c.toNat = value l.bits bs := by
  obtain ⟨hb, hlow, -, hhigh, hranges⟩ := lead?_bounds hl
  obtain ⟨hcont, hdiv⟩ := continuation_value hlow hhigh hf l.bits
  have hnumber : (value l.bits bs).isValidChar ∧ width (value l.bits bs) = l.following := by
    cases bs with
    | nil =>
      rw [List.length_nil] at hlen
      omega
    | cons t ts =>
      obtain ⟨⟨hlt, hth⟩, hts⟩ := hf
      rw [UInt8.le_iff_toNat_le] at hlt hth
      -- The first of these bytes decides between the widths, the others do not matter.
      have hhead := (@continuation_value 0x80 0xBF (by simp) (by simp) _ hts
        (64 * l.bits + (t.toNat - 0x80))).2
      rw [value_cons]
      generalize value (64 * l.bits + (t.toNat - 0x80)) ts = n at hhead
      rw [List.length_cons] at hlen
      unfold width Nat.isValidChar
      rcases hranges with ⟨hk, hranges⟩ | ⟨hk, hranges⟩ | ⟨hk, hranges⟩
      · rw [show ts.length = 0 by omega, Nat.pow_zero, Nat.div_one] at hhead
        split_ifs <;> omega
      · rw [show ts.length = 1 by omega, Nat.pow_one] at hhead
        split_ifs <;> omega
      · rw [show ts.length = 2 by omega, show 64 ^ 2 = 4096 by rfl] at hhead
        split_ifs <;> omega
  obtain ⟨hvalid, hwidth⟩ := hnumber
  have hnat := toNat_ofNat_of_isValidChar hvalid
  refine ⟨Char.ofNat (value l.bits bs), ?_, hnat⟩
  rw [utf8EncodeChar_eq, hnat, hwidth, ← hlen, hcont, hdiv, hlen, ← hb, UInt8.ofNat_toNat]

theorem lead?_of_utf8EncodeChar {c : Char} {b : UInt8} {bs : List UInt8}
    (h : String.utf8EncodeChar c = b :: bs) :
    b < 0x80 ∧ bs = [] ∨
      ∃ l, lead? b = some l ∧ Follow l.low l.high bs ∧ bs.length = l.following := by
  obtain ⟨d, ds, hd, hnext⟩ := next_utf8EncodeChar c []
  rw [h, List.cons.injEq] at hd
  obtain ⟨rfl, rfl⟩ := hd
  rw [List.append_nil] at hnext
  -- U+FFFD is also what `next` answers where it finds no character.
  by_cases hc : c = '\uFFFD'
  · subst hc
    have hbytes : String.utf8EncodeChar '\uFFFD' = [0xEF, 0xBF, 0xBD] := by decide
    rw [hbytes, List.cons.injEq] at h
    obtain ⟨rfl, rfl⟩ := h
    exact .inr ⟨⟨2, 0x80, 0xBF, 0xF⟩, by decide, by simp [Follow], rfl⟩
  unfold next at hnext
  split at hnext
  case isTrue hb => exact .inl ⟨hb, (Prod.mk.inj hnext).2⟩
  case isFalse =>
    cases hl : lead? b with
    | none =>
      simp only [hl, Prod.mk.injEq] at hnext
      exact absurd hnext.1.symm hc
    | some l =>
      obtain ⟨taken, rest, rfl, hf, -, heq, -⟩ :=
        following_cases l.following l.low l.high l.bits bs
      by_cases hlen : taken.length = l.following
      · simp only [hl, heq, if_pos hlen, Prod.mk.injEq] at hnext
        obtain ⟨-, rfl⟩ := hnext
        rw [List.append_nil]
        exact .inr ⟨l, rfl, hf, hlen⟩
      · simp only [hl, heq, if_neg hlen, Prod.mk.injEq] at hnext
        exact absurd hnext.1.symm hc

theorem utf8EncodeChar_of_lt {c : Char} (h : c.toNat < 0x80) :
    String.utf8EncodeChar c = [UInt8.ofNat c.toNat] := by
  simp [utf8EncodeChar_eq, width, h, leadStart, continuation]

theorem utf8EncodeChar_ofNat {b : UInt8} (h : b < 0x80) :
    String.utf8EncodeChar (Char.ofNat b.toNat) = [b] := by
  have hlt : b.toNat < 0x80 := UInt8.lt_iff_toNat_lt.1 h
  have hnat : (Char.ofNat b.toNat).toNat = b.toNat :=
    toNat_ofNat_of_isValidChar (.inl (by omega))
  rw [utf8EncodeChar_of_lt (by omega), hnat, UInt8.ofNat_toNat]

theorem Follow.of_append {low high : UInt8} {bs ds : List UInt8} (h : Follow low high (bs ++ ds)) :
    Follow low high bs := by
  induction bs generalizing low high with
  | nil => trivial
  | cons b bs ih => exact ⟨h.1, ih h.2⟩

theorem follow_replicate (n : Nat) : Follow 0x80 0xBF (List.replicate n 0x80) := by
  induction n with
  | zero => trivial
  | succ n ih => exact ⟨by decide, ih⟩

theorem Follow.exists_append {low high : UInt8} (hle : low ≤ high) {bs : List UInt8}
    (h : Follow low high bs) {n : Nat} (hn : bs.length ≤ n) :
    ∃ more, Follow low high (bs ++ more) ∧ (bs ++ more).length = n := by
  induction bs generalizing low high n with
  | nil =>
    cases n with
    | zero => exact ⟨[], trivial, rfl⟩
    | succ n =>
      exact ⟨low :: List.replicate n 0x80, ⟨⟨UInt8.le_refl low, hle⟩, follow_replicate n⟩, by simp⟩
  | cons b bs ih =>
    obtain ⟨n, rfl⟩ : ∃ m, n = m + 1 := ⟨n - 1, by rw [List.length_cons] at hn; omega⟩
    obtain ⟨more, hmore, hlen⟩ := ih (by decide) h.2 (Nat.le_of_succ_le_succ hn)
    exact ⟨more, ⟨h.1, hmore⟩, congrArg (· + 1) hlen⟩

/-- **What begins a character**: a byte of ASCII, or a first byte with bytes behind it that are in
their ranges. -/
theorem beginsChar_cons_iff {b : UInt8} {bs : List UInt8} :
    BeginsChar (b :: bs) ↔ b < 0x80 ∧ bs = [] ∨
      ∃ l, lead? b = some l ∧ Follow l.low l.high bs ∧ bs.length ≤ l.following := by
  constructor
  · rintro ⟨c, more, hc⟩
    rw [List.cons_append] at hc
    rcases lead?_of_utf8EncodeChar hc.symm with ⟨hb, hnil⟩ | ⟨l, hl, hf, hlen⟩
    · exact .inl ⟨hb, (List.append_eq_nil_iff.1 hnil).1⟩
    · rw [List.length_append] at hlen
      exact .inr ⟨l, hl, hf.of_append, by omega⟩
  · rintro (⟨hb, rfl⟩ | ⟨l, hl, hf, hlen⟩)
    · exact beginsChar_of_eq (utf8EncodeChar_ofNat hb)
    · obtain ⟨-, -, hle, -⟩ := lead?_bounds hl
      obtain ⟨more, hmore, hlen⟩ := hf.exists_append (UInt8.le_iff_toNat_le.2 hle) hlen
      obtain ⟨c, hc, -⟩ := exists_char_of_follow hl hmore hlen
      exact ⟨c, more, by rw [hc, List.cons_append]⟩

/-! ## One character, and all -/

/-- A run from a first byte on is broken if no other one from there begins more of a character, and
none is a character. -/
theorem isBroken_cons {b : UInt8} {taken rest : List UInt8}
    (hbegins : BeginsChar (b :: taken) ∨ taken = [])
    (hchar : ∀ c ds, String.utf8EncodeChar c = b :: ds → ¬ ds <+: taken ++ rest)
    (hlongest : ∀ ds, ds <+: taken ++ rest → BeginsChar (b :: ds) → ds.length ≤ taken.length) :
    IsBroken (b :: taken) rest where
  ne_nil := List.cons_ne_nil _ _
  no_char c hc := by
    obtain ⟨d, ds, hd, -⟩ := next_utf8EncodeChar c []
    rw [hd] at hc
    obtain ⟨rfl, hds⟩ := List.cons_prefix_cons.1 hc
    exact hchar c ds hd hds
  begins := hbegins.imp_right (congrArg fun ds => (b :: ds).length)
  longest start hstart hbegin := by
    cases start with
    | nil => exact Nat.zero_le _
    | cons d ds =>
      obtain ⟨rfl, hds⟩ := List.cons_prefix_cons.1 hstart
      exact Nat.succ_le_succ (hlongest ds hds hbegin)

/-- **What is read next** is a character that is there, or U+FFFD for broken bytes. -/
theorem next_cases (b : UInt8) (bs : List UInt8) :
    (∃ c rest, b :: bs = String.utf8EncodeChar c ++ rest ∧ next b bs = (c, rest)) ∨
      ∃ bad rest, b :: bs = bad ++ rest ∧ IsBroken bad rest ∧ next b bs = ('\uFFFD', rest) := by
  unfold next
  by_cases hb : b < 0x80
  · exact .inl ⟨_, bs, by rw [utf8EncodeChar_ofNat hb, List.singleton_append], by rw [if_pos hb]⟩
  rw [if_neg hb]
  cases hl : lead? b with
  | none =>
    have hbegins (ds : List UInt8) : ¬ BeginsChar (b :: ds) := by simp [beginsChar_cons_iff, hb, hl]
    refine .inr ⟨[b], bs, rfl, isBroken_cons (.inr rfl) ?_ ?_, rfl⟩
    · exact fun c ds hc _ => hbegins ds (beginsChar_of_eq hc)
    · exact fun ds _ h => absurd h (hbegins ds)
  | some l =>
    obtain ⟨taken, rest, rfl, hf, hle, heq, hlongest⟩ :=
      following_cases l.following l.low l.high l.bits bs
    by_cases hlen : taken.length = l.following
    · obtain ⟨c, hc, hvalue⟩ := exists_char_of_follow hl hf hlen
      refine .inl ⟨c, rest, by rw [hc, List.cons_append], ?_⟩
      simp only [heq, if_pos hlen, ← hvalue, Char.ofNat_toNat]
    · have hbegins := beginsChar_cons_iff.2 (.inr ⟨l, hl, hf, hle⟩)
      refine .inr ⟨b :: taken, rest, rfl, isBroken_cons (.inl hbegins) ?_ ?_, ?_⟩
      · intro c ds hc hds
        rcases lead?_of_utf8EncodeChar hc with ⟨hascii, -⟩ | ⟨l', hl', hfds, hlends⟩
        · exact hb hascii
        · obtain rfl := Option.some.inj (hl.symm.trans hl')
          have hmost := hlongest ds hds hfds hlends.le
          omega
      · intro ds hds hbegin
        rcases beginsChar_cons_iff.1 hbegin with ⟨hascii, -⟩ | ⟨l', hl', hfds, hlends⟩
        · exact absurd hascii hb
        · obtain rfl := Option.some.inj (hl.symm.trans hl')
          exact hlongest ds hds hfds hlends
      · simp only [heq, if_neg hlen]

theorem lossy_decode (bs : List UInt8) : Lossy bs (decode bs) := by
  induction h : bs.length using Nat.strongRecOn generalizing bs with
  | ind n ih =>
    cases bs with
    | nil => exact decode_nil ▸ .nil
    | cons b bs =>
      have hshorter := length_next b bs
      rw [List.length_cons] at h
      have hrest := ih _ (by omega) (next b bs).2 rfl
      rw [decode_cons]
      rcases next_cases b bs with ⟨c, rest, heq, hnext⟩ | ⟨bad, rest, heq, hbad, hnext⟩
      · rw [hnext] at hrest ⊢
        exact heq ▸ .char c hrest
      · rw [hnext] at hrest ⊢
        exact heq ▸ .broken hbad hrest

theorem IsBroken.length_le {bad rest bad' rest' : List UInt8} (h : IsBroken bad rest)
    (h' : IsBroken bad' rest') (heq : bad ++ rest = bad' ++ rest') : bad.length ≤ bad'.length := by
  rcases h.begins with hbegins | hone
  · exact h'.longest bad (heq ▸ List.prefix_append bad rest) hbegins
  · rw [hone]
    exact List.length_pos_iff.2 h'.ne_nil

theorem decode_append_of_isBroken {bad rest : List UInt8} (h : IsBroken bad rest) :
    decode (bad ++ rest) = '\uFFFD' :: decode rest := by
  obtain ⟨b, bs, rfl⟩ := List.exists_cons_of_ne_nil h.ne_nil
  rw [List.cons_append, decode_cons]
  rcases next_cases b (bs ++ rest) with ⟨c, rest', heq, -⟩ | ⟨bad', rest', heq, hbad', hnext⟩
  · exact absurd ⟨rest', by rw [← heq, List.cons_append]⟩ (h.no_char c)
  · rw [← List.cons_append] at heq
    have hlen := Nat.le_antisymm (h.length_le hbad' heq) (hbad'.length_le h heq.symm)
    rw [hnext, (List.append_inj heq hlen).2]

/-- **Decoding is the lossy reading**, and there is no other one. -/
theorem lossy_iff {bs : List UInt8} {cs : List Char} : Lossy bs cs ↔ cs = decode bs := by
  constructor
  · intro h
    induction h with
    | nil => exact decode_nil.symm
    | char c _ ih => rw [decode_utf8EncodeChar_append, ih]
    | broken hbad _ ih => rw [decode_append_of_isBroken hbad, ih]
  · rintro rfl
    exact lossy_decode bs

theorem decode_eq_nil_iff {bs : List UInt8} : decode bs = [] ↔ bs = [] := by
  cases bs with
  | nil => simp
  | cons b bs => simp [decode_cons]

/-! ## Bytes of ASCII -/

section
variable {a : UInt8} (ha : a < 0x80)
include ha

theorem following_append_cons (n : Nat) {low : UInt8} (hlow : 0x80 ≤ low) (high : UInt8)
    (acc : Nat) (bs ds : List UInt8) : following n low high acc (bs ++ a :: ds) =
      ((following n low high acc bs).1, (following n low high acc bs).2 ++ a :: ds) := by
  have hout {low high : UInt8} (hlow : 0x80 ≤ low) : ¬ (low ≤ a ∧ a ≤ high) := by
    rintro ⟨hla, -⟩
    rw [UInt8.le_iff_toNat_le] at hlow hla
    rw [UInt8.lt_iff_toNat_lt] at ha
    omega
  induction n generalizing low high acc bs with
  | zero => rfl
  | succ n ih =>
    cases bs with
    | nil => simp only [List.nil_append, following, if_neg (hout hlow)]
    | cons b bs =>
      rw [List.cons_append, following, following]
      split
      · exact ih (by decide) _ _ bs
      · rfl

theorem next_append_cons (b : UInt8) (bs ds : List UInt8) :
    next b (bs ++ a :: ds) = ((next b bs).1, (next b bs).2 ++ a :: ds) := by
  unfold next
  split
  · rfl
  · cases hl : lead? b with
    | none => rfl
    | some l =>
      obtain ⟨-, hlow, -⟩ := lead?_bounds hl
      have happend := following_append_cons ha l.following (UInt8.le_iff_toNat_le.2 hlow) l.high
        l.bits bs ds
      simp only [happend]
      rcases following l.following l.low l.high l.bits bs with ⟨_ | n, rest⟩ <;> rfl

/-- **A byte of ASCII is read for itself**, whatever stands before it. -/
theorem decode_append_cons (bs ds : List UInt8) :
    decode (bs ++ a :: ds) = decode bs ++ Char.ofNat a.toNat :: decode ds := by
  induction h : bs.length using Nat.strongRecOn generalizing bs with
  | ind n ih =>
    cases bs with
    | nil => rw [List.nil_append, decode_cons, next, if_pos ha, decode_nil, List.nil_append]
    | cons b bs =>
      have hshorter := length_next b bs
      rw [List.length_cons] at h
      rw [List.cons_append, decode_cons, decode_cons, next_append_cons ha,
        ih _ (by omega) (next b bs).2 rfl, List.cons_append]

end

section
variable {c : Char} (hc : c.toNat < 0x80)
include hc

theorem ne_replacement : c ≠ '\uFFFD' := by
  rintro rfl
  exact absurd hc (by decide)

theorem mem_of_mem_decode {bs : List UInt8} (h : c ∈ decode bs) : UInt8.ofNat c.toNat ∈ bs := by
  have hread := lossy_decode bs
  generalize decode bs = cs at h hread
  induction hread with
  | nil => cases h
  | char d _ ih =>
    rcases List.mem_cons.1 h with rfl | h
    · rw [utf8EncodeChar_of_lt hc]
      exact List.mem_append_left _ (List.mem_singleton_self _)
    · exact List.mem_append_right _ (ih h)
  | broken _ _ ih =>
    rcases List.mem_cons.1 h with he | h
    · exact absurd he (ne_replacement hc)
    · exact List.mem_append_right _ (ih h)

theorem getLast?_of_getLast?_decode {bs : List UInt8} (h : (decode bs).getLast? = some c) :
    bs.getLast? = some (UInt8.ofNat c.toNat) := by
  have hread := lossy_decode bs
  generalize decode bs = cs at h hread
  -- The last character is read from the last bytes; those of the rest come after all others.
  have hlast {front rest : List UInt8} (hrest : rest.getLast? = some (UInt8.ofNat c.toNat)) :
      (front ++ rest).getLast? = some (UInt8.ofNat c.toNat) := by
    rw [List.getLast?_append, hrest]
    rfl
  induction hread with
  | nil => cases h
  | @char d bs cs hread ih =>
    cases cs with
    | nil =>
      obtain rfl : d = c := by simpa using h
      obtain rfl := decode_eq_nil_iff.1 (lossy_iff.1 hread).symm
      rw [utf8EncodeChar_of_lt hc]
      rfl
    | cons e cs => exact hlast (ih (by rwa [List.getLast?_cons_cons] at h))
  | @broken bad rest cs _ _ ih =>
    cases cs with
    | nil => exact absurd (by simpa using h.symm) (ne_replacement hc)
    | cons e cs => exact hlast (ih (by rwa [List.getLast?_cons_cons] at h))

end

end PlaybookScan.Text.Utf8

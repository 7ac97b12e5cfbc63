import PlaybookScan.Proofs.Text.Lossy
import PlaybookScan.Text.Lines

/-!
# Lines, of bytes and of text

`ofText cs` are the lines of a text. Lines are cut out of a stream of bytes and then decoded one by
one; `read_eq_ofText` says that decoding the stream as a whole and cutting the text gives the same.

A stream is a last line without a newline, or a line, its newline and another stream
(`line_induction`). Each function on streams has an equation for either case: `read_of_not_mem` and
`read_append_newline`, and so on. Decoding keeps newlines and carriage returns where they are, since
they are ASCII (`decode_append_newline`, `decode_dropReturn`).
-/

set_option autoImplicit false

namespace PlaybookScan.Text.Lines

open Utf8

/-- `cs` without one carriage return at its end. -/
def withoutReturn (cs : List Char) : List Char :=
  if cs.getLast? = some '\r' then cs.dropLast else cs

/-- The lines of a text. Each newline ends one, which loses a carriage return in front of the
newline. What stands behind the last newline is a line as it is, unless it is empty. -/
def ofText (cs : List Char) : List String :=
  let pieces := cs.splitOn '\n'
  let last := pieces.getLast?.getD []
  (pieces.dropLast.map withoutReturn ++ if last = [] then [] else [last]).map String.ofList

/-! ## Streams -/

@[elab_as_elim]
theorem line_induction {motive : List UInt8 → Prop} (last : ∀ l, 10 ∉ l → motive l)
    (line : ∀ l bs, 10 ∉ l → motive bs → motive (l ++ 10 :: bs)) (bs : List UInt8) :
    motive bs := by
  induction h : bs.length using Nat.strongRecOn generalizing bs with
  | ind n ih =>
    by_cases hm : 10 ∈ bs
    · obtain ⟨l, rest, rfl, hl⟩ := List.eq_append_cons_of_mem hm
      rw [List.length_append, List.length_cons] at h
      exact line l rest hl (ih rest.length (by omega) rest rfl)
    · exact last bs hm

/-- The stream has no line without a newline. -/
def Complete (bs : List UInt8) : Prop := bs = [] ∨ bs.getLast? = some 10

theorem getLast?_append_newline (l bs : List UInt8) :
    (l ++ 10 :: bs).getLast? = some (bs.getLast?.getD 10) := by
  rw [List.getLast?_append, List.getLast?_cons]
  rfl

theorem complete_append_newline_iff {l bs : List UInt8} :
    Complete (l ++ 10 :: bs) ↔ Complete bs := by
  unfold Complete
  rw [getLast?_append_newline]
  cases bs with
  | nil => simp
  | cons b bs => simp [List.getLast?_cons]

theorem complete_iff_of_not_mem {l : List UInt8} (h : 10 ∉ l) : Complete l ↔ l = [] :=
  ⟨fun hl => hl.resolve_right fun hlast => h (List.mem_of_getLast? hlast), .inl⟩

/-! ## Pieces of a stream -/

theorem splitOnto_eq (done : List Piece) (line bs : List UInt8) :
    splitOnto done line bs = done.reverse ++ splitOnto [] line bs := by
  induction bs generalizing done line with
  | nil => simp only [splitOnto]; split <;> simp
  | cons b bs ih =>
    simp only [splitOnto]
    split
    · rw [ih, ih [_]]
      simp
    · exact ih done (b :: line)

theorem splitOnto_append {l : List UInt8} (h : 10 ∉ l) (line bs : List UInt8) :
    splitOnto [] line (l ++ bs) = splitOnto [] (l.reverse ++ line) bs := by
  induction l generalizing line with
  | nil => rfl
  | cons b l ih =>
    rw [List.mem_cons, not_or] at h
    rw [List.cons_append, splitOnto, if_neg (Ne.symm h.1), ih h.2]
    simp

theorem split_append_newline {l : List UInt8} (h : 10 ∉ l) (bs : List UInt8) :
    split (l ++ 10 :: bs) = ⟨l, true⟩ :: split bs := by
  rw [split, splitOnto_append h, splitOnto, if_pos rfl, splitOnto_eq]
  simp [split]

theorem split_of_not_mem {l : List UInt8} (h : 10 ∉ l) :
    split l = if l = [] then [] else [⟨l, false⟩] := by
  have happend := splitOnto_append h [] []
  rw [List.append_nil, List.append_nil] at happend
  rw [split, happend, splitOnto]
  simp

/-! ## Lines of a stream -/

theorem read_append_newline {l : List UInt8} (h : 10 ∉ l) (bs : List UInt8) :
    read (l ++ 10 :: bs) = String.ofList (decode (dropReturn l)) :: read bs := by
  rw [read, split_append_newline h]
  rfl

theorem read_of_not_mem {l : List UInt8} (h : 10 ∉ l) :
    read l = if l = [] then [] else [String.ofList (decode l)] := by
  rw [read, split_of_not_mem h]
  split <;> rfl

/-- **Reading goes on behind a newline** as if from the start. -/
theorem read_append {xs : List UInt8} (h : Complete xs) (ys : List UInt8) :
    read (xs ++ ys) = read xs ++ read ys := by
  induction xs using line_induction with
  | last l hl =>
    rw [complete_iff_of_not_mem hl] at h
    rw [h]
    rfl
  | line l bs hl ih =>
    rw [List.append_assoc, List.cons_append, read_append_newline hl, read_append_newline hl,
      ih (complete_append_newline_iff.1 h), List.cons_append]

/-- **Counting lines without reading them.** -/
theorem rawCount_eq (bs : List UInt8) : rawCount bs = (read bs).length := by
  induction bs using line_induction with
  | last l hl =>
    have hcomplete := complete_iff_of_not_mem hl
    unfold Complete at hcomplete
    rw [rawCount, read_of_not_mem hl, List.count_eq_zero.2 hl]
    simp only [hcomplete]
    split <;> rfl
  | line l bs hl ih =>
    have hcomplete := @complete_append_newline_iff l bs
    unfold Complete at hcomplete
    rw [rawCount] at ih ⊢
    rw [read_append_newline hl, List.length_cons, ← ih, List.count_append, List.count_eq_zero.2 hl,
      List.count_cons_self]
    simp only [hcomplete]
    omega

/-! ## Lines of a text -/

theorem ofText_append_newline {l : List Char} (h : '\n' ∉ l) (cs : List Char) :
    ofText (l ++ '\n' :: cs) = String.ofList (withoutReturn l) :: ofText cs := by
  obtain ⟨piece, pieces, hcs⟩ := List.exists_cons_of_ne_nil (List.splitOn_ne_nil '\n' cs)
  have hsplit : (l ++ '\n' :: cs).splitOn '\n' = l :: piece :: pieces := by
    rw [List.splitOn_append_cons_self, List.splitOn_eq_singleton h, hcs]
    rfl
  simp only [ofText, hsplit, hcs, List.dropLast_cons_cons, List.getLast?_cons_cons, List.map_cons,
    List.cons_append]

theorem ofText_of_not_mem {l : List Char} (h : '\n' ∉ l) :
    ofText l = if l = [] then [] else [String.ofList l] := by
  simp only [ofText, List.splitOn_eq_singleton h, List.dropLast_singleton, List.map_nil,
    List.nil_append, List.getLast?_singleton, Option.getD_some]
  split <;> rfl

/-! ## Decoding -/

theorem decode_append_newline (bs ds : List UInt8) :
    decode (bs ++ 10 :: ds) = decode bs ++ '\n' :: decode ds :=
  decode_append_cons (by decide) bs ds

theorem newline_not_mem_decode {bs : List UInt8} (h : 10 ∉ bs) : '\n' ∉ decode bs :=
  fun hm => h (mem_of_mem_decode (by decide) hm)

theorem newline_not_mem_encode {cs : List Char} (h : '\n' ∉ cs) : 10 ∉ encode cs := by
  intro hmem
  obtain ⟨bs, ds, hbytes⟩ := List.append_of_mem hmem
  have hdecode := decode_append_newline bs ds
  rw [← hbytes, decode_encode] at hdecode
  exact h (hdecode ▸ List.mem_append_right _ List.mem_cons_self)

theorem decode_dropReturn (bs : List UInt8) :
    decode (dropReturn bs) = withoutReturn (decode bs) := by
  unfold dropReturn withoutReturn
  split
  case isTrue h =>
    obtain ⟨front, rfl⟩ := List.getLast?_eq_some_iff.1 h
    have hdecode : decode (front ++ [13]) = decode front ++ ['\r'] := by
      rw [decode_append_cons (by decide), decode_nil]
      rfl
    rw [hdecode, List.dropLast_concat, List.getLast?_concat, if_pos rfl, List.dropLast_concat]
  case isFalse h =>
    rw [if_neg]
    intro hlast
    exact h (getLast?_of_getLast?_decode (by decide) hlast)

/-- **Cutting and decoding can be done in either order.** -/
theorem read_eq_ofText (bs : List UInt8) : read bs = ofText (decode bs) := by
  induction bs using line_induction with
  | last l hl =>
    rw [read_of_not_mem hl, ofText_of_not_mem (newline_not_mem_decode hl)]
    simp only [decode_eq_nil_iff]
  | line l bs hl ih =>
    rw [read_append_newline hl, decode_append_newline,
      ofText_append_newline (newline_not_mem_decode hl), decode_dropReturn, ih]

theorem newline_not_mem_of_mem_read {bs : List UInt8} {line : String} (h : line ∈ read bs) :
    '\n' ∉ line.toList := by
  induction bs using line_induction with
  | last l hl =>
    rw [read_of_not_mem hl] at h
    split at h
    · cases h
    · rw [List.mem_singleton.1 h, String.toList_ofList]
      exact newline_not_mem_decode hl
  | line l bs hl ih =>
    rw [read_append_newline hl, List.mem_cons] at h
    rcases h with rfl | h
    · have hdrop : 10 ∉ dropReturn l := by
        unfold dropReturn
        split
        · exact fun hm => hl ((List.dropLast_sublist l).subset hm)
        · exact hl
      rw [String.toList_ofList]
      exact newline_not_mem_decode hdrop
    · exact ih h

/-- **The lines of a stream are those of its text**, which is the only one that the bytes read as,
with U+FFFD for what is broken in them. No line has a newline in it. A stream in two parts has the
lines of both, if the first is empty or ends in a newline. -/
theorem read_decodes (bs : List UInt8) :
    (∀ cs, Lossy bs cs ↔ cs = decode bs) ∧ read bs = ofText (decode bs) ∧
      (∀ line ∈ read bs, '\n' ∉ line.toList) ∧
      ∀ xs ys, bs = xs ++ ys → (xs = [] ∨ xs.getLast? = some 10) →
        read bs = read xs ++ read ys ∧
          (ys ≠ [] → 10 ∉ ys → read bs = read xs ++ [String.ofList (decode ys)]) := by
  refine ⟨fun cs => lossy_iff, read_eq_ofText bs, fun line => newline_not_mem_of_mem_read, ?_⟩
  rintro xs ys rfl hxs
  refine ⟨read_append hxs ys, fun hne hys => ?_⟩
  rw [read_append hxs, read_of_not_mem hys, if_neg hne]

example : read [0xE2, 0x82, 13, 13, 10, 10, 0xC3, 13] = ["\uFFFD\r", "", "\uFFFD\r"] := by
  decide +kernel

/-! ## Counting -/

theorem toNat_count (bs : List UInt8) : (count bs).toNat = min (read bs).length 4294967295 := by
  have hfits : min (rawCount bs) 4294967295 < UInt32.size :=
    Nat.lt_of_le_of_lt (Nat.min_le_right _ _) (by decide)
  rw [count, UInt32.toNat_ofNat_of_lt' hfits, rawCount_eq]

theorem le_count_iff (n : UInt32) (bs : List UInt8) :
    n ≤ count bs ↔ n.toNat ≤ (read bs).length := by
  have hn := n.toNat_lt
  rw [UInt32.le_iff_toNat_le, toNat_count]
  omega

end PlaybookScan.Text.Lines

import PlaybookScan.Cli.Sink
import PlaybookScan.Proofs.Issue.Json
import PlaybookScan.Proofs.Text.Lines

/-!
# Issues as lines

A sink does not notice in which pieces a text is written (`Sink.writePieces_eq`), so each issue
comes to its object and a newline. A sink that has room takes the lines of all issues, and a reader
gets the issues back from these (`Sink.writeIssues_read`), since no record holds a newline.

A sink with less room takes the beginning of the lines, and where it ends says how writing fails
(`Sink.writeIssues_limited`). No object holds a newline, so a place in one is not also its end.
-/

set_option autoImplicit false

namespace PlaybookScan

open Text

namespace Issue

/-- The lines of the issues. -/
def lines (issues : List Issue) : List Char := issues.flatMap fun i => i.json.toList ++ ['\n']

@[simp] theorem lines_cons (i : Issue) (issues : List Issue) :
    lines (i :: issues) = i.json.toList ++ '\n' :: lines issues := by simp [lines]

-- Irreducible, for unification would evaluate the beginning of the object.
/-- The bytes of the object of an issue. -/
@[irreducible] def bytes (i : Issue) : List UInt8 := Utf8.encode i.json.toList

/-- The bytes of the lines of issues. -/
@[irreducible] def lineBytes (issues : List Issue) : List UInt8 := Utf8.encode (lines issues)

@[simp] theorem lineBytes_nil : lineBytes [] = [] := by
  rw [lineBytes]
  rfl

theorem lineBytes_cons (i : Issue) (issues : List Issue) :
    lineBytes (i :: issues) = (i.bytes ++ [10]) ++ lineBytes issues := by
  have hnewline : Utf8.encode ('\n' :: lines issues) = [10] ++ Utf8.encode (lines issues) := rfl
  rw [lineBytes, lineBytes, bytes, lines_cons, Utf8.encode_append, hnewline, List.append_assoc]

theorem lineBytes_append (as bs : List Issue) :
    lineBytes (as ++ bs) = lineBytes as ++ lineBytes bs := by
  induction as with
  | nil => rw [lineBytes_nil, List.nil_append, List.nil_append]
  | cons i as ih => rw [List.cons_append, lineBytes_cons, lineBytes_cons, ih, ← List.append_assoc]

theorem newline_not_mem_bytes (i : Issue) : 10 ∉ i.bytes := by
  rw [bytes]
  exact Lines.newline_not_mem_encode i.newline_not_mem_json

theorem count_newline_lines (issues : List Issue) :
    (lines issues).count '\n' = issues.length := by
  induction issues with
  | nil => rfl
  | cons i issues ih => simp [List.count_eq_zero.2 i.newline_not_mem_json, ih]

theorem splitOn_lines (issues : List Issue) :
    (lines issues).splitOn '\n' = (issues.map fun i => i.json.toList) ++ [[]] := by
  induction issues with
  | nil => rfl
  | cons i issues ih =>
    have hrecord : ∀ c ∈ i.json.toList, (c == '\n') = false := fun c hc =>
      beq_false_of_ne fun h => i.newline_not_mem_json (h ▸ hc)
    rw [List.splitOn_eq_splitOnP] at ih ⊢
    rw [lines_cons, List.splitOnP_append_cons_of_forall_mem hrecord '\n' rfl, ih]
    rfl

/-! ## Places in the lines -/

/-- The byte at place `n` of the lines is in the object of an issue. -/
def WithinObject (issues : List Issue) (n : Nat) : Prop :=
  ∃ earlier i later, issues = earlier ++ i :: later ∧
    (lineBytes earlier).length ≤ n ∧ n < (lineBytes earlier ++ i.bytes).length

/-- The byte at place `n` of the lines is the newline behind the object of an issue. -/
def EndsObject (issues : List Issue) (n : Nat) : Prop :=
  ∃ earlier i later, issues = earlier ++ i :: later ∧ n = (lineBytes earlier ++ i.bytes).length

theorem lineBytes_split (earlier : List Issue) (i : Issue) (later : List Issue) :
    lineBytes (earlier ++ i :: later) = lineBytes earlier ++ i.bytes ++ 10 :: lineBytes later := by
  rw [lineBytes_append, lineBytes_cons, List.append_assoc, List.append_assoc]
  rfl

variable {issues : List Issue} {n : Nat}

theorem EndsObject.getElem? (h : EndsObject issues n) : (lineBytes issues)[n]? = some 10 := by
  obtain ⟨earlier, i, later, rfl, rfl⟩ := h
  rw [lineBytes_split, List.getElem?_append_right (Nat.le_refl _), Nat.sub_self]
  rfl

theorem WithinObject.getElem? (h : WithinObject issues n) : (lineBytes issues)[n]? ≠ some 10 := by
  obtain ⟨earlier, i, later, rfl, hstart, hend⟩ := h
  rw [lineBytes_split, List.getElem?_append_left hend, List.getElem?_append_right hstart]
  exact fun h => i.newline_not_mem_bytes (List.mem_of_getElem? h)

theorem EndsObject.not_within (h : EndsObject issues n) : ¬ WithinObject issues n :=
  fun hwithin => hwithin.getElem? h.getElem?

end Issue

namespace Sink

variable {s : Sink}

/-- The sink after it took the bytes. -/
def taking (s : Sink) (bytes : List UInt8) : Sink :=
  { s with written := s.written ++ bytes, room := s.room.map (· - bytes.length) }

@[simp] theorem flush_taking (s : Sink) (bytes : List UInt8) :
    (s.taking bytes).flush = s.flush := rfl

theorem taking_nil (s : Sink) : s.taking [] = s := by
  cases s; simp [taking]

@[simp] theorem taking_taking (s : Sink) (as bs : List UInt8) :
    (s.taking as).taking bs = s.taking (as ++ bs) := by
  have hwritten : s.written ++ as ++ bs = s.written ++ (as ++ bs) := by
    apply Array.ext'
    simp only [Array.toList_appendList, List.append_assoc]
  cases hroom : s.room <;> simp [taking, hroom, hwritten, Nat.sub_sub]

/-- There is room for `n` more bytes. -/
def Fits (s : Sink) (n : Nat) : Prop := ∀ room ∈ s.room, n ≤ room

theorem Fits.mono {m n : Nat} (h : s.Fits n) (hmn : m ≤ n) : s.Fits m :=
  fun room hroom => Nat.le_trans hmn (h room hroom)

theorem Fits.taking {n : Nat} {bytes : List UInt8} (h : s.Fits (bytes.length + n)) :
    (s.taking bytes).Fits n := by
  intro room hroom
  obtain ⟨before, hbefore, rfl⟩ := Option.map_eq_some_iff.1 hroom
  have := h before hbefore
  omega

theorem fits_of_room_eq {n room : Nat} (hroom : s.room = some room) (h : n ≤ room) : s.Fits n := by
  intro room' hroom'
  obtain rfl : room = room' := Option.some.inj (hroom.symm.trans hroom')
  exact h

theorem fits_or_room_lt (s : Sink) (n : Nat) :
    s.Fits n ∨ ∃ room, s.room = some room ∧ room < n := by
  cases hroom : s.room with
  | none => exact .inl fun room h => absurd (hroom.symm.trans h) (by simp)
  | some room =>
    rcases Nat.lt_or_ge room n with h | h
    · exact .inr ⟨room, rfl, h⟩
    · exact .inl (fits_of_room_eq hroom h)

/-- The sink takes `n` more bytes and does not fail to flush. -/
structure Accepts (s : Sink) (n : Nat) : Prop where
  room : ∀ room ∈ s.room, n ≤ room
  flush : s.flushError = none

/-! ## Texts and pieces -/

theorem write_of_fits {bytes : List UInt8} (h : s.Fits bytes.length) :
    s.write bytes = (.ok (), s.taking bytes) := by
  unfold write
  split
  case h_1 hroom => simp [taking, hroom]
  case h_2 room hroom =>
    have hfits := h room hroom
    simp [taking, hroom, hfits, List.take_of_length_le]

theorem write_of_room_lt {bytes : List UInt8} {room : Nat} (hroom : s.room = some room)
    (h : room < bytes.length) : s.write bytes = (.error isFull, s.taking (bytes.take room)) := by
  have hleft : room - bytes.length = room - (bytes.take room).length := by
    rw [List.length_take]
    omega
  simp only [write, hroom, if_neg (Nat.not_le.2 h), taking, Option.map_some, hleft]

theorem write_append {as : List UInt8} (h : s.Fits as.length) (bs : List UInt8) :
    s.write (as ++ bs) = (s.taking as).write bs := by
  rcases s.fits_or_room_lt (as ++ bs).length with hfits | ⟨room, hroom, hlt⟩
  · have hrest : (s.taking as).Fits bs.length := Fits.taking (List.length_append ▸ hfits)
    rw [write_of_fits hfits, write_of_fits hrest, taking_taking]
  · have has : as.length ≤ room := h room hroom
    have hrest : (s.taking as).room = some (room - as.length) := by simp [taking, hroom]
    rw [List.length_append] at hlt
    rw [write_of_room_lt hroom (by rwa [List.length_append]),
      write_of_room_lt hrest (by omega), taking_taking, List.take_append,
      List.take_of_length_le has]

/-- A sink does not notice how the text is cut into pieces. -/
theorem writePieces_eq (s : Sink) (pieces : List (List UInt8)) :
    s.writePieces pieces = s.write pieces.flatten := by
  induction pieces generalizing s with
  | nil =>
    rw [List.flatten_nil, write_of_fits fun _ _ => Nat.zero_le _, taking_nil]
    rfl
  | cons piece pieces ih =>
    rw [List.flatten_cons, writePieces]
    rcases s.fits_or_room_lt piece.length with hfits | ⟨room, hroom, hlt⟩
    · rw [write_of_fits hfits, write_append hfits]
      exact ih _
    · have hwhole : room < (piece ++ pieces.flatten).length := by
        rw [List.length_append]
        omega
      rw [write_of_room_lt hroom hlt, write_of_room_lt hroom hwhole,
        List.take_append_of_le_length (Nat.le_of_lt hlt)]

/-! ## One issue -/

theorem writeIssue_eq (s : Sink) (i : Issue) : s.writeIssue i =
    match s.write i.bytes with
    | (.error e, s) => (.error (.serialise e), s)
    | (.ok (), s) =>
      match s.write [10] with
      | (.error e, s) => (.error (.write e), s)
      | (.ok (), s) => (.ok (), s) := by
  have hpieces : s.writePieces (i.pieces.map Utf8.encode) = s.write i.bytes := by
    rw [writePieces_eq, ← Utf8.encode_flatten, i.flatten_pieces, Issue.bytes]
  rw [← hpieces]
  rfl

theorem writeIssue_of_fits {i : Issue} (h : s.Fits (i.bytes ++ [10]).length) :
    s.writeIssue i = (.ok (), s.taking (i.bytes ++ [10])) := by
  rw [List.length_append] at h
  have hobject : s.Fits i.bytes.length := h.mono (Nat.le_add_right ..)
  have hnewline : (s.taking i.bytes).Fits [(10 : UInt8)].length := h.taking
  simp only [writeIssue_eq, write_of_fits hobject, write_of_fits hnewline, taking_taking]

/-- The object is cut off, or it is complete and only its newline is missing. -/
theorem writeIssue_of_room_lt {i : Issue} {room : Nat} (hroom : s.room = some room)
    (h : room < (i.bytes ++ [10]).length) :
    s.writeIssue i =
      (.error (if room < i.bytes.length then .serialise isFull else .write isFull),
        s.taking ((i.bytes ++ [10]).take room)) := by
  rw [List.length_append, List.length_singleton] at h
  rw [writeIssue_eq]
  rcases Nat.lt_succ_iff_lt_or_eq.1 h with hlt | rfl
  · rw [write_of_room_lt hroom hlt, if_pos hlt, List.take_append_of_le_length (Nat.le_of_lt hlt)]
  · have hobject : s.Fits i.bytes.length := fits_of_room_eq hroom (Nat.le_refl _)
    have hfull : (s.taking i.bytes).room = some 0 := by simp [taking, hroom]
    have hnewline : (s.taking i.bytes).write [10] = (.error isFull, s.taking i.bytes) := by
      rw [write_of_room_lt hfull (List.length_pos_of_ne_nil (by simp)), List.take_zero, taking_nil]
    simp only [write_of_fits hobject, hnewline, if_neg (Nat.lt_irrefl _), List.take_left]

/-! ## All issues -/

theorem writeIssues_of_fits {issues : List Issue} (h : s.Fits (Issue.lineBytes issues).length) :
    s.writeIssues issues = (s.flush.mapError .write, s.taking (Issue.lineBytes issues)) := by
  induction issues generalizing s with
  | nil => rw [writeIssues, Issue.lineBytes_nil, taking_nil]
  | cons i issues ih =>
    rw [Issue.lineBytes_cons, List.length_append] at h
    rw [writeIssues, writeIssue_of_fits (h.mono (Nat.le_add_right ..))]
    simp only [ih h.taking, flush_taking, taking_taking, Issue.lineBytes_cons]

theorem writeIssues_of_accepts {issues : List Issue}
    (h : s.Accepts (Utf8.encode (Issue.lines issues)).length) :
    s.writeIssues issues = (.ok (), s.taking (Utf8.encode (Issue.lines issues))) := by
  have hflush : s.flush = .ok () := by rw [flush, h.flush]
  rw [← Issue.lineBytes] at h ⊢
  rw [writeIssues_of_fits h.room, hflush]
  rfl

/-- A sink without room for all lines is full in an object, or at the newline behind it. -/
theorem writeIssues_of_room_lt {issues : List Issue} {room : Nat} (hroom : s.room = some room)
    (h : room < (Issue.lineBytes issues).length) :
    ∃ earlier i later, issues = earlier ++ i :: later ∧
      (Issue.lineBytes earlier).length ≤ room ∧
      room ≤ (Issue.lineBytes earlier ++ i.bytes).length ∧
      s.writeIssues issues =
        (.error (if room < (Issue.lineBytes earlier ++ i.bytes).length then .serialise isFull
          else .write isFull),
          s.taking ((Issue.lineBytes issues).take room)) := by
  induction issues generalizing s room with
  | nil => simp at h
  | cons i issues ih =>
    rw [Issue.lineBytes_cons, List.length_append] at h
    rcases Nat.lt_or_ge room (i.bytes ++ [10]).length with hlt | hge
    · refine ⟨[], i, issues, rfl, ?_⟩
      rw [writeIssues, writeIssue_of_room_lt hroom hlt, Issue.lineBytes_cons,
        List.take_append_of_le_length (Nat.le_of_lt hlt), Issue.lineBytes_nil, List.nil_append]
      rw [List.length_append] at hlt
      exact ⟨Nat.zero_le _, Nat.le_of_lt_succ hlt, rfl⟩
    · -- the line of `i` is written, and there is less room for the others
      have hleft : (s.taking (i.bytes ++ [10])).room = some (room - (i.bytes ++ [10]).length) := by
        simp only [taking, hroom, Option.map_some]
      obtain ⟨earlier, j, later, rfl, hstart, hend, hwrite⟩ := ih hleft (by omega)
      have hcut : (Issue.lineBytes (i :: earlier) ++ j.bytes).length =
          (i.bytes ++ [10]).length + (Issue.lineBytes earlier ++ j.bytes).length := by
        rw [Issue.lineBytes_cons, List.append_assoc, List.length_append]
      refine ⟨i :: earlier, j, later, rfl, ?_, ?_, ?_⟩
      · rw [Issue.lineBytes_cons, List.length_append]
        omega
      · omega
      · have hlt : room - (i.bytes ++ [10]).length < (Issue.lineBytes earlier ++ j.bytes).length ↔
            room < (Issue.lineBytes (i :: earlier) ++ j.bytes).length := by omega
        rw [writeIssues, writeIssue_of_fits (fits_of_room_eq hroom hge)]
        simp only [hwrite, hlt, taking_taking]
        rw [Issue.lineBytes_cons i (earlier ++ j :: later), List.take_append,
          List.take_of_length_le hge]

/-- **Issues are read back from their lines.** There is one newline for each issue, and each piece
in front of one is read as the object of its issue: the displayed rule, the key of the file, the
line, and the message if there is one. -/
theorem writeIssues_read (before : Array UInt8) (issues : List Issue) :
    ∃ text : List Char,
      (Sink.mk before none none).writeIssues issues =
        (.ok (), Sink.mk (before ++ Utf8.encode text) none none) ∧
      Utf8.decode (Utf8.encode text) = text ∧
      text.count '\n' = issues.length ∧
      text.splitOn '\n' = (issues.map fun i => i.json.toList) ++ [[]] ∧
      (text.splitOn '\n').dropLast.map Json.parse? = issues.map fun i => some i.record := by
  have haccepts : (Sink.mk before none none).Accepts (Utf8.encode (Issue.lines issues)).length :=
    ⟨fun _ h => (Option.not_mem_none _ h).elim, rfl⟩
  refine ⟨Issue.lines issues, writeIssues_of_accepts haccepts, Utf8.decode_encode _,
    Issue.count_newline_lines issues, Issue.splitOn_lines issues, ?_⟩
  simp only [Issue.splitOn_lines, List.dropLast_concat, List.map_map, Function.comp_def,
    Issue.parse?_json]

/-- **A sink with limited room holds the beginning of the lines.** Writing succeeds if that is all
of them and the sink can be flushed. Else the first byte that is missing decides whether it was the
object of an issue that could not be written, or the end of its line. -/
theorem writeIssues_limited (before : Array UInt8) (limit : Nat) (flushError : Option IoError)
    (issues : List Issue) :
    let text := Issue.lineBytes issues
    let outcome := (Sink.mk before (some limit) flushError).writeIssues issues
    unlimited.writeIssues issues = (.ok (), ⟨⟨text⟩, none, none⟩) ∧
      outcome.2.written.toList = before.toList ++ text.take limit ∧
      (outcome.1 = .ok () ↔ text.length ≤ limit ∧ flushError = none) ∧
      (limit < text.length →
        (outcome.1 = .error (.write isFull) ↔ Issue.EndsObject issues limit) ∧
        (outcome.1 = .error (.serialise isFull) ↔ Issue.WithinObject issues limit) ∧
        (Issue.EndsObject issues limit ∨ Issue.WithinObject issues limit)) := by
  intro text outcome
  have hunlimited : unlimited.writeIssues issues = (.ok (), ⟨⟨text⟩, none, none⟩) := by
    have hfits : unlimited.Fits text.length := fun _ h => (Option.not_mem_none _ h).elim
    rw [writeIssues_of_fits hfits]
    simp [flush, taking, unlimited, Except.mapError, text]
  refine ⟨hunlimited, ?_⟩
  rcases Nat.lt_or_ge limit text.length with hlt | hge
  · obtain ⟨earlier, i, later, hissues, hstart, hend, hwrite⟩ :=
      writeIssues_of_room_lt (s := ⟨before, some limit, flushError⟩) rfl hlt
    have houtcome : outcome = _ := hwrite
    rcases Nat.lt_or_eq_of_le hend with hwithin | hends
    · have hplace : Issue.WithinObject issues limit := ⟨earlier, i, later, hissues, hstart, hwithin⟩
      have hnot : ¬ Issue.EndsObject issues limit := fun h => h.not_within hplace
      rw [houtcome, if_pos hwithin]
      simp [hplace, hnot, taking, text, hlt]
    · have hplace : Issue.EndsObject issues limit := ⟨earlier, i, later, hissues, hends⟩
      have hnot := hplace.not_within
      rw [houtcome, if_neg (Nat.not_lt.2 (Nat.le_of_eq hends.symm))]
      simp [hplace, hnot, taking, text, hlt]
  · have hfits : (Sink.mk before (some limit) flushError).Fits text.length :=
      fits_of_room_eq rfl hge
    have houtcome : outcome = _ := writeIssues_of_fits hfits
    rw [houtcome]
    cases flushError <;>
      simp [flush, taking, Except.mapError, text, hge, List.take_of_length_le]

end Sink

end PlaybookScan

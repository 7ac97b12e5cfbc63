import PlaybookScan.FileUri
import PlaybookScan.Proofs.Path.Normal
import PlaybookScan.Proofs.Text.Utf8

/-!
# From a path to its URI and back

* `percentDecode_percentEncode`: a name is read back from its encoding, whatever characters it has.
* `FileUri.IsNormal u`: `u` is the URI of a path through names, as `ofPath` makes them
  (`isNormal_of_ofPath`).
* `ofPath_toPath`: the path of a normal URI has that URI, for any working directory. The slash that
  `closeDrive` may put behind the path is no component (`ofPath_append_slash`); but for it, the path
  is the one that the URI was made of (`toPath_of_endsInDrive`, `toPath_of_not_endsInDrive`).
* `resolve_toPath`: the same for `resolve`, for any base directory, the path being absolute.
-/

set_option autoImplicit false

namespace PlaybookScan.FileUri

open PlaybookScan.Path

/-! ## Percent encoding -/

theorem hexValue?_hexDigit : ∀ n < 16, hexValue? (hexDigit n) = some n := by
  decide

theorem hexDigit_ne_slash : ∀ n < 16, hexDigit n ≠ '/' := by
  decide

theorem percentBytes_escapeByte_append (b : UInt8) (cs : List Char) :
    percentBytes (escapeByte b ++ cs) = b :: percentBytes cs := by
  have hb : b.toNat < 256 := b.toNat_lt
  simp only [escapeByte, List.cons_append, List.nil_append, percentBytes]
  rw [hexValue?_hexDigit _ (by omega), hexValue?_hexDigit _ (Nat.mod_lt _ (by decide))]
  simp only [Nat.div_add_mod, UInt8.ofNat_toNat]

theorem percentBytes_flatMap_escapeByte_append (bs : List UInt8) (cs : List Char) :
    percentBytes (bs.flatMap escapeByte ++ cs) = bs ++ percentBytes cs := by
  induction bs with
  | nil => rfl
  | cons b bs ih =>
    rw [List.flatMap_cons, List.append_assoc, percentBytes_escapeByte_append, ih, List.cons_append]

theorem percentBytes_cons_of_ne {c : Char} (h : c ≠ '%') (cs : List Char) :
    percentBytes (c :: cs) = String.utf8EncodeChar c ++ percentBytes cs := by
  rw [percentBytes]
  rintro a b rest rfl
  exact absurd rfl h

theorem percentBytes_encodeChar_append (c : Char) (cs : List Char) :
    percentBytes (encodeChar c ++ cs) = String.utf8EncodeChar c ++ percentBytes cs := by
  rw [encodeChar]
  split
  · rename_i h
    exact percentBytes_cons_of_ne (fun he => absurd h (by rw [he]; decide)) cs
  · exact percentBytes_flatMap_escapeByte_append _ cs

theorem percentBytes_percentEncode (cs : List Char) :
    percentBytes (percentEncode cs) = Text.Utf8.encode cs := by
  induction cs with
  | nil => rfl
  | cons c cs ih =>
    rw [percentEncode, List.flatMap_cons, percentBytes_encodeChar_append, ← percentEncode, ih]
    rfl

/-- **A text is read back from its percent encoding.** -/
theorem percentDecode_percentEncode (cs : List Char) : percentDecode (percentEncode cs) = cs := by
  rw [percentDecode, percentBytes_percentEncode, Text.Utf8.decode_encode]

theorem slash_not_mem_escapeByte (b : UInt8) : '/' ∉ escapeByte b := by
  have hb : b.toNat < 256 := b.toNat_lt
  have hh := hexDigit_ne_slash (b.toNat / 16) (by omega)
  have hl := hexDigit_ne_slash (b.toNat % 16) (Nat.mod_lt _ (by decide))
  simp [escapeByte, hh.symm, hl.symm]

theorem slash_not_mem_percentEncode {cs : List Char} (h : '/' ∉ cs) : '/' ∉ percentEncode cs := by
  intro hm
  obtain ⟨c, hc, hm⟩ := List.mem_flatMap.1 hm
  rw [encodeChar] at hm
  split at hm
  · exact h (List.mem_singleton.1 hm ▸ hc)
  · obtain ⟨b, -, hb⟩ := List.mem_flatMap.1 hm
    exact slash_not_mem_escapeByte b hb

/-! ## The segments of a URI -/

theorem flatMap_slash {α : Type} (f : α → List Char) {as : List α} (h : as ≠ []) :
    (as.flatMap fun a => '/' :: f a) = '/' :: ['/'].intercalate (as.map f) := by
  induction as with
  | nil => exact absurd rfl h
  | cons a as ih =>
    cases as with
    | nil => simp
    | cons b bs =>
      rw [List.flatMap_cons, ih (List.cons_ne_nil _ _)]
      simp

theorem encodeNames_eq (ns : List String) :
    encodeNames ns = '/' :: ['/'].intercalate (ns.map fun n => percentEncode n.toList) := by
  cases ns with
  | nil => rfl
  | cons n ns =>
    exact flatMap_slash (fun n : String => percentEncode n.toList) (List.cons_ne_nil n ns)

theorem flatMap_segments {ns : List String} (h : ∀ n ∈ ns, IsName n) :
    (((encodeNames ns).splitOn '/').drop 1).flatMap (fun s => '/' :: percentDecode s) =
      '/' :: ['/'].intercalate (ns.map String.toList) := by
  rw [encodeNames_eq, List.splitOn_cons_eq_if_modifyHead]
  simp only [beq_self_eq_true, if_true, List.drop_succ_cons, List.drop_zero]
  cases ns with
  | nil => simp [percentDecode, percentBytes, Text.Utf8.decode_nil]
  | cons n ns =>
    rw [List.splitOn_intercalate '/' ?_ (by simp), flatMap_slash _ (by simp), List.map_map]
    · simp only [Function.comp_def, percentDecode_percentEncode]
    · intro piece hm
      obtain ⟨m, hn, rfl⟩ := List.mem_map.1 hm
      exact slash_not_mem_percentEncode (h m hn).no_slash

theorem closeDrive_eq (cs : List Char) :
    closeDrive cs = cs ∨ (closeDrive cs = cs ++ ['/'] ∧ 2 < cs.length) := by
  unfold closeDrive
  split
  · rename_i c l d rest hr
    have hl : 2 < cs.length := by
      rw [← List.length_reverse, hr]
      simp
    split
    · exact .inr ⟨rfl, hl⟩
    · exact .inl rfl
  · exact .inl rfl

/-- The text ends in an ASCII letter and a colon or bar behind it. -/
def EndsInDrive (cs : List Char) : Prop :=
  ∃ start l c, cs = start ++ [l, c] ∧ l.isAlpha = true ∧ (c = ':' ∨ c = '|')

theorem closeDrive_of_endsInDrive {cs : List Char} (hroot : cs.head? = some '/')
    (h : EndsInDrive cs) : closeDrive cs = cs ++ ['/'] := by
  obtain ⟨start, l, c, rfl, hl, hc⟩ := h
  cases start with
  | nil =>
    obtain rfl : l = '/' := Option.some.inj hroot
    exact absurd hl (by decide)
  | cons d start =>
    obtain ⟨x, xs, hx⟩ : ∃ x xs, (d :: start).reverse = x :: xs :=
      List.exists_cons_of_ne_nil (by simp)
    have hr : (d :: start ++ [l, c]).reverse = c :: l :: x :: xs := by
      rw [List.reverse_append, hx]
      rfl
    have hdrive : (c == ':' || c == '|') && l.isAlpha := by simpa [hl] using hc
    simp only [closeDrive, hr, if_pos hdrive]

theorem closeDrive_of_not_endsInDrive {cs : List Char} (h : ¬ EndsInDrive cs) :
    closeDrive cs = cs := by
  unfold closeDrive
  split
  · rename_i c l d rest hr
    rw [if_neg]
    intro hdrive
    obtain ⟨hc, hl⟩ := Bool.and_eq_true_iff.1 hdrive
    refine h ⟨rest.reverse ++ [d], l, c, ?_, hl, by simpa using hc⟩
    rw [← cs.reverse_reverse, hr]
    simp
  · rfl

/-! ## Normal URIs -/

/-- `u` is the URI of a path through names. -/
def IsNormal (u : FileUri) : Prop :=
  ∃ ns, (∀ n ∈ ns, IsName n) ∧ u = ofNormal (ofNames ns)

theorem text_toPath {ns : List String} (h : ∀ n ∈ ns, IsName n) :
    (ofNormal (ofNames ns)).toPath.text.toList =
      closeDrive ('/' :: ['/'].intercalate (ns.map String.toList)) := by
  rw [← flatMap_segments h]
  simp [toPath, ofNormal, names_of_components (components_ofNames h)]

/-- The path of a URI is the path it was made of, with one more slash if that ends like a drive. -/
theorem toPath_of_endsInDrive {ns : List String} (h : ∀ n ∈ ns, IsName n)
    (hdrive : EndsInDrive (ofNames ns).text.toList) :
    (ofNormal (ofNames ns)).toPath = ⟨(ofNames ns).text ++ "/"⟩ := by
  have hroot : (ofNames ns).text.toList.head? = some '/' := by rw [text_ofNames, List.head?_cons]
  have htext : (ofNormal (ofNames ns)).toPath.text = (ofNames ns).text ++ "/" := by
    apply String.toList_injective
    rw [text_toPath h, ← text_ofNames, closeDrive_of_endsInDrive hroot hdrive,
      String.toList_append]
    rfl
  exact congrArg Path.mk htext

theorem toPath_of_not_endsInDrive {ns : List String} (h : ∀ n ∈ ns, IsName n)
    (hdrive : ¬ EndsInDrive (ofNames ns).text.toList) :
    (ofNormal (ofNames ns)).toPath = ofNames ns := by
  have htext : (ofNormal (ofNames ns)).toPath.text = (ofNames ns).text := by
    apply String.toList_injective
    rw [text_toPath h, ← text_ofNames, closeDrive_of_not_endsInDrive hdrive]
  exact congrArg Path.mk htext

theorem exists_text_toPath {ns : List String} (h : ∀ n ∈ ns, IsName n) :
    ∃ last, (last = [] ∨ last = [[]]) ∧ (ofNormal (ofNames ns)).toPath.text.toList =
      '/' :: ['/'].intercalate (ns.map String.toList ++ last) := by
  rw [text_toPath h]
  rcases closeDrive_eq ('/' :: ['/'].intercalate (ns.map String.toList)) with hc | ⟨hc, hl⟩
  · exact ⟨[], .inl rfl, by rw [hc, List.append_nil]⟩
  · have hne : ns.map String.toList ≠ [] := by
      intro hn
      simp [hn] at hl
    refine ⟨[[]], .inr rfl, ?_⟩
    have hs := flatMap_slash id hne
    have hs' := flatMap_slash id (List.append_ne_nil_of_left_ne_nil hne [[]])
    rw [List.map_id] at hs hs'
    rw [hc, ← hs, ← hs', List.flatMap_append]
    rfl

theorem components_toPath {ns : List String} (h : ∀ n ∈ ns, IsName n) :
    (ofNormal (ofNames ns)).toPath.components = .root :: ns.map .name := by
  obtain ⟨last, hl, ht⟩ := exists_text_toPath h
  exact components_of_pieces h hl ht

namespace IsNormal

variable {u : FileUri} (h : u.IsNormal)
include h

theorem isAbsolute_toPath : u.toPath.isAbsolute = true := by
  obtain ⟨ns, hns, rfl⟩ := h
  obtain ⟨last, -, ht⟩ := exists_text_toPath hns
  exact isAbsolute_of_cons ht

/-- **The path of a normal URI has that URI**, wherever one works. -/
theorem ofPath_toPath (cwd : WorkingDir) : ofPath cwd u.toPath = .ok u := by
  have ha := h.isAbsolute_toPath
  obtain ⟨ns, hns, rfl⟩ := h
  rw [ofPath, isEmpty_of_isAbsolute ha, WorkingDir.absolute, join_of_isAbsolute _ ha,
    normalize_of_components (components_toPath hns)]
  rfl

/-- **The path of a normal URI names the file of that URI, seen from any directory.** -/
theorem resolve_toPath (cwd : WorkingDir) (base : Path) :
    resolve cwd base u.toPath.text = .ok u := by
  rw [resolve, join_of_isAbsolute base h.isAbsolute_toPath]
  exact h.ofPath_toPath cwd

end IsNormal

theorem isNormal_of_ofPath {cwd : WorkingDir} {p : Path} {u : FileUri} (h : ofPath cwd p = .ok u) :
    u.IsNormal := by
  rw [ofPath] at h
  split at h
  · cases h
  · obtain ⟨ns, hns, hn⟩ := exists_normalize_eq_ofNames (cwd.isAbsolute_absolute p)
    exact ⟨ns, hns, by rw [← hn]; exact (Except.ok.inj h).symm⟩

theorem ofPath_of_not_isEmpty (cwd : WorkingDir) {p : Path} (h : p.isEmpty = false) :
    ofPath cwd p = .ok (ofNormal (cwd.absolute p).normalize) := by
  rw [ofPath, if_neg (by simp [h])]

/-- Only the empty path has no URI. -/
theorem exists_ofPath_eq_error_iff (cwd : WorkingDir) (p : Path) :
    (∃ e, ofPath cwd p = .error e) ↔ p.isEmpty = true := by
  rw [ofPath]
  cases p.isEmpty <;> simp

theorem ofPath_ofNames (cwd : WorkingDir) {ns : List String} (h : ∀ n ∈ ns, IsName n) :
    ofPath cwd (ofNames ns) = .ok (ofNormal (ofNames ns)) := by
  have habsolute := isAbsolute_of_cons (text_ofNames ns)
  rw [ofPath_of_not_isEmpty cwd (isEmpty_of_isAbsolute habsolute), WorkingDir.absolute,
    join_of_isAbsolute _ habsolute, normalize_of_components (components_ofNames h)]

theorem ofPath_append_slash (cwd : WorkingDir) {p : Path} (h : p.isEmpty = false) :
    ofPath cwd ⟨p.text ++ "/"⟩ = ofPath cwd p := by
  have hslash : (⟨p.text ++ "/"⟩ : Path).isEmpty = false := by simp [isEmpty]
  rw [ofPath_of_not_isEmpty cwd hslash, ofPath_of_not_isEmpty cwd h, WorkingDir.absolute,
    WorkingDir.absolute, normalize_join_congr rfl (normalize_append_slash h)]

theorem exists_resolve_eq_ok (cwd : WorkingDir) (base : Path) {filename : String}
    (h : filename ≠ "") : ∃ u, resolve cwd base filename = .ok u := by
  have hname : (⟨filename⟩ : Path).isEmpty = false := by simpa [isEmpty] using h
  exact ⟨_, ofPath_of_not_isEmpty cwd (by rw [isEmpty_join, hname, Bool.and_false])⟩

end PlaybookScan.FileUri

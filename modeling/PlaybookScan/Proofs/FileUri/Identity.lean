import PlaybookScan.Proofs.FileUri

/-!
# URIs as identities

`ofPath_identifies` says what the URI of a path looks like, and that two paths have the same one
just if they have the same normal form. The bytes of that form are what is left when the percent
escapes are read (`percentBytes_encodeNames`), so that nothing of it is lost; `IsUriChar` and
`Escaped` say which characters the URI has, from one character of a name (`escaped_encodeChar`) to
the whole.
-/

set_option autoImplicit false

namespace PlaybookScan.FileUri

open PlaybookScan.Path PlaybookScan.Text

/-- Printable ASCII, but for space and what cannot stand in a URI. -/
def IsUriChar (c : Char) : Prop :=
  0x20 < c.toNat ∧ c.toNat < 0x7F ∧ c ∉ ['"', '#', '<', '>', '?', '\x60', '\x7b', '\x7d', '\\']

/-- A decimal digit or one of `A` to `F`. -/
def IsUpperHex (c : Char) : Prop := c ∈ "0123456789ABCDEF".toList

/-- Every percent sign is followed by two upper-case hexadecimal digits. -/
inductive Escaped : List Char → Prop where
  | nil : Escaped []
  | plain {c : Char} {cs : List Char} (hc : c ≠ '%') (h : Escaped cs) : Escaped (c :: cs)
  | escape {a b : Char} {cs : List Char} (ha : IsUpperHex a) (hb : IsUpperHex b)
    (h : Escaped cs) : Escaped ('%' :: a :: b :: cs)

instance (c : Char) : Decidable (IsUriChar c) := inferInstanceAs (Decidable (_ ∧ _))

instance (c : Char) : Decidable (IsUpperHex c) := inferInstanceAs (Decidable (_ ∈ _))

/-! ## Characters of a URI -/

theorem hexDigit_isUpperHex : ∀ n < 16, IsUpperHex (hexDigit n) := by
  decide

theorem hexDigit_isUriChar : ∀ n < 16, IsUriChar (hexDigit n) := by
  decide

namespace Escaped

variable {cs ds : List Char}

theorem append (hc : Escaped cs) (hd : Escaped ds) : Escaped (cs ++ ds) := by
  induction hc with
  | nil => exact hd
  | plain hc _ ih => exact .plain hc ih
  | escape ha hb _ ih => exact .escape ha hb ih

theorem of_not_mem (h : '%' ∉ cs) : Escaped cs := by
  induction cs with
  | nil => exact .nil
  | cons c cs ih =>
    rw [List.mem_cons, not_or] at h
    exact .plain (Ne.symm h.1) (ih h.2)

theorem flatMap {α : Type} {f : α → List Char} {as : List α} (h : ∀ a ∈ as, Escaped (f a)) :
    Escaped (as.flatMap f) := by
  induction as with
  | nil => exact .nil
  | cons a as ih =>
    rw [List.flatMap_cons]
    exact (h a List.mem_cons_self).append (ih fun b hb => h b (List.mem_cons_of_mem _ hb))

end Escaped

theorem escaped_escapeByte (b : UInt8) : Escaped (escapeByte b) := by
  have hb : b.toNat < 256 := b.toNat_lt
  exact .escape (hexDigit_isUpperHex _ (by omega)) (hexDigit_isUpperHex _ (by omega)) .nil

theorem isUriChar_of_mem_escapeByte {b : UInt8} {c : Char} (h : c ∈ escapeByte b) :
    IsUriChar c := by
  have hb : b.toNat < 256 := b.toNat_lt
  simp only [escapeByte, List.mem_cons, List.not_mem_nil, or_false] at h
  rcases h with rfl | rfl | rfl
  · decide
  · exact hexDigit_isUriChar _ (by omega)
  · exact hexDigit_isUriChar _ (by omega)

theorem escaped_encodeChar (c : Char) : Escaped (encodeChar c) := by
  rw [encodeChar]
  split
  case isTrue h =>
    exact .plain (fun he => absurd h (by rw [he]; decide)) .nil
  case isFalse => exact .flatMap fun b _ => escaped_escapeByte b

theorem isUriChar_of_mem_encodeChar {c d : Char} (h : d ∈ encodeChar c) : IsUriChar d := by
  rw [encodeChar] at h
  split at h
  case isTrue hc =>
    rw [List.mem_singleton.1 h]
    simp only [isPlain, Bool.and_eq_true, decide_eq_true_eq, Bool.not_eq_true'] at hc
    refine ⟨by omega, by omega, ?_⟩
    simp_all
  case isFalse =>
    obtain ⟨b, -, hb⟩ := List.mem_flatMap.1 h
    exact isUriChar_of_mem_escapeByte hb

/-! ## The text behind the scheme -/

section
variable (ns : List String)

theorem escaped_encodeNames : Escaped (encodeNames ns) := by
  have hnames : Escaped (ns.flatMap fun n => '/' :: percentEncode n.toList) :=
    .flatMap fun n _ => .plain (by decide) (.flatMap fun c _ => escaped_encodeChar c)
  unfold encodeNames
  split
  · exact .plain (by decide) .nil
  · exact hnames

theorem isUriChar_of_mem_encodeNames {c : Char} (h : c ∈ encodeNames ns) : IsUriChar c := by
  unfold encodeNames at h
  split at h
  · rw [List.mem_singleton.1 h]
    decide
  · obtain ⟨n, -, hn⟩ := List.mem_flatMap.1 h
    rcases List.mem_cons.1 hn with rfl | hn
    · decide
    · obtain ⟨d, -, hd⟩ := List.mem_flatMap.1 hn
      exact isUriChar_of_mem_encodeChar hd

theorem percentBytes_percentEncode_append (cs ds : List Char) :
    percentBytes (percentEncode cs ++ ds) = Utf8.encode cs ++ percentBytes ds := by
  induction cs with
  | nil => rfl
  | cons c cs ih =>
    rw [percentEncode, List.flatMap_cons, List.append_assoc, percentBytes_encodeChar_append,
      ← percentEncode, ih, ← List.append_assoc]
    rfl

/-- **The bytes of the path are read back** from the text behind the scheme. -/
theorem percentBytes_encodeNames :
    percentBytes (encodeNames ns) = Utf8.encode (ofNames ns).text.toList := by
  have hnames (ns : List String) :
      percentBytes (ns.flatMap fun n => '/' :: percentEncode n.toList) =
        Utf8.encode (ns.flatMap fun n => '/' :: n.toList) := by
    induction ns with
    | nil => rfl
    | cons n ns ih =>
      rw [List.flatMap_cons, List.cons_append, percentBytes_cons_of_ne (by decide),
        percentBytes_percentEncode_append, ih, List.flatMap_cons, Utf8.encode_append]
      rfl
  rw [text_ofNames]
  cases ns with
  | nil => rfl
  | cons n ns =>
    rw [encodeNames, hnames, flatMap_slash String.toList (List.cons_ne_nil n ns)]
    exact List.cons_ne_nil n ns

end

/-! ## URIs of paths -/

theorem toList_ofNormal {ns : List String} (h : ∀ n ∈ ns, IsName n) :
    (ofNormal (ofNames ns)).text.toList = "file://".toList ++ encodeNames ns := by
  simp [ofNormal, names_of_components (components_ofNames h)]

/-- **A normal path is known from its URI.** -/
theorem ofNames_eq_of_ofNormal_eq {ns ms : List String} (hns : ∀ n ∈ ns, IsName n)
    (hms : ∀ m ∈ ms, IsName m) (h : ofNormal (ofNames ns) = ofNormal (ofNames ms)) :
    ofNames ns = ofNames ms := by
  have hencoded : encodeNames ns = encodeNames ms := by
    have htext := congrArg (·.text.toList) h
    simp only [toList_ofNormal hns, toList_ofNormal hms] at htext
    exact List.append_cancel_left htext
  have htext : (ofNames ns).text.toList = (ofNames ms).text.toList := by
    rw [← Utf8.decode_encode (ofNames ns).text.toList, ← percentBytes_encodeNames, hencoded,
      percentBytes_encodeNames, Utf8.decode_encode]
  exact congrArg Path.mk (String.toList_injective htext)

theorem ofNormal_normalize_inj {p q : Path} (hp : p.isAbsolute = true) (hq : q.isAbsolute = true) :
    ofNormal p.normalize = ofNormal q.normalize ↔ p.normalize = q.normalize := by
  obtain ⟨ns, hns, hpn⟩ := exists_normalize_eq_ofNames hp
  obtain ⟨ms, hms, hqn⟩ := exists_normalize_eq_ofNames hq
  rw [hpn, hqn]
  exact ⟨ofNames_eq_of_ofNormal_eq hns hms, congrArg ofNormal⟩

/-- **The URI of a path** is `file://` and the encoded names of the normal path, in printable ASCII
and with well-formed escapes. Its bytes are read back, so that two paths have the same URI just if
they have the same normal form. Only the empty path has none. -/
theorem ofPath_identifies (cwd : WorkingDir) {p q : Path} (hp : p.isEmpty = false)
    (hq : q.isEmpty = false) :
    ∃ u v ns, ofPath cwd p = .ok u ∧ ofPath cwd q = .ok v ∧
      (u = v ↔ (cwd.absolute p).normalize = (cwd.absolute q).normalize) ∧
      (cwd.absolute p).normalize.components = .root :: ns.map .name ∧
      u.text.toList = "file://".toList ++
        (if ns = [] then ['/'] else ns.flatMap fun n => '/' :: percentEncode n.toList) ∧
      (∀ c ∈ u.text.toList, IsUriChar c) ∧ Escaped u.text.toList ∧
      percentBytes (u.text.toList.drop 7) =
        Utf8.encode (cwd.absolute p).normalize.text.toList := by
  have hsame := ofNormal_normalize_inj (cwd.isAbsolute_absolute p) (cwd.isAbsolute_absolute q)
  obtain ⟨ns, hns, hpn⟩ := exists_normalize_eq_ofNames (cwd.isAbsolute_absolute p)
  have hnames : encodeNames ns =
      if ns = [] then ['/'] else ns.flatMap fun n => '/' :: percentEncode n.toList := by
    cases ns <;> rfl
  have hscheme : Escaped "file://".toList := .of_not_mem (by decide)
  have htext := toList_ofNormal hns
  refine ⟨_, _, ns, ofPath_of_not_isEmpty cwd hp, ofPath_of_not_isEmpty cwd hq, hsame, ?_⟩
  rw [hpn]
  refine ⟨components_ofNames hns, hnames ▸ htext, ?chars, ?escaped, ?bytes⟩
  case chars =>
    intro c hc
    rw [htext] at hc
    rcases List.mem_append.1 hc with hc | hc
    · have hscheme : "file://".toList.all (IsUriChar ·) = true := by decide
      exact of_decide_eq_true (List.all_eq_true.1 hscheme c hc)
    · exact isUriChar_of_mem_encodeNames ns hc
  case escaped => exact htext ▸ hscheme.append (escaped_encodeNames ns)
  case bytes => rw [htext, ← percentBytes_encodeNames]; rfl

/-- A name that looks encoded, and characters of one to three bytes. -/
theorem ofPath_identifies_percent :
    let cwd : WorkingDir := ⟨⟨"/w/"⟩, rfl⟩
    let p : Path := ⟨"/w/./x/../%41 \"é€"⟩
    let q : Path := ⟨"%41 \"é€"⟩
    (p.isEmpty = false ∧ q.isEmpty = false) ∧
      ofPath cwd p = .ok ⟨"file:///w/%2541%20%22%C3%A9%E2%82%AC"⟩ ∧
      ofPath cwd p = ofPath cwd q := by
  intro cwd p q
  have hp : p.isEmpty = false := by decide
  have hq : q.isEmpty = false := by decide
  obtain ⟨u, v, ns, hu, hv, hsame, -⟩ := ofPath_identifies cwd hp hq
  refine ⟨⟨hp, hq⟩, by decide +kernel, ?_⟩
  rw [hu, hv, hsame.2 (by decide +kernel)]

end PlaybookScan.FileUri

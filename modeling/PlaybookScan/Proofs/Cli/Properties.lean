import Mathlib.Data.List.DropRight
import PlaybookScan.Proofs.Cli.RuleList
import PlaybookScan.Proofs.List.Grouping

/-!
# Properties

A scan is given texts that set a key each (`Options.Gives`), and three of the keys tell it how to
run the linter (`LintSettings.Configured`).

* `Options.parseProperty_eq_ok_iff`: a text is read as the property that it gives.
* `Options.parse_properties`: a command line is read text by text, up to the first that gives none.
* `Settings.get?_ofList`: of several values of a key the last one counts, blank or not.
* `Options.Rearranged.settingsBy_eq`: the order of different keys and other keys do not count.
-/

set_option autoImplicit false

namespace PlaybookScan

/-! ## Cutting and trimming -/

namespace Text

theorem cut?_append {c : Char} {before : List Char} (h : c ∉ before) (after : List Char) :
    cut? [c] (before ++ c :: after) = some (before, after) := by
  induction before with
  | nil => simp [cut?, List.isPrefixOf?]
  | cons b before ih =>
    rw [List.mem_cons, not_or] at h
    simp [cut?, List.isPrefixOf?, h.1, ih h.2]

theorem cut?_of_not_mem {c : Char} {cs : List Char} (h : c ∉ cs) : cut? [c] cs = none := by
  induction cs with
  | nil => rfl
  | cons d cs ih =>
    rw [List.mem_cons, not_or] at h
    simp [cut?, List.isPrefixOf?, h.1, ih h.2]

theorem trimChars_eq (cs : List Char) :
    trimChars cs = (cs.dropWhile isBlank).rdropWhile isBlank := rfl

/-- There is no blank at either end. -/
structure Trimmed (cs : List Char) : Prop where
  head : ∀ c ∈ cs.head?, isBlank c = false
  last : ∀ c ∈ cs.getLast?, isBlank c = false

theorem trimmed_trimChars (cs : List Char) : Trimmed (trimChars cs) where
  head c hc := by
    obtain ⟨after, hafter⟩ := List.rdropWhile_prefix isBlank (cs.dropWhile isBlank)
    have h := List.head?_dropWhile_not isBlank cs
    rwa [← hafter, ← trimChars_eq, List.mem_head?_append_of_mem_head? hc] at h
  last c hc := by
    obtain ⟨hne, rfl⟩ := List.mem_getLast?_eq_getLast hc
    exact Bool.eq_false_iff.2 (List.rdropWhile_last_not isBlank _ hne)

theorem trim_of_trimmed {s : String} (h : Trimmed s.toList) : trim s = s := by
  have hhead : s.toList.dropWhile isBlank = s.toList := by
    refine List.dropWhile_eq_self_iff.2 fun hl => Bool.eq_false_iff.1 (h.head _ ?_)
    rw [List.head?_eq_getElem?, List.getElem?_eq_getElem hl]
    rfl
  have hlast : s.toList.rdropWhile isBlank = s.toList :=
    List.rdropWhile_eq_self_iff.2 fun hne =>
      Bool.eq_false_iff.1 (h.last _ (List.getLast?_eq_some_getLast hne))
  rw [trim, trimChars_eq, hhead, hlast, String.ofList_toList]

theorem exists_eq_append_trimChars (cs : List Char) :
    ∃ before after, (∀ c ∈ before, isBlank c = true) ∧ (∀ c ∈ after, isBlank c = true) ∧
      cs = before ++ (trimChars cs ++ after) := by
  refine ⟨cs.takeWhile isBlank, (cs.dropWhile isBlank).rtakeWhile isBlank,
    fun c hc => List.mem_takeWhile_imp hc, fun c hc => List.mem_rtakeWhile_imp hc, ?_⟩
  rw [trimChars_eq, List.rdropWhile_append_rtakeWhile, List.takeWhile_append_dropWhile]

theorem trimChars_eq_nil_iff {cs : List Char} :
    trimChars cs = [] ↔ ∀ c ∈ cs, isBlank c = true := by
  refine ⟨fun h => ?_, trimChars_of_blanks⟩
  obtain ⟨before, after, hbefore, hafter, hcs⟩ := exists_eq_append_trimChars cs
  rw [hcs, h]
  simpa [or_imp, forall_and] using ⟨hbefore, hafter⟩

theorem isBlankText_iff {s : String} : isBlankText s = true ↔ trim s = "" := by
  unfold isBlankText trim
  rw [List.all_eq_true, ← trimChars_eq_nil_iff, String.ofList_eq_empty_iff]

theorem exists_eq_append_trim (s : String) :
    ∃ before after, isBlankText before = true ∧ isBlankText after = true ∧
      s = before ++ trim s ++ after := by
  obtain ⟨before, after, hbefore, hafter, h⟩ := exists_eq_append_trimChars s.toList
  refine ⟨String.ofList before, String.ofList after, ?_, ?_, ?_⟩
  · simpa [isBlankText] using hbefore
  · simpa [isBlankText] using hafter
  · exact String.toList_injective (by simpa [trim] using h)

end Text

/-! ## One text -/

namespace Options

/-- A key that a text can set. -/
structure IsKey (key : String) : Prop where
  ne_empty : key ≠ ""
  trimmed : Text.Trimmed key.toList
  noEquals : '=' ∉ key.toList

/-- The text gives a key its value: it is the key, perhaps with blanks around it, an equals sign,
and the value as it stands. -/
inductive Gives : String → String × String → Prop where
  | padded {before key after : String} (hkey : IsKey key) (hbefore : Text.isBlankText before = true)
      (hafter : Text.isBlankText after = true) (value : String) :
      Gives (before ++ key ++ after ++ "=" ++ value) (key, value)

theorem IsKey.not_blank {key : String} (h : IsKey key) : Text.isBlankText key = false := by
  rw [Bool.eq_false_iff, Ne, Text.isBlankText_iff, Text.trim_of_trimmed h.trimmed]
  exact h.ne_empty

theorem isKey_trim {front : String} (h : '=' ∉ front.toList)
    (hblank : Text.isBlankText front = false) : IsKey (Text.trim front) where
  ne_empty hempty := by
    rw [Text.isBlankText_iff.2 hempty] at hblank
    cases hblank
  trimmed := by
    rw [Text.toList_trim]
    exact Text.trimmed_trimChars _
  noEquals hmem := by
    obtain ⟨before, after, -, -, heq⟩ := Text.exists_eq_append_trim front
    rw [heq, String.toList_append, String.toList_append] at h
    exact h (List.mem_append_left _ (List.mem_append_right _ hmem))

theorem gives_append {front : String} (h : '=' ∉ front.toList)
    (hblank : Text.isBlankText front = false) (value : String) :
    Gives (front ++ "=" ++ value) (Text.trim front, value) := by
  obtain ⟨before, after, hbefore, hafter, heq⟩ := Text.exists_eq_append_trim front
  have hgives := Gives.padded (isKey_trim h hblank) hbefore hafter value
  rwa [← heq] at hgives

theorem parseProperty_append {front : String} (h : '=' ∉ front.toList) (value : String) :
    parseProperty (front ++ "=" ++ value) =
      if Text.isBlankText front = true then .error (.invalidProperty (front ++ "=" ++ value))
      else .ok (Text.trim front, value) := by
  have htext : (front ++ "=" ++ value).toList = front.toList ++ '=' :: value.toList := by simp
  rw [parseProperty, htext, Text.cut?_append h]
  simp only [Text.isBlankText, List.all_eq_true, ← Text.trimChars_eq_nil_iff, Text.trim,
    String.ofList_toList]

theorem parseProperty_cases (text : String) :
    parseProperty text = .error (.invalidProperty text) ∨
      ∃ front value, text = front ++ "=" ++ value ∧ '=' ∉ front.toList ∧
        Text.isBlankText front = false ∧ parseProperty text = .ok (Text.trim front, value) := by
  by_cases h : '=' ∈ text.toList
  · obtain ⟨cs, ds, htext, hcs⟩ := List.eq_append_cons_of_mem h
    obtain ⟨front, rfl⟩ : ∃ front, String.toList front = cs := ⟨_, String.toList_ofList⟩
    obtain ⟨value, rfl⟩ : ∃ value, String.toList value = ds := ⟨_, String.toList_ofList⟩
    obtain rfl : text = front ++ "=" ++ value := String.toList_injective (by simpa using htext)
    have hread := parseProperty_append hcs value
    cases hblank : Text.isBlankText front with
    | true => exact .inl (hread.trans (if_pos hblank))
    | false =>
      rw [if_neg (Bool.eq_false_iff.1 hblank)] at hread
      exact .inr ⟨front, value, rfl, hcs, hblank, hread⟩
  · left
    rw [parseProperty, Text.cut?_of_not_mem h]

theorem exists_parseProperty_eq_ok_iff {text : String} :
    (∃ p, parseProperty text = .ok p) ↔ ∃ front value, text = front ++ "=" ++ value ∧
      '=' ∉ front.toList ∧ Text.isBlankText front = false := by
  constructor
  · rintro ⟨p, hp⟩
    rcases parseProperty_cases text with h | ⟨front, value, htext, hfront, hblank, -⟩
    · cases hp.symm.trans h
    · exact ⟨front, value, htext, hfront, hblank⟩
  · rintro ⟨front, value, rfl, hfront, hblank⟩
    exact ⟨_, (parseProperty_append hfront value).trans (if_neg (Bool.eq_false_iff.1 hblank))⟩

theorem eq_of_parseProperty_eq_error {text : String} {e : ScanError}
    (he : parseProperty text = .error e) : e = .invalidProperty text := by
  rcases parseProperty_cases text with h | ⟨front, value, -, -, -, h⟩
  · exact Except.error.inj (he.symm.trans h)
  · cases he.symm.trans h

theorem equals_not_mem_of_blank {s : String} (h : Text.isBlankText s = true) : '=' ∉ s.toList :=
  fun hmem => absurd (List.all_eq_true.1 h _ hmem) (by decide)

/-- **A text is read as the property that it gives.** -/
theorem parseProperty_eq_ok_iff {text : String} {p : String × String} :
    parseProperty text = .ok p ↔ Gives text p := by
  constructor
  · intro hp
    rcases parseProperty_cases text with h | ⟨front, value, rfl, hfront, hblank, h⟩
    · cases hp.symm.trans h
    · rw [← Except.ok.inj (h.symm.trans hp)]
      exact gives_append hfront hblank value
  · intro h
    cases h with
    | @padded before key after hkey hbefore hafter value =>
      have hfront : '=' ∉ (before ++ key ++ after).toList := by
        simp [equals_not_mem_of_blank hbefore, hkey.noEquals, equals_not_mem_of_blank hafter]
      have hblank : ¬ Text.isBlankText (before ++ key ++ after) = true := by
        rw [Text.isBlankText_iff, Text.trim_pad hbefore hafter, ← Text.isBlankText_iff,
          hkey.not_blank]
        decide
      rw [parseProperty_append hfront, if_neg hblank, Text.trim_pad hbefore hafter,
        Text.trim_of_trimmed hkey.trimmed]

theorem IsKey.parseProperty_eq {key : String} (h : IsKey key) (value : String) :
    parseProperty (key ++ "=" ++ value) = .ok (key, value) := by
  have hgives := @Gives.padded "" key "" h rfl rfl value
  rw [String.empty_append, String.append_empty] at hgives
  exact parseProperty_eq_ok_iff.2 hgives

example : parseProperty " a\t= b=c " = .ok ("a", " b=c ") ∧
    parseProperty " =b" = .error (.invalidProperty " =b") := by
  decide +kernel

/-! ## Several texts -/

/-- What reading the value of one `-D` comes to. -/
def readProperty (text : String) : Except Stop (String × String) :=
  match parseProperty text with
  | .ok p => .ok p
  | .error e => .error (.error (.badValue .property text e.message))

theorem readProperty_eq_ok_iff {text : String} {p : String × String} :
    readProperty text = .ok p ↔ Gives text p := by
  rw [← parseProperty_eq_ok_iff, readProperty]
  cases parseProperty text <;> simp

theorem mapM_readProperty_eq_ok_iff {texts : List String} {properties : List (String × String)} :
    texts.mapM readProperty = .ok properties ↔ List.Forall₂ Gives texts properties := by
  induction texts generalizing properties with
  | nil =>
    rw [List.forall₂_nil_left_iff, List.mapM_nil]
    exact ⟨fun h => (Except.ok.inj h).symm, fun h => h ▸ rfl⟩
  | cons text texts ih =>
    simp only [List.forall₂_cons_left_iff, ← ih, ← readProperty_eq_ok_iff, List.mapM_cons]
    cases readProperty text with
    | error e => exact ⟨nofun, nofun⟩
    | ok p =>
      cases texts.mapM readProperty with
      | error e => exact ⟨nofun, nofun⟩
      | ok ps =>
        constructor
        · rintro ⟨⟩
          exact ⟨p, ps, rfl, rfl, rfl⟩
        · rintro ⟨_, _, ⟨⟩, ⟨⟩, rfl⟩
          rfl

end Options

namespace Reading

/-- The reading with one more property. -/
def withProperty (r : Reading) (p : String × String) : Reading :=
  { r with
    options := { r.options with properties := r.options.properties ++ [p] }
    used := if r.used.contains .property then r.used else r.used ++ [.property]
    awaiting := false }

theorem options_foldl_withProperty (r : Reading) (properties : List (String × String)) :
    (properties.foldl withProperty r).options =
      { r.options with properties := r.options.properties ++ properties } := by
  induction properties generalizing r with
  | nil => simp
  | cons p properties ih => simp [ih, withProperty]

variable {r : Reading} (hr : r.pending = none)
include hr

theorem readShort_property (text : String) : r.readShort ('D' :: '=' :: text.toList) =
    r.withProperty <$> Options.readProperty text := by
  have hsettled : r.settled = .ok r := by simp [settled, settle, hr]
  rw [readShort, show Switch.ofShort? 'D' = some (.option .property) from rfl, hsettled]
  simp only [String.ofList_toList, accept, List.isEmpty_cons, isSingle, Bool.false_and, splitValue,
    List.flatMap_cons, List.flatMap_nil, List.append_nil, List.foldlM_cons, List.foldlM_nil,
    setValue, Options.readProperty]
  cases Options.parseProperty text <;> rfl

theorem read_property (text : String) (args : List String) : r.read (("-D=" ++ text) :: args) =
    Options.readProperty text >>= fun p => (r.withProperty p).read args := by
  have hchars : ("-D=" ++ text).toList = '-' :: 'D' :: '=' :: text.toList := by simp
  have hne : "-D=" ++ text ≠ "--" := by
    intro h
    rw [h] at hchars
    cases hchars
  rw [read, hchars]
  · change (r.readShort ('D' :: '=' :: text.toList) >>= fun r => r.read args) = _
    rw [readShort_property hr]
    cases Options.readProperty text <;> rfl
  · exact hne

theorem read_properties (texts : List String) : r.read (texts.map ("-D=" ++ ·)) =
    (·.foldl withProperty r) <$> texts.mapM Options.readProperty := by
  induction texts generalizing r with
  | nil =>
    rw [List.map_nil, read, settled, settle, hr]
    rfl
  | cons text texts ih =>
    rw [List.map_cons, read_property hr, List.mapM_cons]
    cases Options.readProperty text with
    | error e => rfl
    | ok p =>
      change (r.withProperty p).read _ = _
      rw [ih (r := r.withProperty p) hr]
      cases texts.mapM Options.readProperty <;> rfl

end Reading

theorem Options.parse_properties (texts : List String) : Options.parse (texts.map ("-D=" ++ ·)) =
    (texts.mapM readProperty).map fun properties => { standard with properties } := by
  rw [parse, Reading.read_properties rfl]
  cases texts.mapM readProperty with
  | error e => rfl
  | ok properties => exact congrArg Except.ok (Reading.options_foldl_withProperty _ _)

/-! ## What the linter is told -/

/-- The value that is given to a key at last. -/
def Options.lastValue? (properties : List (String × String)) (key : String) : Option String :=
  (Grouping.values properties key).getLast?

theorem Settings.get?_ofList (properties : List (String × String)) (key : String) :
    (Settings.ofList properties).get? key = Options.lastValue? properties key := by
  unfold Options.lastValue?
  induction properties using List.reverseRecOn with
  | nil => rfl
  | append_singleton properties p ih =>
    have hset : Settings.ofList (properties ++ [p]) = (Settings.ofList properties).set p.1 p.2 := by
      simp [Settings.ofList, Settings.set]
    rw [hset, Settings.get?_set, Grouping.values_concat, ih]
    split
    · rw [List.getLast?_concat]
    · rfl

namespace LintSettings

/-- The keys that the linter's settings are read from. -/
def keys : List String := [lintPathKey, confPathKey, disableWarningsKey]

theorem ofSettings_congr {s t : Settings} (h : ∀ key ∈ keys, s.get? key = t.get? key) :
    ofSettings s = ofSettings t := by
  simp only [ofSettings, nonBlank?, Settings.isTrue]
  rw [h lintPathKey (by simp [keys]), h confPathKey (by simp [keys]),
    h disableWarningsKey (by simp [keys])]

theorem ofSettings_eq_of_lastValue? {properties properties' : List (String × String)}
    (h : ∀ key ∈ keys, Options.lastValue? properties key = Options.lastValue? properties' key) :
    ofSettings (.ofList properties) = ofSettings (.ofList properties') := by
  refine ofSettings_congr fun key hkey => ?_
  rw [Settings.get?_ofList, Settings.get?_ofList, h key hkey]

/-- The linter's settings by the values of its keys. A path that is blank counts as none, and any
other is taken as it stands. -/
structure Configured (path conf hide : Option String) (s : LintSettings) : Prop where
  named : ∀ v, path = some v → Text.isBlankText v = false → s.lintPath = v
  unnamed : (∀ v, path = some v → Text.isBlankText v = true) → s.lintPath = "ansible-lint"
  confPath : ∀ v, s.confPath = some v ↔ conf = some v ∧ Text.isBlankText v = false
  warnings : s.disableWarnings = true ↔ ∃ v, hide = some v ∧ (Text.trim v).toLower = "true"

theorem nonBlank?_eq_some_iff {s : Settings} {key v : String} :
    nonBlank? s key = some v ↔ s.get? key = some v ∧ Text.isBlankText v = false := by
  simp [nonBlank?]

theorem configured_ofSettings (s : Settings) :
    Configured (s.get? lintPathKey) (s.get? confPathKey) (s.get? disableWarningsKey)
      (ofSettings s) where
  named v hv hblank := by
    rw [ofSettings, nonBlank?_eq_some_iff.2 ⟨hv, hblank⟩, Option.getD_some]
  unnamed h := by
    have hnone : nonBlank? s lintPathKey = none := by
      refine Option.eq_none_iff_forall_ne_some.2 fun v hv => ?_
      obtain ⟨hget, hblank⟩ := nonBlank?_eq_some_iff.1 hv
      rw [h v hget] at hblank
      cases hblank
    rw [ofSettings, hnone]
    rfl
  confPath _ := nonBlank?_eq_some_iff
  warnings := by
    have heq (v : String) : Text.eqIgnoreCase v "true" = true ↔ v.toLower = "true" :=
      Text.eqIgnoreCase_iff (by decide)
    simp only [ofSettings, Settings.isTrue, Option.any_eq_true, heq]

end LintSettings

/-! ## Texts that tell the linter the same -/

namespace Options

/-- The linter's settings by a command line of properties. -/
def settingsBy (texts : List String) : Except Stop LintSettings :=
  (Options.parse (texts.map ("-D=" ++ ·))).map fun o => .ofSettings (.ofList o.properties)

theorem settingsBy_eq (texts : List String) : settingsBy texts =
    (texts.mapM readProperty).map fun properties => .ofSettings (.ofList properties) := by
  rw [settingsBy, parse_properties]
  cases texts.mapM readProperty <;> rfl

/-- Changes to a list of texts that do not count: neighbours with different keys change places, and
a text whose key is not one of the linter's is added. -/
inductive Rearranged : List String → List String → Prop where
  | swapped {text text' : String} {p p' : String × String} (h : Gives text p) (h' : Gives text' p')
      (hne : p.1 ≠ p'.1) (before after : List String) :
      Rearranged (before ++ text :: text' :: after) (before ++ text' :: text :: after)
  | added {text : String} {p : String × String} (h : Gives text p) (hkey : p.1 ∉ LintSettings.keys)
      (before after : List String) : Rearranged (before ++ after) (before ++ text :: after)
  | symm {texts texts' : List String} (h : Rearranged texts texts') : Rearranged texts' texts
  | trans {texts texts' texts'' : List String} (h : Rearranged texts texts')
      (h' : Rearranged texts' texts'') : Rearranged texts texts''

theorem settingsBy_append_congr (texts texts' : List String)
    {properties properties' : List (String × String)} (h : List.Forall₂ Gives texts properties)
    (h' : List.Forall₂ Gives texts' properties')
    (hvalues : ∀ key ∈ LintSettings.keys,
      Grouping.values properties key = Grouping.values properties' key)
    (before after : List String) :
    settingsBy (before ++ (texts ++ after)) = settingsBy (before ++ (texts' ++ after)) := by
  rw [← mapM_readProperty_eq_ok_iff] at h h'
  simp only [settingsBy_eq, List.mapM_append, h, h']
  cases before.mapM readProperty with
  | error e => rfl
  | ok earlier =>
    cases after.mapM readProperty with
    | error e => rfl
    | ok later =>
      refine congrArg Except.ok (LintSettings.ofSettings_eq_of_lastValue? fun key hkey => ?_)
      simp only [lastValue?, Grouping.values_append, hvalues key hkey]

theorem Rearranged.settingsBy_eq {texts texts' : List String} (h : Rearranged texts texts') :
    settingsBy texts = settingsBy texts' := by
  induction h with
  | @swapped text text' p p' h h' hne before after =>
    refine settingsBy_append_congr [text, text'] [text', text] (.cons h (.cons h' .nil))
      (.cons h' (.cons h .nil)) (fun key _ => ?_) before after
    -- at most one of the two has the key
    by_cases hp : p.1 = key
    · have hp' : p'.1 ≠ key := fun he => hne (hp.trans he.symm)
      simp [Grouping.values, hp, hp']
    · simp [Grouping.values, List.filterMap_cons, hp]
  | @added text p h hp before after =>
    refine settingsBy_append_congr [] [text] .nil (.cons h .nil) (fun key hkey => ?_) before after
    have hne : p.1 ≠ key := fun he => hp (he ▸ hkey)
    simp [Grouping.values, hne]
  | symm _ ih => exact ih.symm
  | trans _ _ ih ih' => exact ih.trans ih'

end Options

/-! ## Scans -/

namespace Scan

variable {σ : Type} (runner : Runner σ) (cwd : WorkingDir) (o : Options) (output : Sink) (s : σ)

/-- **A scan sees of its properties the linter's settings.** -/
theorem perform_eq_of_settings (disk : Disk) {properties properties' : List (String × String)}
    (h : LintSettings.ofSettings (.ofList properties) = .ofSettings (.ofList properties')) :
    perform runner disk cwd { o with properties } output s =
      perform runner disk cwd { o with properties := properties' } output s :=
  perform_eq_of_alike runner cwd o output s disk fun _ => ⟨rfl, rfl, h, rfl⟩

/-- **Properties, and what they tell the linter.** A text is accepted as `Options.Gives` says. The
linter's settings, and with them the whole scan, depend on the last value of each of their keys
alone, so texts with different keys may change places, and others come and go. -/
theorem perform_configured (disk : Disk) :
    (∀ text,
      ((∃ p, Options.parseProperty text = .ok p) ↔ ∃ front value,
        text = front ++ "=" ++ value ∧ '=' ∉ front.toList ∧ Text.isBlankText front = false) ∧
      (∀ p, Options.parseProperty text = .ok p ↔ Options.Gives text p) ∧
      ∀ e, Options.parseProperty text = .error e → e = .invalidProperty text) ∧
    (∀ key value, Options.IsKey key →
      Options.parseProperty (key ++ "=" ++ value) = .ok (key, value)) ∧
    (∀ texts o', Options.parse (texts.map ("-D=" ++ ·)) = .ok o' ↔
      ∃ properties, List.Forall₂ Options.Gives texts properties ∧
        o' = { Options.standard with properties }) ∧
    (∀ properties files,
      let last := Options.lastValue? properties
      LintSettings.Configured (last LintSettings.lintPathKey) (last LintSettings.confPathKey)
        (last LintSettings.disableWarningsKey)
        (.ofSettings (context { o with properties } files).settings)) ∧
    (∀ properties properties',
      (∀ key ∈ LintSettings.keys,
        Options.lastValue? properties key = Options.lastValue? properties' key) →
      LintSettings.ofSettings (.ofList properties) = .ofSettings (.ofList properties') ∧
        perform runner disk cwd { o with properties } output s =
          perform runner disk cwd { o with properties := properties' } output s) ∧
    ∀ texts texts', Options.Rearranged texts texts' →
      Options.settingsBy texts = Options.settingsBy texts' ∧
        ∀ properties properties', List.Forall₂ Options.Gives texts properties →
          List.Forall₂ Options.Gives texts' properties' →
          perform runner disk cwd { o with properties } output s =
            perform runner disk cwd { o with properties := properties' } output s := by
  refine ⟨fun text => ⟨Options.exists_parseProperty_eq_ok_iff,
    fun p => Options.parseProperty_eq_ok_iff, fun e => Options.eq_of_parseProperty_eq_error⟩,
    fun key value h => h.parseProperty_eq value, fun texts o' => ?parsed,
    fun properties files => ?configured, fun properties properties' h => ?last,
    fun texts texts' h => ⟨h.settingsBy_eq, fun properties properties' hp hp' => ?rearranged⟩⟩
  case parsed =>
    simp only [Options.parse_properties, ← Options.mapM_readProperty_eq_ok_iff]
    cases texts.mapM Options.readProperty with
    | error e => exact ⟨nofun, nofun⟩
    | ok properties => simp [Except.map, eq_comm]
  case configured =>
    simp only [← Settings.get?_ofList]
    exact LintSettings.configured_ofSettings _
  case last =>
    have hsettings := LintSettings.ofSettings_eq_of_lastValue? h
    exact ⟨hsettings, perform_eq_of_settings runner cwd o output s disk hsettings⟩
  case rearranged =>
    have hsettings := h.settingsBy_eq
    rw [← Options.mapM_readProperty_eq_ok_iff] at hp hp'
    rw [Options.settingsBy_eq, Options.settingsBy_eq, hp, hp'] at hsettings
    exact perform_eq_of_settings runner cwd o output s disk (Except.ok.inj hsettings)

/-- A blank takes back an executable that was named before, with another key between. -/
theorem perform_configured_blank_last :
    let path := "sonar.ansible.ansible-lint.path"
    let hide := "sonar.ansible.ansible-lint.disable-warnings"
    let named := path ++ "=/opt/lint"
    let blank := " " ++ path ++ "= "
    let hidden := hide ++ "= True\t"
    let properties := [(path, "/opt/lint"), ("a", " b=c"), (path, " "), (hide, " True\t")]
    let o : Options := { Options.standard with properties }
    let settings := LintSettings.ofSettings (context o (.empty ⟨"/p"⟩)).settings
    let texts := [named, "a= b=c", blank, hidden]
    let texts' := [named, hidden, blank]
    List.Forall₂ Options.Gives texts properties ∧ Options.Rearranged texts' texts ∧
      Options.parse (texts.map ("-D=" ++ ·)) = .ok o ∧
      settings.lintPath = "ansible-lint" ∧ settings.confPath = none ∧
      settings.disableWarnings = true ∧ Options.settingsBy texts' = .ok settings := by
  intro path hide named blank hidden properties o settings texts texts'
  have hnamed : Options.Gives named (path, "/opt/lint") :=
    Options.parseProperty_eq_ok_iff.1 (by decide +kernel)
  have hother : Options.Gives "a= b=c" ("a", " b=c") :=
    Options.parseProperty_eq_ok_iff.1 (by decide +kernel)
  have hblank : Options.Gives blank (path, " ") :=
    Options.parseProperty_eq_ok_iff.1 (by decide +kernel)
  have hhidden : Options.Gives hidden (hide, " True\t") :=
    Options.parseProperty_eq_ok_iff.1 (by decide +kernel)
  have hgives : List.Forall₂ Options.Gives texts properties :=
    .cons hnamed (.cons hother (.cons hblank (.cons hhidden .nil)))
  have hrearranged : Options.Rearranged texts' texts :=
    .trans (.swapped hhidden hblank (by decide) [named] [])
      (.added hother (by decide) [named] [blank, hidden])
  obtain ⟨-, -, hparsed, hconfigured, -, hsame⟩ :=
    perform_configured Prepared.runner .top o .unlimited (.ofReplies []) ⟨.directory []⟩
  have hparse : Options.parse (texts.map ("-D=" ++ ·)) = .ok o :=
    (hparsed texts o).2 ⟨properties, hgives, rfl⟩
  have hsettings := hconfigured properties (.empty ⟨"/p"⟩)
  refine ⟨hgives, hrearranged, hparse, hsettings.unnamed fun v hv => ?_,
    Option.eq_none_iff_forall_ne_some.2 fun v hv => ?_, hsettings.warnings.2 ?_, ?_⟩
  · have hlast : Options.lastValue? properties LintSettings.lintPathKey = some " " := by decide
    cases hlast.symm.trans hv
    decide
  · have hlast : Options.lastValue? properties LintSettings.confPathKey = none := by decide
    cases hlast.symm.trans ((hsettings.confPath v).1 hv).1
  · exact ⟨" True\t", by decide, (Text.eqIgnoreCase_iff (by decide)).1 (by decide +kernel)⟩
  · rw [(hsame texts' texts hrearranged).1, Options.settingsBy, hparse]
    rfl

end Scan

end PlaybookScan

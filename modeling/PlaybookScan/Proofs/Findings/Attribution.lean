import PlaybookScan.Proofs.Findings.Registration
import PlaybookScan.Proofs.InputFile

/-!
# Findings land on their file

The linter is given the path of a file and prints it in front of its findings. Registering such a
line files the finding under the URI of that file (`lands_of_path`), whatever has been registered
before and whatever directory relative names are seen from: a printed diagnostic is read back
(`Diagnostic.parse?_bracketedLine` and the like), and the path leads back to the URI
(`InputFile.Built.resolve_path`).
-/

set_option autoImplicit false

namespace PlaybookScan.Findings

open Diagnostic Text

/-- The line is recognised, and afterwards the finding is one of those on the file. -/
def Lands (cwd : WorkingDir) (s : Findings) (file : InputFile) (line : String) (f : Finding) :
    Prop :=
  (s.register cwd line).value.1 = true ∧
    ∃ fs, (s.register cwd line).value.2.issuesFor file.uri = some fs ∧ f ∈ fs

theorem lands_of_parse? {s : Findings} (hs : s.Coherent) {file : InputFile} (hfile : file.Built)
    {line : String} {f : Finding} {layout : Layout} (hf : f.line ≠ 0)
    (h : parse? line = some ⟨file.path.text, f, layout⟩) (cwd : WorkingDir) :
    Lands cwd s file line f := by
  have hl : located? cwd s.baseDir line = some (file.uri, f) := by
    simp [located?, h, hf, hfile.resolve_path cwd s.baseDir, Except.toOption]
  rw [Lands, value_register, h, hl]
  exact ⟨rfl, (hs.stores_insert file.uri hf file.uri f).2 (.inl rfl)⟩

/-- **What is printed about the path of a file is filed under the file**, in any layout and with any
zeros in front of the line number. The path is the one at the end of every command line for the
file, and it names the file whatever directory names are seen from. -/
theorem lands_of_path {s : Findings} (hs : s.Reachable) {file : InputFile} (hfile : file.Built)
    (hnl : '\n' ∉ file.path.text.toList) (zeros : Nat) {n : UInt32} (hn : 1 ≤ n) :
    (∀ cwd,
      (∀ rule message : String, IsLegacyId rule.toList → '\n' ∉ message.toList →
        Avoids IsHeader message.toList →
        Lands cwd s file
          (file.path.text ++ ":" ++ padded zeros n ++ ": [" ++ rule ++ "] " ++ message)
          ⟨n, rule, some message⟩) ∧
      (Avoids IsHeader file.path.text.toList → ∀ rule : String, IsRuleId rule.toList →
        Lands cwd s file (rule ++ " " ++ file.path.text ++ ":" ++ padded zeros n) ⟨n, rule, none⟩ ∧
        Lands cwd s file (file.path.text ++ ":" ++ padded zeros n ++ ": " ++ rule)
          ⟨n, rule, none⟩)) ∧
    (∀ cwd base, FileUri.resolve cwd base file.path.text = .ok file.uri) ∧
    ∀ (profile : Profile) (settings : LintSettings) (extraArgs : List String),
      (profile.command settings extraArgs file).getLast? = some file.path.text := by
  have hne := hfile.path_ne_empty
  have hds := isNumeral_padded zeros n
  have h0 : n ≠ 0 := fun h => absurd (h ▸ hn) (by decide)
  have land {line : String} {f : Finding} {layout : Layout} (hf : f.line ≠ 0)
      (h : parse? line = some ⟨file.path.text, f, layout⟩) (cwd : WorkingDir) :=
    lands_of_parse? hs.coherent hfile hf h cwd
  refine ⟨fun cwd => ⟨fun rule message hr hm hh => ?_, fun hp rule hr => ⟨?_, ?_⟩⟩,
    hfile.resolve_path, fun profile settings extraArgs => profile.getLast?_command ..⟩
  · exact land h0 (parse?_bracketedLine hne hnl hds hr hm hh) cwd
  · exact land h0 (parse?_rulePrefixLine hne hnl hds hr hp) cwd
  · exact land h0 (parse?_suffixColonLine hne hnl hds hr hp) cwd

/-- A path whose last name could be taken for a drive, with a space and a percent sign. -/
theorem lands_of_drive_path :
    ∃ file, InputFile.create .top ⟨"/a 50%/c:"⟩ "yaml" = .ok file ∧
      file.uri = ⟨"file:///a%2050%25/c:"⟩ ∧ file.path.text = "/a 50%/c:/" ∧
      Lands .top (.empty ⟨"b"⟩) file
        (file.path.text ++ ":" ++ padded 1 7 ++ ": [" ++ "E301" ++ "] " ++ "m")
        ⟨7, "E301", some "m"⟩ ∧
      Lands .top (.empty ⟨"b"⟩) file ("no-tabs" ++ " " ++ file.path.text ++ ":" ++ padded 1 7)
        ⟨7, "no-tabs", none⟩ ∧
      FileUri.resolve .top ⟨"b"⟩ file.path.text = .ok file.uri := by
  have hn : ∀ n ∈ ["a 50%", "c:"], Path.IsName n := by
    simp only [List.forall_mem_cons, List.not_mem_nil, false_implies, implies_true, and_true]
    exact ⟨⟨by decide, by decide, by decide, by decide⟩, by decide, by decide, by decide, by decide⟩
  have huri : FileUri.ofNormal (.ofNames ["a 50%", "c:"]) = ⟨"file:///a%2050%25/c:"⟩ := by rfl
  have hpath := FileUri.text_toPath hn
  rw [huri] at hpath
  obtain ⟨file, hcreate, hfile, htext⟩ : ∃ file,
      InputFile.create .top ⟨"/a 50%/c:"⟩ "yaml" = .ok file ∧
        file.uri = ⟨"file:///a%2050%25/c:"⟩ ∧ file.path.text = "/a 50%/c:/" :=
    ⟨_, InputFile.create_of_ofPath (by rfl) "yaml", rfl, String.toList_injective hpath⟩
  obtain ⟨h, hr, -⟩ := lands_of_path (.empty ⟨"b"⟩) (.create hcreate) (by rw [htext]; decide) 1
    (n := 7) (by decide)
  obtain ⟨h1, h2⟩ := h .top
  exact ⟨file, hcreate, hfile, htext, h1 "E301" "m" (by decide) (by decide) (by decide),
    (h2 (by rw [htext]; decide) "no-tabs" (by decide)).1, hr .top ⟨"b"⟩⟩

end PlaybookScan.Findings

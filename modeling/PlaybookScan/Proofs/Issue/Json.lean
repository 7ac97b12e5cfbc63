import Mathlib.Data.List.SplitBy
import PlaybookScan.Issue
import PlaybookScan.Proofs.Text.Json

/-!
# Written issues are read back

`Issue.parse?_json`: the text of an issue is a JSON object, and its members are the displayed rule,
the key of the file, the line and, if there is one, the message. The text holds no newline
(`Issue.newline_not_mem_json`), so that it stays on its line. The pieces in which it is written make
up the text (`Issue.flatten_pieces`).
-/

set_option autoImplicit false

namespace PlaybookScan

open Text

/-! ## Pieces and newlines -/

theorem Text.flatten_jsonPieces (s : String) : (jsonPieces s).flatten = (jsonString s).toList := by
  have hruns : ((s.toList.splitBy sameRun).map (·.flatMap jsonChar)).flatten =
      s.toList.flatMap jsonChar := by
    rw [← List.flatMap_def, ← List.flatMap_assoc, List.flatMap_id', List.flatten_splitBy]
  simp [jsonPieces, jsonString, hruns]

theorem Text.newline_not_mem_jsonChar (c : Char) : '\n' ∉ jsonChar c := by
  unfold jsonChar
  split
  case h_8 _ _ _ _ hc _ _ =>
    split
    case isTrue hlow =>
      exact (by decide : ∀ n < 0x20, '\n' ∉ ['\\', 'u'] ++ fourDigits n) c.toNat hlow
    case isFalse => simpa using Ne.symm hc
  all_goals decide

theorem Text.newline_not_mem_jsonString (s : String) : '\n' ∉ (jsonString s).toList := by
  simp [jsonString, newline_not_mem_jsonChar]

theorem Text.newline_not_mem_decimal (n : UInt32) : '\n' ∉ (decimal n).toList := by
  intro h
  rw [decimal, Nat.toString_eq_ofList_toDigits, String.toList_ofList] at h
  exact absurd (Nat.isDigit_of_mem_toDigits (by decide) (by decide) h) (by decide)

namespace Issue

/-- What is written behind the line of an issue. -/
def jsonEnd (i : Issue) : List Char :=
  match i.message with
  | none => ['\x7d']
  | some m => ',' :: ((jsonString "message").toList ++ ':' :: ((jsonString m).toList ++ ['\x7d']))

theorem json_toList (i : Issue) : i.json.toList =
    '\x7b' :: ((jsonString "rule").toList ++ ':' :: ((jsonString i.rule.display).toList ++
      ',' :: ((jsonString "file").toList ++ ':' :: ((jsonString i.component).toList ++
        ',' :: ((jsonString "line").toList ++ ':' ::
          ((decimal i.line).toList ++ i.jsonEnd)))))) := by
  have hrule : (jsonString "rule").toList = "\"rule\"".toList := by decide
  have hfile : (jsonString "file").toList = "\"file\"".toList := by decide
  have hline : (jsonString "line").toList = "\"line\"".toList := by decide
  have hmessage : (jsonString "message").toList = "\"message\"".toList := by decide
  rw [hrule, hfile, hline, jsonEnd, hmessage]
  cases h : i.message <;> simp [json, h]

theorem flatten_pieces (i : Issue) : i.pieces.flatten = i.json.toList := by
  rw [json_toList, jsonEnd]
  cases h : i.message <;> simp [pieces, memberPieces, Text.flatten_jsonPieces, h]

theorem newline_not_mem_json (i : Issue) : '\n' ∉ i.json.toList := by
  rw [json_toList, jsonEnd]
  cases i.message <;> simp [newline_not_mem_jsonString, newline_not_mem_decimal]

/-! ## The object -/

/-- What the text of an issue says. -/
def record (i : Issue) : Json :=
  .object ([("rule", .string i.rule.display), ("file", .string i.component),
    ("line", .number i.line.toNat 0)] ++ i.message.toList.map fun m => ("message", .string m))

theorem endsNumber_jsonEnd (i : Issue) : Json.EndsNumber i.jsonEnd := by
  unfold jsonEnd
  split <;> (rintro c ⟨⟩; decide)

theorem members_line (i : Issue) (depth : Nat) :
    Json.members (depth + 3) ((jsonString "line").toList ++ ':' ::
        ((decimal i.line).toList ++ i.jsonEnd)) =
      some (("line", .number i.line.toNat 0) ::
        i.message.toList.map fun m => ("message", .string m), []) := by
  have hline : Json.value (depth + 2) ((decimal i.line).toList ++ i.jsonEnd) =
      some (.number i.line.toNat 0, i.jsonEnd) := by
    rw [decimal, Nat.toString_eq_ofList_toDigits, String.toList_ofList]
    exact Json.value_toDigits (depth + 1) i.line.toNat i.endsNumber_jsonEnd
  unfold jsonEnd at hline ⊢
  cases hm : i.message with
  | none =>
    simp only [hm] at hline
    exact Json.members_last hline
  | some m =>
    simp only [hm] at hline
    exact Json.members_cons hline (Json.members_last (Json.value_jsonString depth m ['\x7d']))

theorem parse?_json (i : Issue) : Json.parse? i.json.toList = some i.record := by
  -- One step into the object, one behind each of the first members, and two for the last one.
  have hvalue (depth : Nat) : Json.value (depth + 6) i.json.toList = some (i.record, []) := by
    rw [json_toList]
    exact Json.value_object <| Json.members_cons (Json.value_jsonString _ _ _) <|
      Json.members_cons (Json.value_jsonString _ _ _) (i.members_line depth)
  have hlength : 5 ≤ i.json.toList.length := by
    rw [json_toList]
    simp only [List.length_cons, List.length_append]
    omega
  obtain ⟨depth, hdepth⟩ := Nat.exists_eq_add_of_le' hlength
  rw [Json.parse?, hdepth, hvalue]
  rfl

example : Json.parse?
      (Issue.mk ⟨"a", "b"⟩ "c\"d.yml" ⟨"file:///c"⟩ 7 (some "\n\x01é")).json.toList =
    some (.object [("rule", .string "a:b"), ("file", .string "c\"d.yml"), ("line", .number 7 0),
      ("message", .string "\n\x01é")]) := by cbv

end Issue

end PlaybookScan

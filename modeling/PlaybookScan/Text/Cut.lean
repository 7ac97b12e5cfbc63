/-!
# Cutting a text at its first separator

`cut? sep cs` is the text before and after the leftmost occurrence of `sep` in `cs`.
-/

set_option autoImplicit false

namespace PlaybookScan.Text

/-- What stands before and after the first occurrence of `sep`. -/
def cut? (sep : List Char) : List Char → Option (List Char × List Char)
  | [] => if sep = [] then some ([], []) else none
  | c :: cs =>
    match sep.isPrefixOf? (c :: cs) with
    | some after => some ([], after)
    | none => (cut? sep cs).map fun (before, after) => (c :: before, after)

/-- `part` stands somewhere in `s`. -/
def containsText (part s : String) : Bool := (cut? part.toList s.toList).isSome

end PlaybookScan.Text

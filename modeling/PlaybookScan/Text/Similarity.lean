/-!
# Similar words

How alike two words are, by the measure of Jaro: the letters that both have at nearly the same
place, less the pairs of them that changed places. The measure is a floating-point number, and its
rounding decides between words that are alike.
-/

set_option autoImplicit false

namespace PlaybookScan.Text

/-- A letter of the second word, and whether it is already matched. -/
abbrev Slot := Char × Bool

/-- Matches `c` with the first free slot of the same letter at a position from `low` to `high`,
where the first slot is at position `j`. -/
def takeSlot (c : Char) (low high : Nat) : Nat → List Slot → Option (List Slot)
  | _, [] => none
  | j, (d, used) :: slots =>
    if low ≤ j ∧ j ≤ high ∧ d = c ∧ !used then some ((d, true) :: slots)
    else (takeSlot c low high (j + 1) slots).map ((d, used) :: ·)

/-- The letters of the first word that find a slot, and the slots then. Position `i` is that of the
first letter, and `reach` how far off a slot may be. -/
def matchSlots (reach : Nat) : Nat → List Char → List Slot → List Char × List Slot
  | _, [], slots => ([], slots)
  | i, c :: cs, slots =>
    match takeSlot c (i - reach) (i + reach) 0 slots with
    | some slots =>
      let (matched, slots) := matchSlots reach (i + 1) cs slots
      (c :: matched, slots)
    | none => matchSlots reach (i + 1) cs slots

/-- How alike two words are, from 0 for nothing in common to 1 for equal words: the mean of three
shares, that of the letters of either word which are matched and that of the matched letters which
keep their order. It is rounded at each step, so that words whose true mean is equal can differ. -/
def similarity (a b : List Char) : Float :=
  let reach := max a.length b.length / 2 - 1
  let (matched, slots) := matchSlots reach 0 a (b.map (·, false))
  let others := (slots.filter (·.2)).map (·.1)
  let m := matched.length
  let swapped := ((matched.zip others).filter fun (x, y) => x != y).length / 2
  if a.isEmpty && b.isEmpty then 1
  else if m = 0 then 0
  else
    (m.toFloat / a.length.toFloat + m.toFloat / b.length.toFloat +
      (m - swapped).toFloat / m.toFloat) / 3

/-- The one of the words that is most like `word`, if they agree by more than seven tenths. Of words
that are alike it is the last. -/
def mostSimilar? (word : String) (words : List String) : Option String :=
  let scored := (words.map fun w => (similarity word.toList w.toList, w)).filter (·.1 > 0.7)
  let best := scored.foldl (fun best (x : Float × String) =>
    match best with
    | some (y : Float × String) => if x.1 < y.1 then some y else some x
    | none => some x) none
  best.map (·.2)

end PlaybookScan.Text

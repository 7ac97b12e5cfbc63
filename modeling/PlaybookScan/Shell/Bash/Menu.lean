/-!
# Menus

A list of words with numbers, in as many columns as a line has room for.
-/

set_option autoImplicit false

namespace PlaybookScan.Shell.Bash.Menu

/-- Characters of a line. -/
def lineLength : Nat := 80

def digits (n : Nat) : Nat := (toString n).length

/-- Blanks from one column of a line to another, as far as possible as tabs; `fuel` is more than
their number. -/
def gap (fuel start stop : Nat) : String :=
  match fuel with
  | 0 => ""
  | fuel + 1 =>
    if stop ≤ start then ""
    else if start / 8 < stop / 8 then "\t" ++ gap fuel (start + 8 - start % 8) stop
    else " " ++ gap fuel (start + 1) stop

/-- A word behind its number. -/
def cell (width number : Nat) (word : String) : String :=
  "".pushn ' ' (width - digits number) ++ toString number ++ ") " ++ word

/-- The lines of a menu. -/
def lines (words : List String) : List String :=
  let count := words.length
  let width := (words.map String.length).foldl max 0 + digits count + 4
  let columns := max 1 (lineLength / width)
  let rows := (count + columns - 1) / columns
  let rows := if rows = 1 then count else rows
  (List.range rows).map fun row =>
    let places := (List.range count).filter fun n => n % rows = row
    String.join ((List.range places.length).zip places |>.map fun (column, n) =>
      let text := cell (if column = 0 then digits rows else digits count) (n + 1) (words.getD n "")
      let start := column * width
      if column + 1 = places.length then text
      else text ++ gap width (start + text.length) (start + width))

end PlaybookScan.Shell.Bash.Menu

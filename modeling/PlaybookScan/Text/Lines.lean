import PlaybookScan.Text.Utf8

/-!
# Lines of a byte stream

A line ends at a newline or at the end of the stream. The newline, and one carriage return just
before it, do not belong to the line; a last line without newline keeps its carriage return.
`read` decodes the lines, `count` counts them.
-/

set_option autoImplicit false

namespace PlaybookScan.Text.Lines

/-- One line without its newline, and whether it had one. -/
structure Piece where
  bytes : List UInt8
  terminated : Bool
  deriving DecidableEq, Repr

/-- Splits at newlines, after the bytes `line` of the current line and the pieces `done`, both in
reverse. -/
def splitOnto (done : List Piece) (line : List UInt8) : List UInt8 → List Piece
  | [] => if line = [] then done.reverse else (⟨line.reverse, false⟩ :: done).reverse
  | b :: bs =>
    if b = 10 then splitOnto (⟨line.reverse, true⟩ :: done) [] bs
    else splitOnto done (b :: line) bs

/-- The pieces of a stream; there is no empty last piece. -/
def split (bs : List UInt8) : List Piece := splitOnto [] [] bs

/-- `bs` without one carriage return at its end. -/
def dropReturn (bs : List UInt8) : List UInt8 :=
  if bs.getLast? = some 13 then bs.dropLast else bs

/-- The text of a line. -/
def Piece.text (p : Piece) : String :=
  String.ofList (Utf8.decode (if p.terminated then dropReturn p.bytes else p.bytes))

/-- The lines of a stream. -/
def read (bs : List UInt8) : List String := (split bs).map Piece.text

/-- The number of newlines, and one more for bytes after the last. -/
def rawCount (bs : List UInt8) : Nat :=
  bs.count 10 + (if bs = [] ∨ bs.getLast? = some 10 then 0 else 1)

/-- The number of lines, at most 2 ^ 32 - 1. -/
def count (bs : List UInt8) : UInt32 := UInt32.ofNat (min (rawCount bs) 4294967295)

end PlaybookScan.Text.Lines

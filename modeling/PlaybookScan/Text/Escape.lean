import PlaybookScan.Text.Utf8

/-!
# Escape sequences

A terminal takes some bytes as commands: control characters, and the sequences that start with the
escape character. `withoutEscapes` leaves what a terminal would show of a text. The reading of
sequences is a machine over bytes, with one state for each place inside a sequence.
-/

set_option autoImplicit false

namespace PlaybookScan.Text

/-- A place inside an escape sequence. -/
inductive EscapeState where
  /-- Outside all sequences. -/
  | ground
  | escape
  | escapeIntermediate
  | csiEntry
  | csiParam
  | csiIntermediate
  | csiIgnore
  | dcsEntry
  | dcsParam
  | dcsIntermediate
  | dcsIgnore
  | dcsPassthrough
  /-- An operating system command. -/
  | osc
  /-- A start of string, a privacy message or an application command. -/
  | string
  deriving DecidableEq, Repr

namespace EscapeState

/-- The place behind a byte; some bytes stop any sequence, and one starts a new one anywhere. -/
def next (s : EscapeState) (b : UInt8) : EscapeState :=
  let between (low high : UInt8) : Bool := low ≤ b && b ≤ high
  if b = 0x18 ∨ b = 0x1A then ground
  else if b = 0x1B then escape
  else match s with
  | ground => ground
  | escape =>
    if between 0x20 0x2F then escapeIntermediate
    else if b = 0x5B then csiEntry
    else if b = 0x5D then osc
    else if b = 0x50 then dcsEntry
    else if b = 0x58 ∨ b = 0x5E ∨ b = 0x5F then string
    else if between 0x30 0x7E then ground
    else s
  | escapeIntermediate => if between 0x30 0x7E then ground else s
  | csiEntry =>
    if between 0x20 0x2F then csiIntermediate
    else if between 0x30 0x3F then csiParam
    else if between 0x40 0x7E then ground
    else s
  | csiParam =>
    if between 0x3C 0x3F then csiIgnore
    else if between 0x20 0x2F then csiIntermediate
    else if between 0x40 0x7E then ground
    else s
  | csiIntermediate =>
    if between 0x30 0x3F then csiIgnore else if between 0x40 0x7E then ground else s
  | csiIgnore => if between 0x40 0x7E then ground else s
  | dcsEntry =>
    if between 0x20 0x2F then dcsIntermediate
    else if between 0x30 0x3F then dcsParam
    else if between 0x40 0x7E then dcsPassthrough
    else s
  | dcsParam =>
    if between 0x3C 0x3F then dcsIgnore
    else if between 0x20 0x2F then dcsIntermediate
    else if between 0x40 0x7E then dcsPassthrough
    else s
  | dcsIntermediate =>
    if between 0x30 0x3F then dcsIgnore
    else if between 0x40 0x7E then dcsPassthrough
    else s
  | dcsIgnore | dcsPassthrough | string => if b = 0x9C then ground else s
  | osc => if b = 0x07 then ground else s

/-- A control character that moves the cursor only is shown, unless a string swallows it. -/
def showsSpacing : EscapeState → Bool
  | dcsEntry | dcsParam | dcsIntermediate | dcsIgnore | dcsPassthrough | osc | string => false
  | _ => true

/-- A terminal in this state shows the byte, or the character that starts with it. -/
def isShown (s : EscapeState) (b : UInt8) : Bool :=
  (s = ground && ((0x20 ≤ b && b < 0x7F) || (0xC2 ≤ b && b ≤ 0xF4))) ||
    (s.showsSpacing && (b = 0x09 || b = 0x0A || b = 0x0C || b = 0x0D))

end EscapeState

/-- Follows the sequences from the state `s`, and shows the characters outside of them. A byte shown
takes the terminal out of a sequence; `following` counts the bytes of a character that are still to
come, which are shown in any case. -/
def shownBytes : EscapeState → Nat → List UInt8 → List UInt8
  | _, _, [] => []
  | s, n + 1, b :: bs => b :: shownBytes s n bs
  | s, 0, b :: bs =>
    if s.isShown b then
      b :: shownBytes .ground ((Utf8.lead? b).elim 0 (·.following)) bs
    else shownBytes (s.next b) 0 bs

/-- What a terminal shows of a text. -/
def withoutEscapes (s : String) : String :=
  String.ofList (Utf8.decode (shownBytes .ground 0 (Utf8.encode s.toList)))

/-- A text set off for a terminal by sequences around it. -/
def emphasized (s : String) : String := "\x1b[1m" ++ s ++ "\x1b[0m"

end PlaybookScan.Text

import PlaybookScan.Cli.Error
import PlaybookScan.Issue

/-!
# Writing issues

The sink of the issues may have room for some bytes only; it then takes the bytes that fit and
fails, and it may fail to flush. `Sink.writeIssues` writes one line per issue, each of them in many
pieces, and stops at the first failure.
-/

set_option autoImplicit false

namespace PlaybookScan

structure Sink where
  written : Array UInt8
  /-- Number of bytes that still fit, if there is a limit. -/
  room : Option Nat
  flushError : Option IoError

namespace Sink

/-- A sink that takes everything. -/
def unlimited : Sink := ⟨#[], none, none⟩

def isFull : IoError := .other "sink is full"

/-- Writes the bytes that fit. -/
def write (s : Sink) (bytes : List UInt8) : Except IoError Unit × Sink :=
  match s.room with
  | none => (.ok (), { s with written := s.written ++ bytes })
  | some room =>
    let taken := { s with
      written := s.written ++ bytes.take room, room := some (room - bytes.length) }
    (if bytes.length ≤ room then .ok () else .error isFull, taken)

def flush (s : Sink) : Except IoError Unit :=
  match s.flushError with
  | some e => .error e
  | none => .ok ()

/-- Writes pieces in turn, up to the first that does not fit. -/
def writePieces (s : Sink) : List (List UInt8) → Except IoError Unit × Sink
  | [] => (.ok (), s)
  | piece :: pieces =>
    match s.write piece with
    | (.error e, s) => (.error e, s)
    | (.ok (), s) => s.writePieces pieces

/-- Writes the line of one issue. -/
def writeIssue (s : Sink) (i : Issue) : Except ScanError Unit × Sink :=
  match s.writePieces (i.pieces.map Text.Utf8.encode) with
  | (.error e, s) => (.error (.serialise e), s)
  | (.ok (), s) =>
    match s.write [10] with
    | (.error e, s) => (.error (.write e), s)
    | (.ok (), s) => (.ok (), s)

/-- Writes the lines of the issues and flushes. -/
def writeIssues (s : Sink) : List Issue → Except ScanError Unit × Sink
  | [] => (s.flush.mapError .write, s)
  | i :: is =>
    match s.writeIssue i with
    | (.error e, s) => (.error e, s)
    | (.ok (), s) => s.writeIssues is

/-- What was written, as text. -/
def text (s : Sink) : String := String.ofList (Text.Utf8.decode s.written.toList)

end Sink

end PlaybookScan

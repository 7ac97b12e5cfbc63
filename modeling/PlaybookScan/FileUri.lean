import PlaybookScan.HostError
import PlaybookScan.Path
import PlaybookScan.Text.Utf8

/-!
# File URIs

A file is identified by a URI: `file://` and, behind a slash each, the percent-encoded components
of its absolute and normal path. `FileUri.toPath` reads the path back.
-/

set_option autoImplicit false

namespace PlaybookScan

structure FileUri where
  text : String
  deriving DecidableEq, Hashable, Inhabited, Repr

namespace FileUri

/-- The characters that stand for themselves: printable ASCII but space, double quote, number sign,
angle brackets, question mark, grave accent, braces, percent sign and backslash. -/
def isPlain (c : Char) : Bool :=
  0x21 ≤ c.toNat && c.toNat ≤ 0x7E &&
    !(['"', '#', '<', '>', '?', '\x60', '\x7b', '\x7d', '%', '\\'].contains c)

/-- The upper-case hexadecimal digit of a number below 16. -/
def hexDigit (n : Nat) : Char := if n < 10 then Char.ofNat (48 + n) else Char.ofNat (55 + n)

/-- The number of a hexadecimal digit of either case. -/
def hexValue? (c : Char) : Option Nat :=
  if '0' ≤ c ∧ c ≤ '9' then some (c.toNat - 48)
  else if 'A' ≤ c ∧ c ≤ 'F' then some (c.toNat - 55)
  else if 'a' ≤ c ∧ c ≤ 'f' then some (c.toNat - 87)
  else none

def escapeByte (b : UInt8) : List Char := ['%', hexDigit (b.toNat / 16), hexDigit (b.toNat % 16)]

def encodeChar (c : Char) : List Char :=
  if isPlain c then [c] else (String.utf8EncodeChar c).flatMap escapeByte

def percentEncode (cs : List Char) : List Char := cs.flatMap encodeChar

/-- The bytes of a percent-encoded text. A percent sign without two digits stands for itself. -/
def percentBytes : List Char → List UInt8
  | '%' :: a :: b :: cs =>
    match hexValue? a, hexValue? b with
    | some m, some n => UInt8.ofNat (16 * m + n) :: percentBytes cs
    | _, _ => 37 :: percentBytes (a :: b :: cs)
  | c :: cs => String.utf8EncodeChar c ++ percentBytes cs
  | [] => []

def percentDecode (cs : List Char) : List Char := Text.Utf8.decode (percentBytes cs)

/-- The text behind the scheme: the encoded names, behind a slash each, or a slash alone. -/
def encodeNames : List String → List Char
  | [] => ['/']
  | names => names.flatMap fun name => '/' :: percentEncode name.toList

/-- The URI of a path that is absolute and normal. -/
def ofNormal (p : Path) : FileUri := ⟨"file://" ++ String.ofList (encodeNames p.names)⟩

/-- A path that ends in a letter and a colon or bar could be taken for a drive; a slash behind it
says that it is none. -/
def closeDrive (cs : List Char) : List Char :=
  match cs.reverse with
  | c :: l :: _ :: _ => if (c == ':' || c == '|') && l.isAlpha then cs ++ ['/'] else cs
  | _ => cs

/-- The path of a file URI. -/
def toPath (u : FileUri) : Path :=
  let segments := ((u.text.toList.drop 7).splitOn '/').drop 1
  ⟨String.ofList (closeDrive (segments.flatMap fun s => '/' :: percentDecode s))⟩

/-- The URI of the file that `p` names, seen from `cwd`. Only the empty path names none. -/
def ofPath (cwd : WorkingDir) (p : Path) : Except HostError FileUri :=
  if p.isEmpty then .error (.invalidPath p) else .ok (ofNormal (cwd.absolute p).normalize)

/-- The URI of a file name that may be relative to `base`. -/
def resolve (cwd : WorkingDir) (base : Path) (filename : String) : Except HostError FileUri :=
  ofPath cwd (base.join ⟨filename⟩)

end FileUri

end PlaybookScan

import PlaybookScan.Text.Utf8

/-!
# Octet texts

A text inside the shell has one character for each byte, the one of the byte's number, so that any
bytes can be held, cut and compared. `ofText` takes a text in, `bytes` lets it out again.
-/

set_option autoImplicit false

namespace PlaybookScan.Shell.Octets

def ofBytes (bs : List UInt8) : List Char := bs.map fun b => Char.ofNat b.toNat

def bytes (cs : List Char) : List UInt8 := cs.map fun c => UInt8.ofNat c.toNat

def ofText (s : String) : String := String.ofList (ofBytes (Text.Utf8.encode s.toList))

def toText (s : String) : String := String.ofList (Text.Utf8.decode (bytes s.toList))

theorem bytes_ofBytes (bs : List UInt8) : bytes (ofBytes bs) = bs := by
  have h (b : UInt8) : UInt8.ofNat (Char.ofNat b.toNat).toNat = b := by
    have hv : b.toNat.isValidChar := .inl (by have := b.toNat_lt; omega)
    rw [Char.ofNat, dif_pos hv]
    exact UInt8.ofNat_toNat
  simp [bytes, ofBytes, Function.comp_def, h]

end PlaybookScan.Shell.Octets

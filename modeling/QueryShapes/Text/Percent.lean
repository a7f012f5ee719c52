import QueryShapes.Text.Utf8

/-!
# Percent encoding

- `encode`: the bytes of a character that is not kept are written in hexadecimal after a `%`.
- `decode`: bytes written that way are read back; a `%` without two digits stands for itself.
-/

namespace QueryShapes.Text.Percent

def hexDigit (n : Nat) : Char := (Nat.digitChar n).toUpper

def byteText (b : UInt8) : List Char := ['%', hexDigit (b.toNat / 16), hexDigit (b.toNat % 16)]

/-- Encodes the characters that do not pass the test. -/
def encode (kept : Char → Bool) (text : List Char) : List Char :=
  text.flatMap fun c => if kept c then [c] else (String.utf8EncodeChar c).flatMap byteText

def hexValue? (b : UInt8) : Option UInt8 :=
  let c := Char.ofNat b.toNat
  if c.isDigit then some (b - 0x30)
  else if 'a' ≤ c ∧ c ≤ 'f' then some (b - 0x57)
  else if 'A' ≤ c ∧ c ≤ 'F' then some (b - 0x37)
  else none

def decode : List UInt8 → List UInt8
  | 0x25 :: high :: low :: rest =>
    match hexValue? high, hexValue? low with
    | some h, some l => (h * 16 + l) :: decode rest
    | _, _ => 0x25 :: decode (high :: low :: rest)
  | b :: rest => b :: decode rest
  | [] => []

theorem encode_append (kept : Char → Bool) (a b : List Char) :
    encode kept (a ++ b) = encode kept a ++ encode kept b := by
  simp [encode]

end QueryShapes.Text.Percent

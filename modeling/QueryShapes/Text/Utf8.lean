/-!
# UTF-8

- `decode?`: the characters of bytes that are well-formed throughout.
- `decodeLossy`: every longest beginning of a sequence that goes wrong becomes one replacement
  character.
-/

namespace QueryShapes.Text.Utf8

def encode (text : List Char) : List UInt8 := text.flatMap String.utf8EncodeChar

/-- A byte lies between two others. -/
def within (low high : UInt8) (b : UInt8) : Bool := low ≤ b && b ≤ high

/-- What a leading byte asks for: its bits of the code point, the bounds of the next byte, and how
many bytes follow. -/
def lead? (b : UInt8) : Option (Nat × UInt8 × UInt8 × Nat) :=
  if within 0xC2 0xDF b then some (b.toNat - 0xC0, 0x80, 0xBF, 1)
  else if b = 0xE0 then some (0, 0xA0, 0xBF, 2)
  else if b = 0xED then some (0xD, 0x80, 0x9F, 2)
  else if within 0xE1 0xEF b then some (b.toNat - 0xE0, 0x80, 0xBF, 2)
  else if b = 0xF0 then some (0, 0x90, 0xBF, 3)
  else if within 0xF1 0xF3 b then some (b.toNat - 0xF0, 0x80, 0xBF, 3)
  else if b = 0xF4 then some (4, 0x80, 0x8F, 3)
  else none

/-- Takes the bytes that continue a sequence: the character if it is whole, and how many bytes
there were. -/
def continuation (bits : Nat) (low high : UInt8) : Nat → List UInt8 → Option Char × Nat
  | 0, _ => (some (Char.ofNat bits), 0)
  | _ + 1, [] => (none, 0)
  | missing + 1, b :: rest =>
    if within low high b then
      let (c, taken) := continuation (bits * 0x40 + (b.toNat - 0x80)) 0x80 0xBF missing rest
      (c, taken + 1)
    else (none, 0)

/-- The character that a byte starts, and how many bytes after it belong to it. -/
def head (b : UInt8) (rest : List UInt8) : Option Char × Nat :=
  if b < 0x80 then (some (Char.ofNat b.toNat), 0)
  else match lead? b with
    | some (bits, low, high, missing) => continuation bits low high missing rest
    | none => (none, 0)

/-- The characters of the bytes after those to be skipped; what is no character is missing. -/
def decodeAfter : (skipped : Nat) → List UInt8 → List (Option Char)
  | _, [] => []
  | skipped + 1, _ :: rest => decodeAfter skipped rest
  | 0, b :: rest => (head b rest).1 :: decodeAfter (head b rest).2 rest

def decode? (bytes : List UInt8) : Option (List Char) := (decodeAfter 0 bytes).mapM id

def decodeLossy (bytes : List UInt8) : List Char :=
  (decodeAfter 0 bytes).map (·.getD '\uFFFD')

end QueryShapes.Text.Utf8

/-!
# Random identifiers

- `uuid`: the text of a version 4 UUID made of sixteen bytes.
- `uuid_length`: it has 36 characters.
-/

namespace QueryShapes.Uuid

def byteText (b : UInt8) : List Char := [Nat.digitChar (b.toNat / 16), Nat.digitChar (b.toNat % 16)]

def hex (bytes : List UInt8) : List Char := bytes.flatMap byteText

/-- The byte at a place with the bits of the version and the variant. -/
def marked (place : Nat) (b : UInt8) : UInt8 :=
  if place = 6 then b &&& 0x0F ||| 0x40
  else if place = 8 then b &&& 0x3F ||| 0x80
  else b

/-- The text of a version 4 UUID made of sixteen bytes. -/
def uuid (bytes : Vector UInt8 16) : List Char :=
  let part := fun start size => hex ((bytes.toList.mapIdx marked).extract start (start + size))
  part 0 4 ++ '-' :: part 4 2 ++ '-' :: part 6 2 ++ '-' :: part 8 2 ++ '-' :: part 10 6

theorem hex_length (bytes : List UInt8) : (hex bytes).length = 2 * bytes.length := by
  induction bytes with
  | nil => rfl
  | cons b rest ih => simp [hex, byteText] at ih ⊢; omega

theorem uuid_length (bytes : Vector UInt8 16) : (uuid bytes).length = 36 := by
  simp [uuid, hex_length]

end QueryShapes.Uuid

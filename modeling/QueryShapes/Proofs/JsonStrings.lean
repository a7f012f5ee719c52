import QueryShapes.Json.Printer
import QueryShapes.Json.Reader

/-!
# Strings in JSON

- `stringBody?_escape`: reading gives back the characters that were escaped, and what follows them.
- `quote_cancel`: so a quoted text tells where it ends.
-/

namespace QueryShapes.Json

/-- The four digits that a control character is written with. -/
theorem hexNumber?_control : ∀ n < 0x20,
    hexNumber? ['0', '0', hexDigit (n / 16), hexDigit (n % 16)] = some n := by
  decide

theorem stringBody?_escapeChar (c : Char) (rest : List Char) :
    stringBody? (escapeChar c ++ rest) =
      (stringBody? rest).map fun read => (c.toNat :: read.1, read.2) := by
  unfold escapeChar
  split
  iterate 7
    cases body : stringBody? rest <;> simp [stringBody?, escaped?, body]
  rename_i quotation backslash _ _ _ _ _
  split
  · rename_i control
    cases body : stringBody? rest <;>
      simp [stringBody?, hexNumber?_control c.toNat control, body]
  · rename_i printable
    rw [List.singleton_append, stringBody?]
    · rw [if_neg printable]
    all_goals grind

theorem stringBody?_escape (text rest : List Char) :
    stringBody? (escape text ++ '"' :: rest) = some (text.map Char.toNat, rest) := by
  induction text with
  | nil => rfl
  | cons c text ih =>
    rw [show escape (c :: text) = escapeChar c ++ escape text from rfl, List.append_assoc,
      stringBody?_escapeChar, ih]
    rfl

/-- Two quoted texts in front of one text are the same. -/
theorem quote_cancel {a b : String} {r s : List Char} (h : quote a ++ r = quote b ++ s) :
    a = b ∧ r = s := by
  have bodies : escape a.toList ++ '"' :: r = escape b.toList ++ '"' :: s := by
    simpa [quote] using h
  have read := congrArg stringBody? bodies
  rw [stringBody?_escape, stringBody?_escape] at read
  obtain ⟨units, rest⟩ := Prod.mk.inj (Option.some_inj.mp read)
  have chars : a.toList = b.toList :=
    (List.map_inj_right fun _ _ => Char.toNat_inj.mp).mp units
  exact ⟨String.toList_inj.mp chars, rest⟩

end QueryShapes.Json

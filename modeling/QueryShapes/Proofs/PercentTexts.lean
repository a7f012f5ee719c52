import QueryShapes.Proofs.LowerCase
import QueryShapes.Text.Percent

/-!
# Percent-encoded texts

- `encode_eq_self_iff`: encoding changes a text unless all of its characters are kept.
- `decode_encode`: decoding gives back the bytes of the text.
-/

namespace QueryShapes.Text

/-- Texts of the same bytes are the same. -/
theorem Utf8.encode_injective {a b : List Char} (h : encode a = encode b) : a = b := by
  have bytes : (String.ofList a).toByteArray = (String.ofList b).toByteArray := by
    rw [String.toByteArray_ofList, String.toByteArray_ofList, List.utf8Encode, List.utf8Encode]
    exact congrArg List.toByteArray h
  exact String.ofList_inj.mp (String.toByteArray_inj.mp bytes)

namespace Percent

variable {kept : Char → Bool}

/-! ## What is encoded -/

theorem encode_of_kept {text : List Char} (h : ∀ c ∈ text, kept c = true) :
    encode kept text = text := by
  induction text with
  | nil => rfl
  | cons c rest ih =>
    have here : kept c = true := h c List.mem_cons_self
    have later := ih fun d hd => h d (List.mem_cons_of_mem c hd)
    rw [encode, List.flatMap_cons, if_pos here]
    exact congrArg (c :: ·) later

/-- Whatever is not kept becomes three characters for each of its bytes. -/
theorem length_encode (kept : Char → Bool) (text : List Char) :
    text.length + 2 * text.countP (!kept ·) ≤ (encode kept text).length := by
  induction text with
  | nil => exact Nat.le_refl 0
  | cons c rest ih =>
    have step : encode kept (c :: rest) =
        (if kept c then [c] else (String.utf8EncodeChar c).flatMap byteText) ++ encode kept rest :=
      List.flatMap_cons
    rw [step, List.length_append, List.length_cons]
    by_cases here : kept c = true
    · rw [if_pos here, List.countP_cons_of_neg (by simp [here]), List.length_singleton]
      omega
    · obtain ⟨b, others, bytes⟩ := List.exists_cons_of_ne_nil (String.utf8EncodeChar_ne_nil (c := c))
      rw [if_neg here, List.countP_cons_of_pos (by simp [here]), bytes, List.flatMap_cons,
        List.length_append, show (byteText b).length = 3 from rfl]
      omega

theorem encode_eq_self_iff {text : List Char} :
    encode kept text = text ↔ ∀ c ∈ text, kept c = true := by
  constructor
  · intro same
    have length := length_encode kept text
    rw [same] at length
    have none : text.countP (!kept ·) = 0 := by omega
    intro c hc
    simpa using List.countP_eq_zero.mp none c hc
  · exact encode_of_kept

/-! ## Decoding -/

theorem utf8_ascii {c : Char} (ascii : c.toNat < 128) :
    String.utf8EncodeChar c = [UInt8.ofNat c.toNat] :=
  forall_ascii (p := fun c => String.utf8EncodeChar c = [UInt8.ofNat c.toNat]) (by decide) ascii

theorem decode_cons {b : UInt8} (plain : b ≠ 0x25) (rest : List UInt8) :
    decode (b :: rest) = b :: decode rest := by
  rw [decode]
  intro high low others mark
  exact absurd mark plain

theorem hexDigit_ascii : ∀ n < 16, (hexDigit n).toNat < 128 := by
  decide

theorem hexValue?_hexDigit : ∀ n < 16,
    hexValue? (UInt8.ofNat (hexDigit n).toNat) = some (UInt8.ofNat n) := by
  decide

theorem decode_byteText (b : UInt8) (rest : List UInt8) :
    decode (Utf8.encode (byteText b) ++ rest) = b :: decode rest := by
  have small : b.toNat < 256 := b.toNat_lt
  have high : b.toNat / 16 < 16 := by omega
  have low : b.toNat % 16 < 16 := by omega
  have bytes : Utf8.encode (byteText b) = [0x25, UInt8.ofNat (hexDigit (b.toNat / 16)).toNat,
      UInt8.ofNat (hexDigit (b.toNat % 16)).toNat] := by
    simp only [Utf8.encode, byteText, List.flatMap_cons, List.flatMap_nil,
      utf8_ascii (hexDigit_ascii _ high), utf8_ascii (hexDigit_ascii _ low)]
    rfl
  have joined : UInt8.ofNat (b.toNat / 16) * 16 + UInt8.ofNat (b.toNat % 16) = b := by
    apply UInt8.toNat_inj.mp
    simp
    omega
  rw [bytes, List.cons_append, List.cons_append, List.cons_append, List.nil_append, decode,
    hexValue?_hexDigit _ high, hexValue?_hexDigit _ low]
  exact congrArg (· :: decode rest) joined

theorem decode_byteTexts (bytes rest : List UInt8) :
    decode (Utf8.encode (bytes.flatMap byteText) ++ rest) = bytes ++ decode rest := by
  induction bytes with
  | nil => rfl
  | cons b bytes ih =>
    rw [List.flatMap_cons, Utf8.encode, List.flatMap_append, List.append_assoc]
    rw [← Utf8.encode, ← Utf8.encode, decode_byteText, ih, List.cons_append]

/-- Where all kept characters are plain ones of ASCII, decoding gives back the bytes of the text. -/
theorem decode_encode (plain : ∀ c, kept c = true → c.toNat < 128 ∧ c ≠ '%') (text : List Char) :
    decode (Utf8.encode (encode kept text)) = Utf8.encode text := by
  induction text with
  | nil => rfl
  | cons c rest ih =>
    have step : Utf8.encode (encode kept (c :: rest)) =
        Utf8.encode (if kept c then [c] else (String.utf8EncodeChar c).flatMap byteText) ++
          Utf8.encode (encode kept rest) := by
      rw [encode, List.flatMap_cons, Utf8.encode, List.flatMap_append]
      rfl
    have bytes : Utf8.encode (c :: rest) = String.utf8EncodeChar c ++ Utf8.encode rest :=
      List.flatMap_cons
    rw [step, bytes]
    by_cases here : kept c = true
    · obtain ⟨ascii, unmarked⟩ := plain c here
      have alone : Utf8.encode [c] = [UInt8.ofNat c.toNat] := by
        rw [Utf8.encode, List.flatMap_singleton, utf8_ascii ascii]
      have other : UInt8.ofNat c.toNat ≠ 0x25 :=
        forall_ascii (p := fun c => c ≠ '%' → UInt8.ofNat c.toNat ≠ 0x25) (by decide) ascii unmarked
      rw [if_pos here, alone, List.singleton_append, decode_cons other, ih, utf8_ascii ascii,
        List.singleton_append]
    · rw [if_neg here, decode_byteTexts, ih]

end Percent

end QueryShapes.Text

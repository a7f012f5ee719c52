/-!
# Cutting texts

- `after?_append`: what follows a beginning is found again.
- `cutAt?_some`: the two parts with the separator between them make up the text.
- `cutAt?_append`: a text is cut at its first separator.
-/

namespace QueryShapes.Text

/-- The text after a given beginning. -/
def after? : (beginning text : List Char) → Option (List Char)
  | [], text => some text
  | _ :: _, [] => none
  | b :: beginning, c :: text => if b = c then after? beginning text else none

theorem after?_append (beginning rest : List Char) :
    after? beginning (beginning ++ rest) = some rest := by
  induction beginning with
  | nil => rfl
  | cons b beginning ih => simp [after?, ih]

/-- The parts before and after the first character that passes the test. -/
def cutAt? (isSeparator : Char → Bool) : List Char → Option (List Char × List Char)
  | [] => none
  | c :: rest =>
    if isSeparator c then some ([], rest)
    else (cutAt? isSeparator rest).map fun (before, after) => (c :: before, after)

theorem cutAt?_some {p : Char → Bool} {text before after : List Char}
    (h : cutAt? p text = some (before, after)) :
    ∃ c, p c = true ∧ text = before ++ c :: after := by
  induction text generalizing before with
  | nil => simp [cutAt?] at h
  | cons c rest ih =>
    rw [cutAt?] at h
    split at h
    · rename_i hc
      obtain ⟨rfl, rfl⟩ := h
      exact ⟨c, hc, rfl⟩
    · obtain ⟨⟨b, a⟩, hr, he⟩ := Option.map_eq_some_iff.mp h
      obtain ⟨rfl, rfl⟩ := he
      obtain ⟨d, hd, rfl⟩ := ih hr
      exact ⟨d, hd, rfl⟩

theorem cutAt?_append {p : Char → Bool} {before : List Char} (free : ∀ c ∈ before, p c = false)
    {separator : Char} (separates : p separator = true) (after : List Char) :
    cutAt? p (before ++ separator :: after) = some (before, after) := by
  induction before with
  | nil => simp [cutAt?, separates]
  | cons c before ih =>
    have here : p c = false := free c List.mem_cons_self
    have later := ih fun d hd => free d (List.mem_cons_of_mem c hd)
    rw [List.cons_append, cutAt?, if_neg (by simp [here]), later]
    rfl

end QueryShapes.Text

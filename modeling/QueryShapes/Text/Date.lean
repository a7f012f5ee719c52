import QueryShapes.Text.Digit

/-!
# Date texts

A date text is four digits, two digits and two digits with hyphens between them. The digits may be
of any script, and nothing checks the calendar.

- `isDateText_length`: a date text has ten characters.
-/

namespace QueryShapes.Text

/-- The year, month and day characters of a text of the shape `YYYY-MM-DD`. -/
def dateFields? : List Char → Option (List Char × List Char × List Char)
  | [y₁, y₂, y₃, y₄, '-', m₁, m₂, '-', d₁, d₂] => some ([y₁, y₂, y₃, y₄], [m₁, m₂], [d₁, d₂])
  | _ => none

def isDateText (text : String) : Bool :=
  match dateFields? text.toList with
  | some (year, month, day) => year.all isDigit && month.all isDigit && day.all isDigit
  | none => false

theorem isDateText_length {text : String} (h : isDateText text = true) :
    text.toList.length = 10 := by
  unfold isDateText at h
  split at h
  · rename_i heq
    unfold dateFields? at heq
    split at heq
    · rename_i hl
      simp [hl]
    · cases heq
  · cases h

end QueryShapes.Text

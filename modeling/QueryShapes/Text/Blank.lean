import QueryShapes.Text.Ranges

/-!
# White space

The Unicode property `White_Space`, and the two things texts are cut by it for: trimming and
splitting into words.

- `isBlank_of_isWhitespace`: every blank that Lean's own `Char.isWhitespace` knows is one here.
- `not_isBlank_of_mem_words`: no word holds a blank.
-/

namespace QueryShapes.Text

def blanks : Ranges :=
  [(0x9, 0xD), (0x20, 0x20), (0x85, 0x85), (0xA0, 0xA0), (0x1680, 0x1680),
  (0x2000, 0x200A), (0x2028, 0x2029), (0x202F, 0x202F), (0x205F, 0x205F), (0x3000, 0x3000)]

def isBlank (c : Char) : Bool := blanks.contains c

theorem isBlank_of_isWhitespace (c : Char) (h : c.isWhitespace = true) : isBlank c = true := by
  simp only [Char.isWhitespace, Bool.or_eq_true, decide_eq_true_eq] at h
  rcases h with ((rfl | rfl) | rfl) | rfl <;> decide

/-- Drops the trailing characters that satisfy `p`. -/
def trimEnd (p : Char → Bool) (text : List Char) : List Char :=
  (text.reverse.dropWhile p).reverse

/-- Drops blanks at both ends. -/
def trim (text : List Char) : List Char :=
  trimEnd isBlank (text.dropWhile isBlank)

/-- Pieces between single separators; a text with no separator is one piece. -/
def splitOn (isSeparator : Char → Bool) : List Char → List (List Char)
  | [] => [[]]
  | c :: rest =>
    if isSeparator c then [] :: splitOn isSeparator rest
    else match splitOn isSeparator rest with
      | [] => [[c]]
      | piece :: pieces => (c :: piece) :: pieces

/-- Maximal runs of characters that are not blank. -/
def words (text : List Char) : List (List Char) :=
  (splitOn isBlank text).filter (! ·.isEmpty)

/-- Words joined by one space. -/
def unwords (ws : List (List Char)) : List Char :=
  List.intercalate [' '] ws

theorem not_separator_of_mem_splitOn (p : Char → Bool) (text piece : List Char)
    (h : piece ∈ splitOn p text) : ∀ c ∈ piece, p c = false := by
  induction text generalizing piece with
  | nil => simp_all [splitOn]
  | cons c rest ih =>
    rw [splitOn] at h
    split at h
    · rcases List.mem_cons.mp h with rfl | h
      · simp
      · exact ih piece h
    · rename_i hc
      split at h
      · simp_all
      · rename_i first others hs
        rcases List.mem_cons.mp h with rfl | h
        · intro d hd
          rcases List.mem_cons.mp hd with rfl | hd
          · simpa using hc
          · exact ih first (by simp [hs]) d hd
        · exact ih piece (by simp [hs, h])

theorem not_isBlank_of_mem_words {text word : List Char} (h : word ∈ words text) :
    ∀ c ∈ word, isBlank c = false :=
  not_separator_of_mem_splitOn isBlank text word (List.mem_filter.mp h).1

end QueryShapes.Text

import Mathlib.Data.List.DropRight
import QueryShapes.Proofs.LowerCase

/-!
# Words of a text

- `words_append_blank`: a blank parts the words before it from those after it.
- `words_unwords`: joining words and splitting again gives the words.
- `flatten_words`: the words hold all that is not blank.
- `words_concat`: a character that is not blank ends the last word.
- `lower_unwords`: words are lowered one by one.
- `trimEnd_append`: trimming stops at the last character that is not to be trimmed.
- `trimEnd_dropWhile`: the two ends of a text are trimmed apart.
-/

namespace QueryShapes.Text

variable {p : Char → Bool}

/-! ## Splitting -/

theorem splitOn_ne_nil (p : Char → Bool) (text : List Char) : splitOn p text ≠ [] := by
  cases text with
  | nil => simp [splitOn]
  | cons c rest =>
    rw [splitOn]
    split
    · simp
    · split <;> simp

theorem splitOn_cons_of_pos {c : Char} (h : p c = true) (rest : List Char) :
    splitOn p (c :: rest) = [] :: splitOn p rest := by
  rw [splitOn, if_pos h]

theorem splitOn_cons_of_neg {c : Char} (h : p c = false) {rest piece : List Char}
    {pieces : List (List Char)} (split : splitOn p rest = piece :: pieces) :
    splitOn p (c :: rest) = (c :: piece) :: pieces := by
  rw [splitOn, if_neg (by simp [h]), split]

theorem splitOn_append {c : Char} (h : p c = true) (text rest : List Char) :
    splitOn p (text ++ c :: rest) = splitOn p text ++ splitOn p rest := by
  induction text with
  | nil => exact splitOn_cons_of_pos h rest
  | cons d text ih =>
    cases hd : p d with
    | true =>
      rw [List.cons_append, splitOn_cons_of_pos hd, splitOn_cons_of_pos hd, ih]
      rfl
    | false =>
      obtain ⟨piece, pieces, split⟩ := List.exists_cons_of_ne_nil (splitOn_ne_nil p text)
      rw [split] at ih
      rw [List.cons_append, splitOn_cons_of_neg hd ih, splitOn_cons_of_neg hd split]
      rfl

theorem flatten_splitOn (p : Char → Bool) (text : List Char) :
    (splitOn p text).flatten = text.filter (!p ·) := by
  induction text with
  | nil => rfl
  | cons c rest ih =>
    cases hc : p c with
    | true =>
      rw [splitOn_cons_of_pos hc, List.flatten_cons, ih, List.filter_cons_of_neg (by simp [hc])]
      rfl
    | false =>
      obtain ⟨piece, pieces, split⟩ := List.exists_cons_of_ne_nil (splitOn_ne_nil p rest)
      rw [split] at ih
      rw [splitOn_cons_of_neg hc split, List.filter_cons_of_pos (by simp [hc]), ← ih]
      rfl

theorem splitOn_of_forall_not {text : List Char} (h : ∀ c ∈ text, p c = false) :
    splitOn p text = [text] := by
  induction text with
  | nil => rfl
  | cons c rest ih =>
    obtain ⟨here, later⟩ := List.forall_mem_cons.mp h
    exact splitOn_cons_of_neg here (ih later)

/-- The first piece ends at the first separator. -/
theorem splitOn_eq_cons (p : Char → Bool) (text : List Char) :
    ∃ pieces, splitOn p text = text.takeWhile (!p ·) :: pieces := by
  induction text with
  | nil => exact ⟨[], rfl⟩
  | cons c rest ih =>
    obtain ⟨pieces, split⟩ := ih
    cases hc : p c with
    | true => exact ⟨splitOn p rest, by rw [splitOn_cons_of_pos hc, List.takeWhile_cons, hc]; rfl⟩
    | false => exact ⟨pieces, by rw [splitOn_cons_of_neg hc split, List.takeWhile_cons, hc]; rfl⟩

/-- A character that is no separator ends the last piece. -/
theorem splitOn_concat {c : Char} (h : p c = false) (text : List Char) :
    ∃ pieces piece, splitOn p (text ++ [c]) = pieces ++ [piece ++ [c]] := by
  induction text with
  | nil => exact ⟨[], [], splitOn_cons_of_neg h rfl⟩
  | cons d text ih =>
    obtain ⟨pieces, piece, split⟩ := ih
    cases hd : p d with
    | true => exact ⟨[] :: pieces, piece, by rw [List.cons_append, splitOn_cons_of_pos hd, split]; rfl⟩
    | false =>
      cases pieces with
      | nil => exact ⟨[], d :: piece, splitOn_cons_of_neg hd split⟩
      | cons first pieces => exact ⟨(d :: first) :: pieces, piece, splitOn_cons_of_neg hd split⟩

/-! ## Words -/

theorem words_append_blank {c : Char} (blank : isBlank c = true) (text rest : List Char) :
    words (text ++ c :: rest) = words text ++ words rest := by
  rw [words, splitOn_append blank, List.filter_append]
  rfl

theorem words_cons_blank {c : Char} (blank : isBlank c = true) (rest : List Char) :
    words (c :: rest) = words rest :=
  words_append_blank blank [] rest

theorem words_dropWhile (text : List Char) : words (text.dropWhile isBlank) = words text := by
  induction text with
  | nil => rfl
  | cons c rest ih =>
    rw [List.dropWhile_cons]
    split
    · rename_i blank
      rw [ih, words_cons_blank blank]
    · rfl

theorem words_blanks_append {blanks : List Char} (blank : ∀ c ∈ blanks, isBlank c = true)
    (text : List Char) : words (blanks ++ text) = words text := by
  rw [← words_dropWhile, List.dropWhile_append_of_pos blank, words_dropWhile]

theorem words_append_blanks {blanks : List Char} (blank : ∀ c ∈ blanks, isBlank c = true)
    (text : List Char) : words (text ++ blanks) = words text := by
  cases blanks with
  | nil => rw [List.append_nil]
  | cons c rest =>
    obtain ⟨here, later⟩ := List.forall_mem_cons.mp blank
    have none : words rest = [] := by
      rw [← List.append_nil rest, words_blanks_append later]
      rfl
    rw [words_append_blank here, none, List.append_nil]

theorem flatten_words (text : List Char) : (words text).flatten = text.filter (!isBlank ·) := by
  rw [words, List.flatten_filter_not_isEmpty, flatten_splitOn]

theorem words_concat {c : Char} (solid : isBlank c = false) (text : List Char) :
    ∃ ws w, words (text ++ [c]) = ws ++ [w ++ [c]] := by
  obtain ⟨pieces, piece, split⟩ := splitOn_concat solid text
  exact ⟨pieces.filter (!·.isEmpty), piece, by simp [words, split]⟩

/-- A word: not empty and without blanks. -/
def IsWord (w : List Char) : Prop := w ≠ [] ∧ ∀ c ∈ w, isBlank c = false

theorem isWord_of_all {ws : List (List Char)}
    (h : ws.all (fun w => !w.isEmpty && w.all (!isBlank ·)) = true) : ∀ w ∈ ws, IsWord w := by
  intro w hw
  obtain ⟨nonempty, solid⟩ := Bool.and_eq_true_iff.mp (List.all_eq_true.mp h w hw)
  exact ⟨by simpa using nonempty, by simpa using solid⟩

theorem isWord_of_mem_words {text w : List Char} (h : w ∈ words text) : IsWord w :=
  ⟨by simpa using (List.mem_filter.mp h).2, not_isBlank_of_mem_words h⟩

theorem words_of_isWord {w : List Char} (word : IsWord w) : words w = [w] := by
  rw [words, splitOn_of_forall_not word.2, List.filter_cons_of_pos (by simpa using word.1)]
  rfl

theorem IsWord.lower {w : List Char} (word : IsWord w) : IsWord (lower w) := by
  refine ⟨lower_ne_nil word.1, ?_⟩
  intro d hd
  obtain ⟨_, c, hc, blank, _⟩ := mem_lowerAfter hd
  exact blank.trans (word.2 c hc)

/-! ## Joined words -/

theorem unwords_cons_cons (w w' : List Char) (ws : List (List Char)) :
    unwords (w :: w' :: ws) = w ++ ' ' :: unwords (w' :: ws) := by
  rw [unwords, List.intercalate_cons_cons, List.append_assoc]
  rfl

theorem unwords_singleton (w : List Char) : unwords [w] = w :=
  List.intercalate_singleton

/-- The first word of a text that starts with a word goes on up to the next blank. -/
theorem unwords_words_append {w : List Char} (word : IsWord w) (text : List Char) :
    ∃ tail, unwords (words (w ++ text)) = w ++ (text.takeWhile (!isBlank ·) ++ tail) ∧
      ∀ c ∈ tail.head?, c = ' ' := by
  obtain ⟨nonempty, solid⟩ := word
  obtain ⟨pieces, split⟩ := splitOn_eq_cons isBlank (w ++ text)
  have first : (w ++ text).takeWhile (!isBlank ·) = w ++ text.takeWhile (!isBlank ·) :=
    List.takeWhile_append_of_pos fun c hc => by simp [solid c hc]
  have kept : words (w ++ text) =
      (w ++ text.takeWhile (!isBlank ·)) :: pieces.filter (!·.isEmpty) := by
    rw [words, split, first, List.filter_cons_of_pos (by simp [nonempty])]
  cases others : pieces.filter (!·.isEmpty) with
  | nil => exact ⟨[], by rw [kept, others, unwords_singleton, List.append_nil], by simp⟩
  | cons next more =>
    refine ⟨' ' :: unwords (next :: more), ?_, by simp⟩
    rw [kept, others, unwords_cons_cons, List.append_assoc]

theorem words_unwords {ws : List (List Char)} (each : ∀ w ∈ ws, IsWord w) :
    words (unwords ws) = ws := by
  induction ws with
  | nil => rfl
  | cons w ws ih =>
    obtain ⟨here, later⟩ := List.forall_mem_cons.mp each
    cases ws with
    | nil => rw [unwords_singleton, words_of_isWord here]
    | cons w' ws =>
      have space : isBlank ' ' = true := by decide
      rw [unwords_cons_cons, words_append_blank space, words_of_isWord here, ih later]
      rfl

theorem lower_unwords (ws : List (List Char)) : lower (unwords ws) = unwords (ws.map lower) := by
  induction ws with
  | nil => rfl
  | cons w ws ih =>
    cases ws with
    | nil => simp [unwords_singleton]
    | cons w' ws =>
      rw [unwords_cons_cons, List.map_cons, List.map_cons, unwords_cons_cons, ← List.map_cons, ← ih]
      exact lowerAfter_append_space [] w (unwords (w' :: ws))

theorem count_unwords (ws : List (List Char)) : (unwords ws).count ';' = ws.flatten.count ';' := by
  induction ws with
  | nil => rfl
  | cons w ws ih =>
    cases ws with
    | nil => simp [unwords_singleton]
    | cons w' ws =>
      have space : (' ' == ';') = false := by decide
      rw [unwords_cons_cons, List.flatten_cons, List.count_append, List.count_append, ← ih,
        List.count_cons, space]
      simp

theorem unwords_concat (ws : List (List Char)) (w : List Char) (c : Char) :
    ∃ text, unwords (ws ++ [w ++ [c]]) = text ++ [c] := by
  induction ws with
  | nil => exact ⟨w, unwords_singleton _⟩
  | cons first ws ih =>
    obtain ⟨text, joined⟩ := ih
    obtain ⟨next, more, rest⟩ :=
      List.exists_cons_of_ne_nil (List.append_ne_nil_of_right_ne_nil ws (List.cons_ne_nil (w ++ [c]) []))
    refine ⟨first ++ ' ' :: text, ?_⟩
    rw [List.cons_append, rest, unwords_cons_cons, ← rest, joined]
    simp

/-! ## Trimming -/

theorem trimEnd_eq (p : Char → Bool) (text : List Char) : trimEnd p text = text.rdropWhile p := rfl

/-- The two ends of a text are trimmed apart. -/
theorem trimEnd_dropWhile (p q : Char → Bool) (text : List Char) :
    trimEnd p (text.dropWhile q) = (trimEnd p text).dropWhile q := by
  simp only [trimEnd_eq]
  induction text using List.reverseRecOn with
  | nil => simp
  | append_singleton text c ih =>
    by_cases hc : p c = true
    · rw [List.rdropWhile_concat_pos _ _ _ hc, List.dropWhile_append, ← ih]
      split
      · rename_i all
        rw [List.isEmpty_iff.mp all]
        by_cases hq : q c <;> simp [hq, List.rdropWhile_singleton, hc]
      · rw [List.rdropWhile_concat_pos _ _ _ hc]
    · rw [List.rdropWhile_concat_neg _ _ _ hc, List.dropWhile_append]
      split
      · by_cases hq : q c <;> simp [hq, List.rdropWhile_singleton, hc]
      · rw [List.rdropWhile_concat_neg _ _ _ hc]

/-- Trimming stops at a last character that is not to be trimmed. -/
theorem trimEnd_append {text : List Char} (stops : text.getLast?.any p = false) (rest : List Char) :
    trimEnd p (text ++ rest) = text ++ trimEnd p rest := by
  simp only [trimEnd_eq]
  induction rest using List.reverseRecOn with
  | nil =>
    rw [List.append_nil, List.rdropWhile_nil, List.append_nil, List.rdropWhile_eq_self_iff]
    intro nonempty
    simpa [List.getLast?_eq_some_getLast nonempty] using stops
  | append_singleton rest c ih =>
    rw [← List.append_assoc, List.rdropWhile_concat, List.rdropWhile_concat, ih]
    split
    · rfl
    · rw [List.append_assoc]

theorem stops_mono {q : Char → Bool} (within : ∀ c, p c = true → q c = true) {text : List Char}
    (stops : text.getLast?.any q = false) : text.getLast?.any p = false := by
  cases last : text.getLast? with
  | none => rfl
  | some c =>
    rw [last] at stops
    exact Bool.eq_false_iff.mpr fun h => Bool.false_ne_true (stops.symm.trans (within c h))

theorem trimEnd_of_stops {text : List Char} (stops : text.getLast?.any p = false) :
    trimEnd p text = text := by
  simpa [trimEnd] using trimEnd_append stops []

theorem trimEnd_append_of_forall {rest : List Char} (h : ∀ c ∈ rest, p c = true)
    (text : List Char) : trimEnd p (text ++ rest) = trimEnd p text := by
  rw [trimEnd, List.reverse_append, List.dropWhile_append_of_pos (by simpa using h), trimEnd]

theorem trimEnd_stops (p : Char → Bool) (text : List Char) :
    (trimEnd p text).getLast?.any p = false := by
  by_cases empty : trimEnd p text = []
  · rw [empty]
    rfl
  · rw [List.getLast?_eq_some_getLast empty]
    exact Bool.eq_false_iff.mpr (List.rdropWhile_last_not p text empty)

theorem words_trimEnd (text : List Char) : words (trimEnd isBlank text) = words text := by
  have whole : trimEnd isBlank text ++ text.rtakeWhile isBlank = text :=
    List.rdropWhile_append_rtakeWhile
  have blank : ∀ c ∈ text.rtakeWhile isBlank, isBlank c = true :=
    fun _ hc => List.mem_rtakeWhile_imp hc
  rw [← words_append_blanks blank, whole]

end QueryShapes.Text

import QueryShapes.Proofs.FirstWord
import QueryShapes.Proofs.NormalText
import QueryShapes.Proofs.ScannedRelation

/-!
# The kind of a selection

A statement's kind is told from the beginning of its normal form, a query is read from tokens. The two
agree on a selection whose text starts with its `SELECT`, in ASCII, before a blank or a parenthesis.

- `normal_of_word`: the normal form of a text that starts with a word starts with that word.
- `ofNormal_of_mark_before`: what starts with a semicolon or a comment is a mutation.
- `ofNormal_of_select`: what starts with the word `SELECT` before a blank or a parenthesis is read, or
  asks for a sign of life.
- `kind_of_select`: both, for the text of a query.
- `mutation_of_solid`: where anything else directly follows the word, the statement is a mutation too.
- `mutation_of_query`: so some queries are acknowledged as mutations.
-/

namespace QueryShapes.StatementKind

open Text

/-! ## Normal forms that start with a mark -/

theorem ofNormal_of_mark {mark : Char} (h : mark ∈ Sql.marks) (text : List Char) :
    ofNormal (mark :: text) = .mutation := by
  simp only [Sql.marks, List.mem_cons, List.not_mem_nil, or_false] at h
  obtain rfl | rfl | rfl := h <;> rfl

/-- A mark is a word of its own, and the same in lower case. -/
theorem mark_kept {mark : Char} (h : mark ∈ Sql.marks) :
    mark.toNat < 0x80 ∧ mark.toLower = mark ∧ isBlank mark = false := by
  simp only [Sql.marks, List.mem_cons, List.not_mem_nil, or_false] at h
  obtain rfl | rfl | rfl := h <;> decide

theorem ofNormal_lower_mark {mark : Char} (h : mark ∈ Sql.marks) (text : List Char) :
    ofNormal (lower (mark :: text)) = .mutation := by
  obtain ⟨ascii, kept, _⟩ := mark_kept h
  have same : lower (mark :: text) = mark :: lowerAfter [mark] text := by
    have begun : lowerAfter [] ([mark] ++ text) = [mark.toLower] ++ lowerAfter [mark] text :=
      lowerAfter_append_ascii [] (by simpa using ascii) text
    rwa [kept] at begun
  rw [same, ofNormal_of_mark h]

theorem isWord_of_mark {mark : Char} (h : mark ∈ Sql.marks) : IsWord [mark] :=
  ⟨by simp, by simpa using (mark_kept h).2.2⟩

/-! ## Normal forms that start with a word -/

/-- The normal form of a text that starts with a word, and goes on to a character that is not dropped. -/
theorem normal_of_word {blanks w : List Char} (blank : ∀ c ∈ blanks, isBlank c = true)
    (word : IsWord w) (middle : List Char) (stops : (w ++ middle).getLast?.any isClosing = false)
    (rest : List Char) :
    ∃ tail, normal (blanks ++ (w ++ middle) ++ rest) =
      lower (w ++ ((middle ++ unmarked rest).takeWhile (!isBlank ·) ++ tail)) ∧
      ∀ c ∈ tail.head?, c = ' ' := by
  have nonempty : w ++ middle ≠ [] := List.append_ne_nil_of_left_ne_nil word.1 middle
  have stops' : (blanks ++ (w ++ middle)).getLast?.any isClosing = false := by
    rwa [List.getLast?_append_of_ne_nil _ nonempty]
  obtain ⟨tail, joined, space⟩ := unwords_words_append word (middle ++ unmarked rest)
  refine ⟨tail, ?_, space⟩
  rw [normal_eq, unmarked_of_stops stops', List.append_assoc, words_blanks_append blank,
    List.append_assoc, joined]

theorem ofNormal_select {text : List Char} (reads : isRead ("select".toList ++ text) = true) :
    ofNormal ("select".toList ++ text) = .liveness ∨ ofNormal ("select".toList ++ text) = .read := by
  have listing : isListing ("select".toList ++ text) = false := rfl
  have described : described? ("select".toList ++ text) = none := rfl
  cases alive : isLiveness ("select".toList ++ text) with
  | true => exact .inl (by rw [ofNormal, alive]; rfl)
  | false => exact .inr (by rw [ofNormal, alive, listing, described, reads]; rfl)

/-- What may follow the word of a normal form that is read. -/
theorem isRead_select {text : List Char} (parted : ∀ c ∈ text.head?, c = ' ' ∨ c = '(')
    (before : List Char) : isRead ("select".toList ++ lowerAfter before text) = true := by
  cases text with
  | nil => rfl
  | cons c text =>
    obtain rfl | rfl := parted c rfl
    · have spaced : after? "select ".toList ("select".toList ++ lowerAfter before (' ' :: text)) =
          some (lowerAfter (' ' :: before) text) := after?_append "select ".toList _
      simp only [isRead, spaced, Option.isSome_some, Bool.or_true, Bool.true_or]
    · have opened : after? "select(".toList ("select".toList ++ lowerAfter before ('(' :: text)) =
          some (lowerAfter ('(' :: before) text) := after?_append "select(".toList _
      simp only [isRead, opened, Option.isSome_some, Bool.or_true]

/-- What follows the word otherwise leaves a mutation. -/
theorem ofNormal_select_solid {c : Char} (space : c ≠ ' ') (paren : c ≠ '(') (text : List Char) :
    ofNormal ("select".toList ++ c :: text) = .mutation := by
  have listing : isListing ("select".toList ++ c :: text) = false := rfl
  have described : described? ("select".toList ++ c :: text) = none := rfl
  have alive : isLiveness ("select".toList ++ c :: text) = false := by
    simp [isLiveness, after?, space, space.symm]
  have read : isRead ("select".toList ++ c :: text) = false := by
    simp [isRead, after?, space.symm, paren.symm]
  rw [ofNormal, alive, listing, described, read]
  rfl

/-! ## The word in the text -/

theorem upperChar_of_isClosing {c : Char} (h : isClosing c = true) : Sql.upperChar c = [c] := by
  by_cases ascii : c.toNat < 0x80
  · exact forall_ascii (p := fun c => isClosing c = true → Sql.upperChar c = [c]) (by decide)
      ascii h
  · unfold Sql.upperChar
    rw [if_neg ascii]
    split
    all_goals first | rfl | exact absurd h (by decide)

end QueryShapes.StatementKind

namespace QueryShapes

open StatementKind Text

theorem toLower_toUpper : ∀ n < 128, (Char.ofNat n).toUpper.toLower = (Char.ofNat n).toLower := by
  decide

namespace Sql.SelectAt

variable {text before word rest : List Char} (place : SelectAt text before word rest)
include place

theorem spelled : word.flatMap upperChar = "SELECT".toList := by
  have same := congrArg String.toList place.keyword
  rwa [upper, String.toList_ofList, String.toList_ofList] at same

theorem not_isClosing : ∀ c ∈ word, isClosing c = false := by
  intro c hc
  rw [Bool.eq_false_iff]
  intro closing
  have member : c ∈ "SELECT".toList := by
    rw [← place.spelled]
    exact List.mem_flatMap.mpr ⟨c, hc, by simp [upperChar_of_isClosing closing]⟩
  have solid : "SELECT".toList.all (!isClosing ·) = true := by decide
  simpa [closing] using List.all_eq_true.mp solid c member

theorem isWord : IsWord word := by
  refine ⟨?_, fun c hc => Bool.eq_false_iff.mpr fun blank => ?_⟩
  · rintro rfl
    exact absurd place.spelled (by decide)
  · exact Bool.eq_false_iff.mp (place.not_isClosing c hc) (isClosing_of_isBlank blank)

theorem stops (middle : List Char) : (middle ++ word).getLast?.any isClosing = false := by
  obtain ⟨begun, c, split⟩ := (List.eq_nil_or_concat word).resolve_left place.isWord.1
  have solid := place.not_isClosing c (by simp [split])
  simpa [split] using solid

/-- A word of ASCII letters is the same in lower case as well. -/
theorem lower_word (ascii : ∀ c ∈ word, c.toNat < 0x80) : word.map Char.toLower = "select".toList := by
  have upper : "SELECT".toList = word.map Char.toUpper := by
    have same := upper_ascii (String.ofList word) (by simpa using ascii)
    rw [place.keyword, String.toList_ofList] at same
    simpa using congrArg String.toList same
  have same : word.map Char.toLower = (word.map Char.toUpper).map Char.toLower := by
    rw [List.map_map]
    apply List.map_congr_left
    intro c hc
    exact (forall_ascii (p := fun c => c.toUpper.toLower = c.toLower) toLower_toUpper
      (ascii c hc)).symm
  rw [same, ← upper]
  rfl

end Sql.SelectAt

namespace StatementKind

/-- A statement that starts with a semicolon or a comment, before the `SELECT` of its query, is a
mutation. -/
theorem ofNormal_of_mark_before {text gaps more word rest : List Char} {mark : Char}
    (place : Sql.SelectAt text (gaps ++ mark :: more) word rest)
    (blank : ∀ c ∈ gaps, isBlank c = true) (h : mark ∈ Sql.marks) :
    ofNormal (normal text) = .mutation := by
  have split : text = gaps ++ ([mark] ++ (more ++ word)) ++ rest := by
    rw [place.split]
    simp
  have stops : ([mark] ++ (more ++ word)).getLast?.any isClosing = false := by
    rw [← List.append_assoc]
    exact place.stops _
  obtain ⟨tail, whole, _⟩ := normal_of_word blank (isWord_of_mark h) (more ++ word) stops rest
  rw [split, whole]
  exact ofNormal_lower_mark h _

/-- A statement that starts with the `SELECT` of its query, in letters of ASCII, before a blank or a
parenthesis is read, or asks for a sign of life. -/
theorem ofNormal_of_select {text before word rest : List Char}
    (place : Sql.SelectAt text before word rest) (blank : ∀ c ∈ before, isBlank c = true)
    (ascii : ∀ c ∈ word, c.toNat < 0x80) (parted : ∀ c ∈ rest.head?, isBlank c = true ∨ c = '(') :
    ofNormal (normal text) = .liveness ∨ ofNormal (normal text) = .read := by
  have split : text = before ++ (word ++ []) ++ rest := by
    rw [place.split]
    simp
  have stops : (word ++ []).getLast?.any isClosing = false := by
    rw [List.append_nil]
    exact place.stops []
  obtain ⟨tail, whole, space⟩ := normal_of_word blank place.isWord [] stops rest
  have follows : ∀ c ∈ ((unmarked rest).takeWhile (!isBlank ·) ++ tail).head?, c = ' ' ∨ c = '(' := by
    obtain ⟨dropped, kept⟩ : unmarked rest <+: rest :=
      (List.rdropWhile_prefix _ _).trans (List.rdropWhile_prefix _ _)
    generalize unmarked rest = left at kept ⊢
    cases left with
    | nil => exact fun c hc => .inl (space c hc)
    | cons d left =>
      have head : d ∈ rest.head? := by simp [← kept]
      obtain blank | rfl := parted d head
      · rw [List.takeWhile_cons, blank]
        exact fun c hc => .inl (space c hc)
      · intro c hc
        exact .inr (Option.some_inj.mp hc).symm
  have begun := lowerAfter_append_ascii [] ascii
    ((unmarked rest).takeWhile (!isBlank ·) ++ tail)
  rw [split, whole, List.nil_append, lower, begun, place.lower_word ascii]
  exact ofNormal_select (isRead_select follows _)

/-- A statement that starts with the `SELECT` of its query, in letters of ASCII, before any other character
of ASCII that is kept is a mutation. -/
theorem ofNormal_of_solid {text before word rest : List Char} {c : Char}
    (place : Sql.SelectAt text before word (c :: rest)) (blank : ∀ c ∈ before, isBlank c = true)
    (ascii : ∀ c ∈ word, c.toNat < 0x80) (asciiNext : c.toNat < 0x80) (kept : isClosing c = false)
    (paren : c ≠ '(') : ofNormal (normal text) = .mutation := by
  have split : text = before ++ (word ++ [c]) ++ rest := by
    rw [place.split]
    simp
  have solid : isBlank c = false := by
    rw [Bool.eq_false_iff] at kept ⊢
    exact fun blank => kept (isClosing_of_isBlank blank)
  obtain ⟨tail, whole, _⟩ := normal_of_word blank place.isWord [c] (by simpa using kept) rest
  have lowered : c.toLower ≠ ' ' ∧ c.toLower ≠ '(' :=
    forall_ascii (p := fun c => isBlank c = false → c ≠ '(' → c.toLower ≠ ' ' ∧ c.toLower ≠ '(')
      (by decide) asciiNext solid paren
  have each : ∀ d ∈ word ++ [c], d.toNat < 0x80 := by
    simpa [or_imp, forall_and] using ⟨ascii, asciiNext⟩
  have begun := lowerAfter_append_ascii [] each ((unmarked rest).takeWhile (!isBlank ·) ++ tail)
  have joined : word ++ (([c] ++ unmarked rest).takeWhile (!isBlank ·) ++ tail) =
      word ++ [c] ++ ((unmarked rest).takeWhile (!isBlank ·) ++ tail) := by
    simp [solid]
  rw [split, whole, joined, lower, begun, List.map_append, place.lower_word ascii, List.append_assoc]
  exact ofNormal_select_solid lowered.1 lowered.2 _

end StatementKind

/-- A query's text holds the word `SELECT` of the query, with blanks, comments and semicolons before it.
If there are only blanks before it, it is of ASCII letters, and a blank or a parenthesis comes next, the
statement is read, or asks for a sign of life. If there is anything but blanks before it, the statement
is a mutation. -/
theorem Query.kind_of_select {text : String} {query : Query} (read : Query.ofText? text = .ok query) :
    (∃ before word rest, Sql.SelectAt text.toList before word rest) ∧
    ∀ before word rest, Sql.SelectAt text.toList before word rest →
      ((∀ c ∈ before, isBlank c = true) → (∀ c ∈ word, c.toNat < 0x80) →
        (∀ c ∈ rest.head?, isBlank c = true ∨ c = '(') →
        StatementKind.ofText text = .liveness ∨ StatementKind.ofText text = .read) ∧
      ((∃ c ∈ before, isBlank c = false) → StatementKind.ofText text = .mutation) := by
  refine ⟨Query.ofText?_select read, ?_⟩
  intro before word rest place
  refine ⟨StatementKind.ofNormal_of_select place, ?_⟩
  rintro ⟨c, hc, solid⟩
  have gapBlank : ∀ c, Sql.isGap c = true → isBlank c = true := fun _ h => (Scan.stops_of_isGap h).1
  obtain ⟨tokens, reached, marks⟩ := place.marks
  rw [place.split] at reached
  obtain gaps | ⟨gaps, mark, more, rfl, gap, known⟩ := reached.first_mark marks
  · rw [gapBlank c (gaps c hc)] at solid
    cases solid
  · exact StatementKind.ofNormal_of_mark_before place (fun d hd => gapBlank d (gap d hd)) known

theorem Query.kind_of_select_logs :
    ∃ query, Query.ofText? "SELECT(num) FROM logs" = .ok query ∧
      Sql.SelectAt "SELECT(num) FROM logs".toList [] "SELECT".toList "(num) FROM logs".toList ∧
      (StatementKind.ofText "SELECT(num) FROM logs" = .liveness ∨
        StatementKind.ofText "SELECT(num) FROM logs" = .read) := by
  obtain ⟨query, accepted⟩ : ∃ query,
      (Query.ofText? "SELECT(num) FROM logs").toOption = some query :=
    Option.isSome_iff_exists.mp (by decide +kernel)
  have place : Sql.SelectAt "SELECT(num) FROM logs".toList [] "SELECT".toList
      "(num) FROM logs".toList :=
    ⟨by decide, ⟨[], .here _, by simp⟩, ⟨'S', _, rfl, by decide +kernel⟩, by decide⟩
  have kinds := (kind_of_select (ok_of_toOption accepted)).2 _ _ _ place
  exact ⟨query, ok_of_toOption accepted, place,
    kinds.1 (by simp) (by simp) (by simp)⟩

/-- The text of a query is acknowledged as a mutation. -/
def Acknowledged (text : String) : Prop :=
  (∃ query, Query.ofText? text = .ok query) ∧ StatementKind.ofText text = .mutation

theorem acknowledged_of {text : String} (read : (Query.ofText? text).toOption.isSome = true)
    (kind : StatementKind.ofText text = .mutation) : Acknowledged text := by
  obtain ⟨query, accepted⟩ := Option.isSome_iff_exists.mp read
  exact ⟨⟨query, ok_of_toOption accepted⟩, kind⟩

/-- A `SELECT` in ASCII at the beginning of a text, blanks aside, is taken for a mutation where a character of
ASCII directly follows that is neither blank, parenthesis nor semicolon: a star, a quote, a sign or the
beginning of a comment. -/
theorem Query.mutation_of_solid {text : String} {before word rest : List Char} {c : Char}
    (place : Sql.SelectAt text.toList before word (c :: rest)) (blank : ∀ c ∈ before, isBlank c = true)
    (ascii : ∀ c ∈ word, c.toNat < 0x80) (asciiNext : c.toNat < 0x80)
    (solid : isBlank c = false ∧ c ≠ '(' ∧ c ≠ ';') : StatementKind.ofText text = .mutation := by
  obtain ⟨blank', paren, semicolon⟩ := solid
  have kept : isClosing c = false := by simp [isClosing, blank', semicolon]
  exact StatementKind.ofNormal_of_solid place blank ascii asciiNext kept paren

example : Acknowledged "SELECT*FROM logs" ∧ Acknowledged "select/* all */num FROM logs" :=
  ⟨acknowledged_of (by decide +kernel) (by decide +kernel),
    acknowledged_of (by decide +kernel) (by decide +kernel)⟩

/-- Queries behind a comment and behind a semicolon. -/
theorem mutation_of_query :
    Acknowledged "/* all */ SELECT * FROM logs" ∧ Acknowledged "; SELECT * FROM logs" :=
  ⟨acknowledged_of (by decide +kernel) (by decide +kernel),
    acknowledged_of (by decide +kernel) (by decide +kernel)⟩

end QueryShapes

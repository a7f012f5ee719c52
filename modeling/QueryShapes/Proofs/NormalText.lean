import QueryShapes.Engine.StatementKind
import QueryShapes.Proofs.Words

/-!
# What normal forms drop at the end of a statement

One run of semicolons is dropped, with the blanks on both of its sides. A semicolon that a blank parts
from a later one stays, and then a statement can be of another kind than it was without it.

- `unmarked`: the part of a text that its words are taken from.
- `EndsOnce`: the semicolons at the end of a text stand in one run.
- `endsOnce_iff_count`: exactly then no semicolon of the end is left in the normal form.
- `normalText_append_closing`: exactly then blanks and semicolons at the end make no difference, and a
  normal form is its own normal form.
-/

namespace QueryShapes.StatementKind

open Text

/-! ## The text that is split into words -/

/-- Without the blanks and then the semicolons that end it. -/
def unmarked (text : List Char) : List Char := trimEnd (· = ';') (trimEnd isBlank text)

theorem words_stripped (text : List Char) : words (stripped text) = words (unmarked text) := by
  have front : stripped text = (trimEnd isBlank (unmarked text)).dropWhile isBlank := by
    simp only [stripped, trim, unmarked, trimEnd_dropWhile]
  rw [front, words_dropWhile, words_trimEnd]

theorem normal_eq (text : List Char) : normal text = lower (unwords (words (unmarked text))) := by
  rw [normal, words_stripped]

theorem count_normal (text : List Char) : (normal text).count ';' = (unmarked text).count ';' := by
  rw [normal_eq, lower, count_lowerAfter, count_unwords, flatten_words]
  exact List.count_filter (by decide)

/-! ## Blanks and semicolons at the end -/

/-- A blank or a semicolon. -/
def isClosing (c : Char) : Bool := isBlank c || c == ';'

/-- The text before the blanks and semicolons at its end. -/
def body (text : List Char) : List Char := trimEnd isClosing text

/-- The blanks and semicolons at the end of a text. -/
def ending (text : List Char) : List Char := text.rtakeWhile isClosing

/-- The semicolons at the end of a text stand in one run, with nothing but blanks around it. -/
def EndsOnce (text : List Char) : Prop :=
  ∃ before marks after, ending text = before ++ marks ++ after ∧
    (∀ c ∈ before, isBlank c = true) ∧ (∀ c ∈ marks, c = ';') ∧ ∀ c ∈ after, isBlank c = true

theorem body_append_ending (text : List Char) : body text ++ ending text = text :=
  List.rdropWhile_append_rtakeWhile

theorem isClosing_of_mem_ending {text : List Char} {c : Char} (h : c ∈ ending text) :
    isClosing c = true :=
  List.mem_rtakeWhile_imp h

theorem isClosing_of_isBlank {c : Char} (h : isBlank c = true) : isClosing c = true := by
  simp [isClosing, h]

theorem isBlank_of_isClosing {c : Char} (h : isClosing c = true) (other : c ≠ ';') :
    isBlank c = true := by
  simpa [isClosing, other] using h

/-- Nothing is trimmed from a text with neither a blank nor a semicolon at its end. -/
theorem unmarked_of_stops {text : List Char} (stops : text.getLast?.any isClosing = false)
    (rest : List Char) : unmarked (text ++ rest) = text ++ unmarked rest := by
  have solid := stops_mono (p := isBlank) (fun _ => isClosing_of_isBlank) stops
  have other := stops_mono (p := (· = ';')) (by simp [isClosing]) stops
  rw [unmarked, trimEnd_append solid, trimEnd_append other, unmarked]

theorem body_stops (text : List Char) : (body text).getLast?.any isClosing = false :=
  trimEnd_stops isClosing text

theorem unmarked_eq (text : List Char) : unmarked text = body text ++ unmarked (ending text) := by
  rw [← unmarked_of_stops (body_stops text), body_append_ending]

theorem mem_of_mem_trimEnd {p : Char → Bool} {text : List Char} {c : Char}
    (h : c ∈ trimEnd p text) : c ∈ text :=
  (List.rdropWhile_prefix p text).subset h

theorem isClosing_of_mem_unmarked {text : List Char} {c : Char} (h : c ∈ unmarked (ending text)) :
    isClosing c = true :=
  isClosing_of_mem_ending (mem_of_mem_trimEnd (mem_of_mem_trimEnd h))

/-- What is left of the end of a text is blank, but for semicolons. -/
theorem isBlank_of_mem_unmarked {text : List Char} (absent : ';' ∉ unmarked (ending text)) :
    ∀ c ∈ unmarked (ending text), isBlank c = true :=
  fun _ hc => isBlank_of_isClosing (isClosing_of_mem_unmarked hc) fun same => absent (same ▸ hc)

/-- Where one run of semicolons ends a text, none of it is left. -/
theorem endsOnce_iff {text : List Char} : EndsOnce text ↔ ';' ∉ unmarked (ending text) := by
  constructor
  · rintro ⟨before, marks, after, split, blank, only, blank'⟩ left
    have within : ';' ∈ before := by
      rw [unmarked, split, trimEnd_append_of_forall blank'] at left
      obtain rfl | ⟨more, c, rfl⟩ := marks.eq_nil_or_concat
      · simpa using mem_of_mem_trimEnd (mem_of_mem_trimEnd left)
      · have mark : c = ';' := only c (by simp)
        have stops : (before ++ more.concat c).getLast?.any isBlank = false := by
          simp [mark]
          decide
        rw [trimEnd_of_stops stops, trimEnd_append_of_forall (by simpa using only)] at left
        exact mem_of_mem_trimEnd left
    exact absurd (blank ';' within) (by decide)
  · intro absent
    have trimmed : unmarked (ending text) ++ (trimEnd isBlank (ending text)).rtakeWhile (· = ';') =
        trimEnd isBlank (ending text) := List.rdropWhile_append_rtakeWhile
    have whole : trimEnd isBlank (ending text) ++ (ending text).rtakeWhile isBlank = ending text :=
      List.rdropWhile_append_rtakeWhile
    refine ⟨_, _, _, (trimmed.symm ▸ whole).symm, isBlank_of_mem_unmarked absent, ?_, ?_⟩
    · intro c hc
      simpa using List.mem_rtakeWhile_imp hc
    · exact fun c hc => List.mem_rtakeWhile_imp hc

theorem endsOnce_iff_count {text : List Char} :
    EndsOnce text ↔ (normal text).count ';' = (body text).count ';' := by
  rw [count_normal, unmarked_eq, List.count_append, Nat.add_eq_left, List.count_eq_zero]
  exact endsOnce_iff

theorem isBlank_of_endsOnce {text : List Char} (once : EndsOnce text) :
    ∀ c ∈ unmarked (ending text), isBlank c = true :=
  isBlank_of_mem_unmarked (endsOnce_iff.mp once)

theorem normal_of_endsOnce {text : List Char} (once : EndsOnce text) :
    normal text = lower (unwords (words (body text))) := by
  rw [normal_eq, unmarked_eq, words_append_blanks (isBlank_of_endsOnce once)]

/-! ## More blanks and semicolons -/

section
variable {text more : List Char} (closing : ∀ c ∈ more, isClosing c = true)
include closing

theorem body_append_closing : body (text ++ more) = body text :=
  trimEnd_append_of_forall closing text

theorem ending_append_closing : ending (text ++ more) = ending text ++ more := by
  have whole := body_append_ending (text ++ more)
  have split : text ++ more = body text ++ (ending text ++ more) := by
    rw [← List.append_assoc, body_append_ending]
  rw [body_append_closing closing] at whole
  exact List.append_cancel_left (whole.trans split)

theorem EndsOnce.of_append_closing (once : EndsOnce (text ++ more)) : EndsOnce text := by
  obtain ⟨before, marks, after, split, blank, only, blank'⟩ := once
  rw [ending_append_closing closing] at split
  have part : ending text = (before ++ marks ++ after).take (ending text).length := by
    rw [← split, List.take_left]
  rw [List.take_append, List.take_append] at part
  exact ⟨_, _, _, part, fun c hc => blank c (List.mem_of_mem_take hc),
    fun c hc => only c (List.mem_of_mem_take hc), fun c hc => blank' c (List.mem_of_mem_take hc)⟩

theorem normal_append_closing (once : EndsOnce text) :
    normal (text ++ more) = normal text ↔ EndsOnce (text ++ more) := by
  constructor
  · intro same
    rw [endsOnce_iff_count, same, body_append_closing closing]
    exact endsOnce_iff_count.mp once
  · intro once'
    rw [normal_of_endsOnce once, normal_of_endsOnce once', body_append_closing closing]

end

theorem normal_append_blanks {text more : List Char} (blank : ∀ c ∈ more, isBlank c = true) :
    normal (text ++ more) = normal text := by
  rw [normal_eq, normal_eq, unmarked, trimEnd_append_of_forall blank, unmarked]

/-! ## Normal forms of normal forms -/

/-- The last character that is split into words ends the normal form. -/
theorem normal_last {text begun : List Char} {c : Char}
    (last : trimEnd isBlank (unmarked text) = begun ++ [c]) :
    ∃ start d, normal text = start ++ [d] ∧ SameMark c d := by
  have solid : isBlank c = false := by
    have stops := trimEnd_stops isBlank (unmarked text)
    simpa [last] using stops
  obtain ⟨ws, w, split⟩ := words_concat solid begun
  obtain ⟨joined, whole⟩ := unwords_concat ws w c
  rw [normal_eq, ← words_trimEnd, last, split, whole]
  exact lower_concat joined c

theorem normal_stops {text : List Char} (once : EndsOnce text) :
    (normal text).getLast?.any isClosing = false := by
  have trimmed : trimEnd isBlank (unmarked text) = body text := by
    rw [unmarked_eq, trimEnd_append_of_forall (isBlank_of_endsOnce once)]
    exact trimEnd_of_stops (stops_mono (fun _ => isClosing_of_isBlank) (body_stops text))
  obtain empty | ⟨begun, c, last⟩ := (body text).eq_nil_or_concat
  · rw [normal_of_endsOnce once, empty]
    rfl
  · rw [List.concat_eq_append] at last
    obtain ⟨start, d, same, mark⟩ := normal_last (trimmed.trans last)
    have solid : isClosing c = false := by simpa [last] using body_stops text
    simpa [same, isClosing, mark.1, mark.2] using solid

theorem normal_ends {text : List Char} (twice : ¬ EndsOnce text) :
    ∃ start, normal text = start ++ [';'] := by
  have left : ';' ∈ unmarked (ending text) := not_not.mp fun absent => twice (endsOnce_iff.mpr absent)
  have nonempty : trimEnd isBlank (unmarked (ending text)) ≠ [] := by
    intro none
    exact absurd (List.rdropWhile_eq_nil_iff.mp none ';' left) (by decide)
  obtain ⟨begun, c, last⟩ := (List.eq_nil_or_concat _).resolve_left nonempty
  rw [List.concat_eq_append] at last
  have mark : c = ';' := by
    have solid : isBlank c = false := by
      simpa [last] using trimEnd_stops isBlank (unmarked (ending text))
    have member : c ∈ trimEnd isBlank (unmarked (ending text)) := by simp [last]
    have closing := isClosing_of_mem_unmarked (mem_of_mem_trimEnd member)
    simpa [isClosing, solid] using closing
  have whole : trimEnd isBlank (unmarked text) = (body text ++ begun) ++ [c] := by
    have solid := stops_mono (fun _ => isClosing_of_isBlank) (body_stops text)
    rw [unmarked_eq, trimEnd_append solid, last, List.append_assoc]
  obtain ⟨start, d, same, alike⟩ := normal_last whole
  exact ⟨start, by rw [same, alike.2.mpr mark]⟩

/-- A normal form is its own normal form exactly where one run of semicolons ended the text. -/
theorem normal_normal_iff {text : List Char} : normal (normal text) = normal text ↔ EndsOnce text := by
  constructor
  · intro same
    by_contra twice
    obtain ⟨start, ends⟩ := normal_ends twice
    have fewer : (normal (normal text)).count ';' ≤ start.count ';' := by
      have stops : (start ++ [';']).getLast?.any isBlank = false := by simp; decide
      rw [count_normal, ends, unmarked, trimEnd_of_stops stops,
        trimEnd_append_of_forall (by simp)]
      exact (List.rdropWhile_prefix _ _).sublist.count_le ';'
    rw [same, ends, List.count_append] at fewer
    exact absurd fewer (by simp)
  · intro once
    have whole : unmarked (normal text) = normal text := by
      simpa [unmarked, trimEnd] using unmarked_of_stops (normal_stops once) []
    have lowered : normal text = unwords ((words (body text)).map lower) := by
      rw [normal_of_endsOnce once, lower_unwords]
    have proper : ∀ w ∈ (words (body text)).map lower, IsWord w := by
      intro w hw
      obtain ⟨word, hword, rfl⟩ := List.mem_map.mp hw
      exact (isWord_of_mem_words hword).lower
    have again : ∀ w ∈ words (body text), (lower ∘ lower) w = lower w := fun w _ => lower_lower w
    rw [normal_eq, whole, lowered, words_unwords proper, lower_unwords, List.map_map,
      List.map_congr_left again]

/-! ## Statements -/

theorem normalText_eq_iff {text text' : String} :
    normalText text = normalText text' ↔ normal text.toList = normal text'.toList :=
  String.ofList_inj

/-- Blanks and semicolons at the end of a statement change neither its normal form nor its kind, as long
as they are blanks only or all semicolons at the end stand in one run. Of texts that end like that, no
others keep their normal form, and they are the texts whose normal form ends in neither a blank nor a
semicolon, as well as the texts whose normal form is its own normal form. -/
theorem normalText_append_closing (text more : String)
    (closing : ∀ c ∈ more.toList, isClosing c = true) :
    ((∀ c ∈ more.toList, isBlank c = true) ∨ EndsOnce (text ++ more).toList →
      normalText (text ++ more) = normalText text ∧ ofText (text ++ more) = ofText text) ∧
    (EndsOnce text.toList → normalText (text ++ more) = normalText text →
      EndsOnce (text ++ more).toList) ∧
    ((normalText text).toList.getLast?.any isClosing = false ↔ EndsOnce text.toList) ∧
    (normalText (normalText text) = normalText text ↔ EndsOnce text.toList) := by
  refine ⟨?_, ?_, ?_, ?_⟩
  · intro ends
    have same : normal (text ++ more).toList = normal text.toList := by
      rw [String.toList_append] at ends ⊢
      obtain blank | once := ends
      · exact normal_append_blanks blank
      · exact (normal_append_closing closing (once.of_append_closing closing)).mpr once
    exact ⟨normalText_eq_iff.mpr same, congrArg ofNormal same⟩
  · intro once same
    rw [normalText_eq_iff, String.toList_append] at same
    rw [String.toList_append]
    exact (normal_append_closing closing once).mp same
  · rw [normalText, String.toList_ofList]
    constructor
    · intro stops
      by_contra twice
      obtain ⟨start, ends⟩ := normal_ends twice
      simp [ends, isClosing] at stops
    · exact normal_stops
  · rw [normalText_eq_iff]
    conv_lhs => rw [normalText, String.toList_ofList]
    exact normal_normal_iff

theorem normalText_append_closing_liveness :
    (∀ c ∈ " ;; ".toList, isClosing c = true) ∧ EndsOnce ("SELECT 1" ++ " ;; ").toList ∧
    EndsOnce "SELECT 1".toList ∧ ofText "SELECT 1" = .liveness ∧
    ofText ("SELECT 1" ++ " ;; ") = .liveness ∧
    normalText (normalText "SELECT 1") = normalText "SELECT 1" := by
  have closing : ∀ c ∈ " ;; ".toList, isClosing c = true := List.all_eq_true.mp (by decide +kernel)
  have space : ∀ c ∈ [' '], isBlank c = true := List.forall_mem_singleton.mpr (by decide)
  have ended : EndsOnce ("SELECT 1" ++ " ;; ").toList :=
    ⟨[' '], [';', ';'], [' '], by decide +kernel, space, by simp, space⟩
  have bare : EndsOnce "SELECT 1".toList :=
    ⟨[], [], [], by decide +kernel, by simp, by simp, by simp⟩
  have kind : ofText "SELECT 1" = .liveness := by decide +kernel
  obtain ⟨same, _, _, again⟩ := normalText_append_closing "SELECT 1" " ;; " closing
  exact ⟨closing, ended, bare, kind, (same (.inr ended)).2.trans kind, again.mpr bare⟩

/-- A blank between two semicolons keeps the first in the normal form, so the statement is of another
kind, and its normal form has another normal form. -/
theorem normalText_of_parted_semicolons :
    (∀ c ∈ "; ;".toList, isClosing c = true) ∧ ofText "SELECT 1" = .liveness ∧
    ofText ("SELECT 1" ++ "; ;") = .read ∧ normalText ("SELECT 1" ++ "; ;") = "select 1;" ∧
    normalText (normalText ("SELECT 1" ++ "; ;")) = "select 1" := by
  refine ⟨List.all_eq_true.mp (by decide +kernel), ?_⟩
  decide +kernel

end QueryShapes.StatementKind

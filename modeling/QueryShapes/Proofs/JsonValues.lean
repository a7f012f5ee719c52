import QueryShapes.Proofs.CellTexts
import QueryShapes.Proofs.JsonStrings

/-!
# Values in JSON

- `Numbered`: a value whose numbers are texts of some kind.
- `Numbered.isCell_compact`: it is written without tabs and line breaks if its numbers are.
- `ofText?_compact`: a value without numbers is read back from its text.
-/

namespace QueryShapes.Json

/-- A value that is not garbled, and in which all numbers are texts of a kind. -/
inductive Numbered (kind : String → Prop) : Json → Prop
  | null : Numbered kind .null
  | boolean (b : Bool) : Numbered kind (.boolean b)
  | number {text : String} (h : kind text) : Numbered kind (.number text)
  | string (s : String) : Numbered kind (.string s)
  | array {elements : List Json} (each : ∀ element ∈ elements, Numbered kind element) :
      Numbered kind (.array elements)
  | object {members : List (String × Json)} (each : ∀ member ∈ members, Numbered kind member.2) :
      Numbered kind (.object members)

/-- A value without numbers. -/
abbrev Wordy : Json → Prop := Numbered fun _ => False

/-! ## On one line -/

theorem memberChars_eq (members : List (String × Json)) :
    memberChars members =
      [','].intercalate (members.map fun member => quote member.1 ++ ':' :: member.2.compactChars) := by
  induction members with
  | nil => rfl
  | cons first rest ih =>
    cases rest with
    | nil => simp [memberChars]
    | cons => simp_all [memberChars, List.intercalate_cons_cons]

theorem elementChars_eq (elements : List Json) :
    elementChars elements = [','].intercalate (elements.map compactChars) := by
  induction elements with
  | nil => rfl
  | cons first rest ih =>
    cases rest with
    | nil => simp [elementChars]
    | cons => simp_all [elementChars, List.intercalate_cons_cons]

theorem isCell_control : ∀ n < 0x20,
    IsCell (String.ofList ['\\', 'u', '0', '0', hexDigit (n / 16), hexDigit (n % 16)]) := by
  decide

theorem isCell_escapeChar (c : Char) : IsCell (String.ofList (escapeChar c)) := by
  unfold escapeChar
  split
  iterate 7 decide
  split
  · rename_i control
    exact isCell_control c.toNat control
  · rename_i printable
    intro d hd
    obtain rfl : d = c := by simpa using hd
    constructor <;> rintro rfl <;> exact printable (by decide)

theorem isCell_quote (text : String) : IsCell (String.ofList (quote text)) := by
  intro c hc
  rw [String.toList_ofList, quote, List.mem_cons, List.mem_append, List.mem_singleton] at hc
  obtain rfl | inside | rfl := hc
  · decide
  · obtain ⟨d, _, hd⟩ := List.mem_flatMap.mp inside
    exact isCell_escapeChar d c (by rwa [String.toList_ofList])
  · decide

/-- Commas between texts bring in no tab and no line break. -/
theorem isCell_commas {texts : List (List Char)} (each : ∀ text ∈ texts, IsCell (String.ofList text)) :
    IsCell (String.ofList ([','].intercalate texts)) := by
  intro c hc
  rw [String.toList_ofList] at hc
  obtain comma | ⟨text, mem, inside⟩ := mem_intercalate hc
  · obtain rfl := List.mem_singleton.mp comma
    decide
  · exact each text mem c (by rwa [String.toList_ofList])

/-- Texts are escaped, so only a number could bring in a tab or a line break. -/
theorem Numbered.isCell_compact {value : Json} (numbered : Numbered IsCell value) :
    IsCell value.compact := by
  induction numbered with
  | null => decide
  | boolean b => cases b <;> decide
  | @number text h =>
    rw [compact, compactChars, String.ofList_toList]
    exact h
  | string s => exact isCell_quote s
  | @array elements _ ih =>
    have inner : IsCell (String.ofList (elementChars elements)) := by
      rw [elementChars_eq]
      apply isCell_commas
      intro text mem
      obtain ⟨element, here, rfl⟩ := List.mem_map.mp mem
      exact ih element here
    rw [compact, compactChars, ← List.singleton_append]
    exact .ofList_append (by decide) (inner.ofList_append (by decide))
  | @object members _ ih =>
    have inner : IsCell (String.ofList (memberChars members)) := by
      rw [memberChars_eq]
      apply isCell_commas
      intro text mem
      obtain ⟨member, here, rfl⟩ := List.mem_map.mp mem
      rw [← List.singleton_append]
      exact (isCell_quote member.1).ofList_append (.ofList_append (by decide) (ih member here))
    rw [compact, compactChars, ← List.singleton_append]
    exact .ofList_append (by decide) (inner.ofList_append (by decide))

/-! ## Reading back -/

/-! ### Strings -/

/-- Characters are no halves of surrogate pairs. -/
theorem charsOfUnits?_toNat (text : List Char) : charsOfUnits? (text.map Char.toNat) = some text := by
  induction text with
  | nil => rfl
  | cons c rest ih =>
    have valid : c.toNat < 0xD800 ∨ 0xDFFF < c.toNat ∧ c.toNat < 0x110000 := c.valid
    have high : isHighSurrogate c.toNat = false := by
      simp only [isHighSurrogate, Bool.and_eq_false_iff, decide_eq_false_iff_not]
      omega
    have low : isLowSurrogate c.toNat = false := by
      simp only [isLowSurrogate, Bool.and_eq_false_iff, decide_eq_false_iff_not]
      omega
    cases rest with
    | nil => simp [charsOfUnits?, high, low]
    | cons d rest =>
      rw [List.map_cons] at ih
      simp [charsOfUnits?, high, low, ih]

theorem quotedText?_escape (text : String) (rest : List Char) :
    quotedText? (escape text.toList ++ '"' :: rest) = some (some text, rest) := by
  simp [quotedText?, stringBody?_escape, charsOfUnits?_toNat]

/-! ### One step of the reader -/

theorem skipBlanks_cons {mark : Char} (inked : isBlank mark = false) (rest : List Char) :
    skipBlanks (mark :: rest) = mark :: rest := by
  simp [skipBlanks, inked]

theorem valueWithin?_quotation (fuel : Nat) (rest : List Char) :
    valueWithin? (fuel + 1) ('"' :: rest) =
      (quotedText? rest).map fun read => ((read.1.map string).getD garbled, read.2) := rfl

theorem valueWithin?_elements (fuel : Nat) {mark : Char} (others : List Char)
    (inked : isBlank mark = false) (more : mark ≠ ']') :
    valueWithin? (fuel + 1) ('[' :: mark :: others) =
      (elementsWithin? fuel (mark :: others)).map fun read => (array read.1, read.2) := by
  unfold valueWithin?
  rw [skipBlanks_cons (by decide)]
  simp only [skipBlanks_cons inked]
  split
  · rename_i closing
    exact absurd (List.cons.inj closing).1 more
  · rfl

theorem valueWithin?_members (fuel : Nat) (rest : List Char) :
    valueWithin? (fuel + 1) ('\x7b' :: '"' :: rest) =
      (membersWithin? fuel ('"' :: rest)).map fun read => (ofMembers read.1, read.2) := rfl

/-- The mark that such a value begins with is neither a blank nor a closing bracket. -/
theorem Wordy.exists_mark {value : Json} (wordy : Wordy value) :
    ∃ mark others, value.compactChars = mark :: others ∧ isBlank mark = false ∧ mark ≠ ']' := by
  cases wordy with
  | null => exact ⟨_, _, rfl, rfl, by decide⟩
  | boolean b => cases b <;> exact ⟨_, _, rfl, rfl, by decide⟩
  | number h => cases h
  | string s => exact ⟨_, _, rfl, rfl, by decide⟩
  | array _ => exact ⟨_, _, rfl, rfl, by decide⟩
  | object _ => exact ⟨_, _, rfl, rfl, by decide⟩

/-- The text of a value is read as the value, and what follows it is left. -/
def ReadsBack (value : Json) : Prop :=
  ∀ fuel rest, value.compactChars.length ≤ fuel →
    valueWithin? fuel (value.compactChars ++ rest) = some (value, rest)

theorem readsBack_null : ReadsBack null := by
  intro fuel rest enough
  cases fuel with
  | zero => cases enough
  | succ fuel => rfl

theorem readsBack_boolean (b : Bool) : ReadsBack (boolean b) := by
  intro fuel rest enough
  cases fuel with
  | zero => cases b <;> cases enough
  | succ fuel => cases b <;> rfl

theorem readsBack_string (s : String) : ReadsBack (string s) := by
  intro fuel rest enough
  cases fuel with
  | zero => cases enough
  | succ fuel =>
    have chars : compactChars (string s) ++ rest = '"' :: (escape s.toList ++ '"' :: rest) := by
      simp [compactChars, quote]
    rw [chars, valueWithin?_quotation, quotedText?_escape]
    rfl

/-! ### Elements -/

theorem ReadsBack.last_element {value : Json} (reads : ReadsBack value) {fuel : Nat}
    (enough : value.compactChars.length ≤ fuel) (rest : List Char) :
    elementsWithin? (fuel + 1) (value.compactChars ++ ']' :: rest) = some ([value], rest) := by
  rw [elementsWithin?, reads fuel _ enough]
  rfl

theorem ReadsBack.next_element {value : Json} (reads : ReadsBack value) {fuel : Nat}
    (enough : value.compactChars.length ≤ fuel) {text rest : List Char} {others : List Json}
    (later : elementsWithin? fuel text = some (others, rest)) :
    elementsWithin? (fuel + 1) (value.compactChars ++ ',' :: text) = some (value :: others, rest) := by
  have step : elementsWithin? (fuel + 1) (value.compactChars ++ ',' :: text) =
      (elementsWithin? fuel text).bind fun read => some (value :: read.1, read.2) := by
    rw [elementsWithin?, reads fuel _ enough]
    rfl
  rw [step, later]
  rfl

theorem elementsWithin?_elementChars {elements : List Json} (filled : elements ≠ [])
    (each : ∀ element ∈ elements, ReadsBack element) {fuel : Nat}
    (enough : (elementChars elements).length < fuel) (rest : List Char) :
    elementsWithin? fuel (elementChars elements ++ ']' :: rest) = some (elements, rest) := by
  induction elements generalizing fuel with
  | nil => exact absurd rfl filled
  | cons first others ih =>
    have reads := each first List.mem_cons_self
    cases fuel with
    | zero => cases enough
    | succ fuel =>
      cases others with
      | nil => exact reads.last_element (Nat.le_of_lt_succ enough) rest
      | cons second others =>
        simp only [elementChars, List.length_append, List.length_cons] at enough
        have later : elementsWithin? fuel (elementChars (second :: others) ++ ']' :: rest) =
            some (second :: others, rest) :=
          ih (List.cons_ne_nil second others)
            (fun element mem => each element (List.mem_cons_of_mem first mem)) (by omega)
        simp only [elementChars, List.append_assoc, List.cons_append]
        exact reads.next_element (by omega) later

/-! ### Members -/

/-- After a name the reader goes on to the value, and then to the next member or the end. -/
theorem membersWithin?_quote (fuel : Nat) (name : String) (text : List Char) :
    membersWithin? (fuel + 1) (quote name ++ ':' :: text) =
      (valueWithin? fuel text).bind fun read =>
        match skipBlanks read.2 with
        | '\x7d' :: rest => some ([(some name, read.1)], rest)
        | ',' :: rest => (membersWithin? fuel rest).bind fun others =>
            some ((some name, read.1) :: others.1, others.2)
        | _ => none := by
  have opened : quote name ++ ':' :: text = '"' :: (escape name.toList ++ '"' :: ':' :: text) := by
    simp [quote]
  rw [opened, membersWithin?, skipBlanks_cons rfl]
  change (quotedText? _).bind _ = _
  rw [quotedText?_escape]
  rfl

theorem ReadsBack.last_member {value : Json} (reads : ReadsBack value) (name : String) {fuel : Nat}
    (enough : value.compactChars.length ≤ fuel) (rest : List Char) :
    membersWithin? (fuel + 1) (quote name ++ ':' :: (value.compactChars ++ '\x7d' :: rest)) =
      some ([(some name, value)], rest) := by
  rw [membersWithin?_quote, reads fuel _ enough]
  rfl

theorem ReadsBack.next_member {value : Json} (reads : ReadsBack value) (name : String) {fuel : Nat}
    (enough : value.compactChars.length ≤ fuel) {text rest : List Char}
    {others : List (Option String × Json)}
    (later : membersWithin? fuel text = some (others, rest)) :
    membersWithin? (fuel + 1) (quote name ++ ':' :: (value.compactChars ++ ',' :: text)) =
      some ((some name, value) :: others, rest) := by
  rw [membersWithin?_quote, reads fuel _ enough]
  change (membersWithin? fuel text).bind _ = _
  rw [later]
  rfl

/-- Members as they are read. -/
def named (members : List (String × Json)) : List (Option String × Json) :=
  members.map fun member => (some member.1, member.2)

theorem mapM_named {f : Option String × Json → Option (String × Json)}
    (told : ∀ name value, f (some name, value) = some (name, value)) (members : List (String × Json)) :
    (named members).mapM f = some members := by
  induction members with
  | nil => rfl
  | cons first rest ih => simp_all [named]

theorem ofMembers_named (members : List (String × Json)) :
    ofMembers (named members) = object members := by
  rw [ofMembers, mapM_named fun _ _ => rfl]

theorem membersWithin?_memberChars {members : List (String × Json)} (filled : members ≠ [])
    (each : ∀ member ∈ members, ReadsBack member.2) {fuel : Nat}
    (enough : (memberChars members).length < fuel) (rest : List Char) :
    membersWithin? fuel (memberChars members ++ '\x7d' :: rest) = some (named members, rest) := by
  induction members generalizing fuel with
  | nil => exact absurd rfl filled
  | cons first others ih =>
    obtain ⟨name, value⟩ := first
    have reads : ReadsBack value := each _ List.mem_cons_self
    cases fuel with
    | zero => cases enough
    | succ fuel =>
      cases others with
      | nil =>
        simp only [memberChars, List.length_append, List.length_cons] at enough
        simp only [memberChars, List.append_assoc, List.cons_append]
        exact reads.last_member name (by omega) rest
      | cons second others =>
        simp only [memberChars, List.length_append, List.length_cons] at enough
        have later : membersWithin? fuel (memberChars (second :: others) ++ '\x7d' :: rest) =
            some (named (second :: others), rest) :=
          ih (List.cons_ne_nil second others)
            (fun member mem => each member (List.mem_cons_of_mem _ mem)) (by omega)
        simp only [memberChars, List.append_assoc, List.cons_append]
        exact reads.next_member name (by omega) later

/-! ### All values -/

theorem readsBack_array {elements : List Json} (wordy : ∀ element ∈ elements, Wordy element)
    (each : ∀ element ∈ elements, ReadsBack element) : ReadsBack (array elements) := by
  intro fuel rest enough
  cases fuel with
  | zero => cases enough
  | succ fuel =>
    cases elements with
    | nil => rfl
    | cons first others =>
      obtain ⟨mark, inner, chars, inked, more⟩ : ∃ mark inner,
          elementChars (first :: others) ++ ']' :: rest = mark :: inner ∧ isBlank mark = false ∧
            mark ≠ ']' := by
        obtain ⟨mark, inner, chars, inked, more⟩ := (wordy first List.mem_cons_self).exists_mark
        cases others with
        | nil => exact ⟨mark, inner ++ ']' :: rest, by simp [elementChars, chars], inked, more⟩
        | cons second others =>
          exact ⟨mark, inner ++ ',' :: (elementChars (second :: others) ++ ']' :: rest),
            by simp [elementChars, chars], inked, more⟩
      have fits : (elementChars (first :: others)).length < fuel := by
        rw [compactChars, List.length_cons, List.length_append, List.length_singleton] at enough
        omega
      have read := elementsWithin?_elementChars (List.cons_ne_nil first others) each fits rest
      rw [chars] at read
      rw [compactChars, List.cons_append, List.append_assoc, List.singleton_append, chars,
        valueWithin?_elements fuel inner inked more, read]
      rfl

theorem readsBack_object {members : List (String × Json)}
    (each : ∀ member ∈ members, ReadsBack member.2) : ReadsBack (object members) := by
  intro fuel rest enough
  cases fuel with
  | zero => cases enough
  | succ fuel =>
    cases members with
    | nil => rfl
    | cons first others =>
      obtain ⟨inner, chars⟩ : ∃ inner,
          memberChars (first :: others) ++ '\x7d' :: rest = '"' :: inner := by
        cases others <;> exact ⟨_, rfl⟩
      have fits : (memberChars (first :: others)).length < fuel := by
        rw [compactChars, List.length_cons, List.length_append, List.length_singleton] at enough
        omega
      have read := membersWithin?_memberChars (List.cons_ne_nil first others) each fits rest
      rw [chars] at read
      rw [compactChars, List.cons_append, List.append_assoc, List.singleton_append, chars,
        valueWithin?_members, read, Option.map_some, ofMembers_named]

theorem Wordy.readsBack {value : Json} (wordy : Wordy value) : ReadsBack value := by
  induction wordy with
  | null => exact readsBack_null
  | boolean b => exact readsBack_boolean b
  | number h => cases h
  | string s => exact readsBack_string s
  | array each ih => exact readsBack_array each ih
  | object _ ih => exact readsBack_object ih

theorem ofText?_compact {value : Json} (wordy : Wordy value) : ofText? value.compact = some value := by
  have read := wordy.readsBack (value.compactChars.length + 1) [] (Nat.le_succ _)
  rw [List.append_nil] at read
  rw [ofText?, compact, String.toList_ofList, read]
  rfl

end QueryShapes.Json


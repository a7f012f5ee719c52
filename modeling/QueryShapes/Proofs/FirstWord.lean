import QueryShapes.Proofs.FromClause
import QueryShapes.Proofs.Lexing
import QueryShapes.Text.Blank

/-!
# The word that a query starts with

- `taken_of_step?`: what a single step of reading tokens can be.
- `step?_word`: a bare word is read as it is written.
- `SelectAt`: the place of the word `SELECT` that nothing but separators, comments and blanks comes
  before.
- `ofText?_select`: a text that a query is read from has such a place.
- `SelectAt.first_mark`: what comes before it is blank, or starts with a semicolon or a comment.
-/

namespace QueryShapes

namespace Sql

/-! ## Ways to take a step -/

/-- What a step gives and leaves, by the way that it is taken. -/
inductive Taken (c : Char) (rest : List Char) : Option Token → List Char → Prop
  | gap : isGap c = true → Taken c rest none rest
  | comment {remaining : List Char} : c ∈ ['-', '/'] → Taken c rest none remaining
  /-- What is neither a bare word nor a symbol nor a number. -/
  | literal {token : Token} {remaining : List Char} : (∀ text, token ≠ .word ⟨text, none⟩) →
    (∀ text, token ≠ .symbol text) → (∀ text long, token ≠ .number text long) →
    Taken c rest (some token) remaining
  | number {token : Token} {remaining : List Char} : (c.isDigit || c == '.') = true →
    takeNumber (c :: rest) = (token, remaining) → Taken c rest (some token) remaining
  | sign {token : Token} {remaining : List Char} : c = '@' → takeAt rest = (token, remaining) →
    Taken c rest (some token) remaining
  | name {token : Token} {remaining : List Char} : takeName [c] rest = (token, remaining) →
    Taken c rest (some token) remaining
  | symbol {token : Token} {remaining : List Char} : takeSymbol c rest = (token, remaining) →
    Taken c rest (some token) remaining

theorem taken_of_step? {c : Char} {rest remaining : List Char} {token? : Option Token}
    (h : step? c rest = some (token?, remaining)) : Taken c rest token? remaining := by
  unfold step? at h
  split at h
  · rename_i blank
    cases h
    exact .gap blank
  unfold takeToken? at h
  dsimp only at h
  split at h
  · obtain ⟨_, _, ⟨⟩⟩ := Option.map_eq_some_iff.mp h
    exact .literal (by simp) (by simp) (by simp)
  split at h
  · obtain ⟨_, _, ⟨⟩⟩ := Option.map_eq_some_iff.mp h
    exact .literal (by simp) (by simp) (by simp)
  split at h
  · rename_i starts
    cases h
    exact .number starts rfl
  split at h
  · rename_i starts
    cases h
    exact .comment (by simp_all)
  split at h
  · rename_i starts
    obtain ⟨_, _, ⟨⟩⟩ := Option.map_eq_some_iff.mp h
    exact .comment (by simp_all)
  split at h
  · cases h
    exact .literal (by simp) (by simp) (by simp)
  split at h
  · rename_i starts
    cases h
    exact .sign (by simpa using starts) rfl
  split at h
  · split at h
    · split at h
      · obtain ⟨_, tagged, ⟨⟩⟩ := Option.map_eq_some_iff.mp h
        obtain ⟨_, _, rfl⟩ := Option.map_eq_some_iff.mp tagged
        exact .literal (by simp) (by simp) (by simp)
      · cases h
        exact .name rfl
    · cases h
      exact .name rfl
  · cases h
    exact .symbol rfl

/-! ## Words as they are written -/

theorem takeSymbol_eq (c : Char) (rest : List Char) :
    ∃ text, (takeSymbol c rest).1 = .symbol text ∧
      (text = String.ofList [c] ∨ text ∈ longSymbols.map Prod.snd) := by
  unfold takeSymbol
  dsimp only
  cases long : longSymbols.findSome? fun x =>
      (Text.after? x.1.toList (c :: rest)).map fun r => (Token.symbol x.2, r) with
  | none => exact ⟨_, rfl, .inl rfl⟩
  | some found =>
    obtain ⟨_, member, taken⟩ := List.exists_of_findSome?_eq_some long
    obtain ⟨_, _, rfl⟩ := Option.map_eq_some_iff.mp taken
    exact ⟨_, rfl, .inr (List.mem_map_of_mem member)⟩

theorem takeFraction_append (whole rest : List Char) :
    (takeFraction whole rest).1 ++ (takeFraction whole rest).2 = whole ++ rest := by
  unfold takeFraction
  split
  · simp
  · rfl

theorem takeNumber_word {text rest : List Char} {name : Name}
    (h : takeNumber text = (.word name, rest)) : text = name.text.toList ++ rest := by
  unfold takeNumber at h
  dsimp only at h
  split at h
  · cases h
  · have parts := takeFraction_append (text.takeWhile Char.isDigit) (text.dropWhile Char.isDigit)
    rw [List.takeWhile_append_dropWhile] at parts
    generalize takeFraction (text.takeWhile Char.isDigit) (text.dropWhile Char.isDigit) = mantissa
      at h parts
    split at h
    · cases h
    · generalize named : (if startsExponent mantissa.2 then []
        else mantissa.2.takeWhile continuesName) = tail at h
      split at h
      · split at h <;> cases h
      · rename_i more
        have plain : mantissa.2.takeWhile continuesName = tail := by
          split at named
          · exact absurd (named ▸ List.isEmpty_nil) more
          · exact named
        cases h
        rw [String.toList_ofList, List.append_assoc, ← plain, List.takeWhile_append_dropWhile, parts]

theorem takeName_word {start rest remaining : List Char} {name : Name}
    (h : takeName start rest = (.word name, remaining)) :
    start ++ rest = name.text.toList ++ remaining := by
  cases h
  simp

theorem takeAt_word {rest remaining : List Char} {name : Name}
    (h : takeAt rest = (.word name, remaining)) : '@' :: rest = name.text.toList ++ remaining := by
  have symbols : ∀ r, takeSymbol '@' r ≠ (.word name, remaining) := by
    intro r symbol
    obtain ⟨_, kind, _⟩ := takeSymbol_eq '@' r
    rw [symbol] at kind
    cases kind
  unfold takeAt at h
  split at h
  · cases h
  · exact absurd h (symbols _)
  · exact absurd h (symbols _)
  · cases h
  · cases h
  · cases h
  · exact takeName_word h
  · exact takeName_word h

/-- A bare word is read as it is written. -/
theorem step?_word {c : Char} {rest remaining : List Char} {text : String}
    (h : step? c rest = some (some (.word ⟨text, none⟩), remaining)) :
    c :: rest = text.toList ++ remaining := by
  cases taken_of_step? h with
  | literal unnamed => exact absurd rfl (unnamed text)
  | number _ taken => exact takeNumber_word taken
  | sign starts taken => exact starts ▸ takeAt_word taken
  | name taken => exact takeName_word taken
  | symbol taken =>
    obtain ⟨_, kind, _⟩ := takeSymbol_eq c rest
    rw [taken] at kind
    cases kind

/-! ## What comes before a word -/

theorem takeSymbol_semicolon {c : Char} {rest remaining : List Char}
    (h : takeSymbol c rest = (.symbol ";", remaining)) : c = ';' := by
  obtain ⟨text, kind, short | long⟩ := takeSymbol_eq c rest
  · rw [h] at kind
    have spelled : ";" = text := Token.symbol.inj kind
    have same : [';'] = [c] := by simpa using congrArg String.toList (spelled.trans short)
    exact (List.cons.inj same).1.symm
  · rw [h] at kind
    have spelled : ";" = text := Token.symbol.inj kind
    exact absurd (spelled ▸ long) (by decide)

theorem takeNumber_ne_semicolon (text remaining : List Char) :
    takeNumber text ≠ (.symbol ";", remaining) := by
  intro h
  unfold takeNumber at h
  dsimp only at h
  split at h
  · cases h
  · generalize takeFraction (text.takeWhile Char.isDigit) (text.dropWhile Char.isDigit) = mantissa at h
    split at h
    · simp at h
    · generalize (if startsExponent mantissa.2 then []
        else mantissa.2.takeWhile continuesName) = tail at h
      split at h
      · split at h <;> cases h
      · cases h

theorem takeAt_ne_semicolon (rest remaining : List Char) :
    takeAt rest ≠ (.symbol ";", remaining) := by
  intro h
  have symbols : ∀ r, takeSymbol '@' r ≠ (.symbol ";", remaining) := by
    intro r symbol
    exact absurd (takeSymbol_semicolon symbol) (by decide)
  unfold takeAt at h
  split at h
  case h_2 => exact symbols _ h
  case h_3 => exact symbols _ h
  all_goals simp [takeName] at h

/-- What a separator and the comments start with. -/
def marks : List Char := [';', '-', '/']

/-- A step that gives nothing, or a semicolon, starts at a blank, a semicolon or a comment. -/
theorem step?_mark {c : Char} {rest remaining : List Char} {token? : Option Token}
    (h : step? c rest = some (token?, remaining)) (separates : ∀ t ∈ token?, t = .symbol ";") :
    isGap c = true ∧ remaining = rest ∨ c ∈ marks := by
  cases taken_of_step? h with
  | gap blank => exact .inl ⟨blank, rfl⟩
  | comment starts => exact .inr (List.mem_cons_of_mem _ starts)
  | literal _ unsigned _ => exact absurd (separates _ rfl) (unsigned ";")
  | number _ taken => exact absurd (separates _ rfl ▸ taken) (takeNumber_ne_semicolon _ _)
  | sign _ taken => exact absurd (separates _ rfl ▸ taken) (takeAt_ne_semicolon _ _)
  | name taken =>
    cases taken
    cases separates _ rfl
  | symbol taken =>
    have semicolon : c = ';' := takeSymbol_semicolon (separates _ rfl ▸ taken)
    exact .inr (semicolon ▸ List.mem_cons_self)

/-- What is read without words is blank, or starts with a semicolon or a comment behind blanks. -/
theorem Lexes.first_mark {before last : List Char} {tokens : List Token}
    (h : Lexes (before ++ last) tokens last) (separate : ∀ t ∈ tokens, t = .symbol ";") :
    (∀ c ∈ before, isGap c = true) ∨ ∃ gaps mark more, before = gaps ++ mark :: more ∧
      (∀ c ∈ gaps, isGap c = true) ∧ mark ∈ marks := by
  induction before generalizing tokens with
  | nil => exact .inl (by simp)
  | cons c before ih =>
    generalize whole : c :: before ++ last = text at h
    cases h with
    | here =>
      have length := congrArg List.length whole
      simp at length
      omega
    | step read later =>
      obtain ⟨rfl, rfl⟩ := List.cons.inj whole
      obtain ⟨gap, rfl⟩ | mark := step?_mark read fun t ht => separate t (by simp_all)
      · obtain gaps | ⟨gaps, mark, more, rfl, blank, known⟩ :=
          ih later fun t ht => separate t (List.mem_append_right _ ht)
        · exact .inl (List.forall_mem_cons.mpr ⟨gap, gaps⟩)
        · exact .inr ⟨c :: gaps, mark, more, rfl, List.forall_mem_cons.mpr ⟨gap, blank⟩, known⟩
      · exact .inr ⟨[], c, before, rfl, by simp, mark⟩

/-! ## The first word of a query -/

/-- One separator, if there is one. -/
def separator : Rule (Option Unit) := do return if ← Rule.symbol ";" then some () else none

theorem separator_eq_some {tokens rest : List Token} {unit? : Option Unit}
    (h : separator.run? tokens = some (unit?, rest)) :
    (unit? = some () ∧ tokens = .symbol ";" :: rest) ∨ (unit? = none ∧ tokens = rest) := by
  obtain ⟨b, _, marked, h⟩ := Reading.run?_bind_eq_some.mp h
  cases h
  obtain ⟨rfl, token, rfl, same⟩ | ⟨rfl, rfl⟩ := Rule.takeIf_eq_some marked
  · exact .inl ⟨rfl, by simpa using same⟩
  · exact .inr ⟨rfl, rfl⟩

theorem repeatWithin_separator {fuel : Nat} {tokens rest : List Token} {units : List Unit}
    (h : (Reading.repeatWithin separator fuel).run? tokens = some (units, rest)) :
    ∃ taken, tokens = taken ++ rest ∧ ∀ t ∈ taken, t = .symbol ";" := by
  induction fuel generalizing tokens units with
  | zero =>
    cases h
    exact ⟨[], rfl, by simp⟩
  | succ fuel ih =>
    obtain ⟨unit?, middle, first, others⟩ := Reading.run?_bind_eq_some.mp h
    obtain ⟨rfl, rfl⟩ | ⟨rfl, rfl⟩ := separator_eq_some first
    · obtain ⟨_, _, repeated, finished⟩ := Reading.run?_bind_eq_some.mp others
      cases finished
      obtain ⟨more, rfl, each⟩ := ih repeated
      exact ⟨.symbol ";" :: more, rfl, List.forall_mem_cons.mpr ⟨rfl, each⟩⟩
    · cases others
      exact ⟨[], rfl, by simp⟩

theorem separators_eq_some {tokens rest : List Token} {units : List Unit}
    (h : Rule.separators.run? tokens = some (units, rest)) :
    ∃ taken, tokens = taken ++ rest ∧ ∀ t ∈ taken, t = .symbol ";" := by
  change (Reading.repeatWithin separator (tokens.length + 1)).run? tokens = _ at h
  exact repeatWithin_separator h

theorem beforeTables_first {g : Nesting} {tokens rest : List Token}
    (h : (Rule.beforeTables g).run? tokens = some ((), rest)) :
    ∃ word after, tokens = word :: after ∧ word.keyword = "SELECT" := by
  obtain ⟨_, _, marked, _⟩ := Reading.run?_bind_eq_some.mp h
  obtain ⟨b, _, taken, required⟩ := Reading.run?_bind_eq_some.mp marked
  obtain ⟨rfl, word, rfl, same⟩ | ⟨rfl, rfl⟩ := Rule.takeIf_eq_some taken
  · exact ⟨word, _, rfl, by simpa using same⟩
  · cases required

theorem eq_word_of_keyword {token : Token} {word : String} (h : token.keyword = word)
    (named : word ≠ "") : ∃ text, token = .word ⟨text, none⟩ ∧ upper text = word := by
  cases token with
  | word name =>
    obtain ⟨text, quote⟩ := name
    cases quote with
    | none => exact ⟨text, rfl, h⟩
    | some _ => exact absurd h.symm named
  | _ => exact absurd h.symm named

/-- In the text the word `SELECT`, in whatever case, stands between `before` and `rest`, and no tokens but
semicolons are read before it. -/
structure SelectAt (text before word rest : List Char) : Prop where
  split : text = before ++ (word ++ rest)
  marks : ∃ tokens, Lexes text tokens (word ++ rest) ∧ ∀ t ∈ tokens, t = .symbol ";"
  read : ∃ c more, word ++ rest = c :: more ∧
    step? c more = some (some (.word ⟨String.ofList word, none⟩), rest)
  keyword : upper (String.ofList word) = "SELECT"

end Sql

theorem Query.ofText?_select {text : String} {query : Query} (h : Query.ofText? text = .ok query) :
    ∃ before word rest, Sql.SelectAt text.toList before word rest := by
  obtain ⟨tokens, from', after, _, _, _, _, lexed, tables, _⟩ := Query.ofText?_tables h
  obtain ⟨_, _, separated, read⟩ := tables
  obtain ⟨marks, rfl, each⟩ := Sql.separators_eq_some separated
  obtain ⟨token, others, rfl, keyword⟩ := Sql.beforeTables_first read
  obtain ⟨word, rfl, spelled⟩ := Sql.eq_word_of_keyword keyword (by decide)
  obtain ⟨c, more, rest, reached, step, _⟩ := (Sql.Lexes.of_tokensWithin? lexed).split
  have written := Sql.step?_word step
  obtain ⟨before, split⟩ := reached.suffix
  rw [written] at reached split
  exact ⟨before, word.toList, rest, split.symm, ⟨marks, reached, each⟩,
    ⟨c, more, written.symm, by rwa [String.ofList_toList]⟩, by rwa [String.ofList_toList]⟩

end QueryShapes

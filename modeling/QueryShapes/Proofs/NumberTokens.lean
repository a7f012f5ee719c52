import QueryShapes.Proofs.FirstWord
import QueryShapes.Proofs.RuleResults

/-!
# Numbers in the text of a query

- `tokens?_numbers`: a number token starts with a digit or a point, so it carries no sign.
- `statements?_sound`: in the one query of a text, all number literals that are evaluated are such
  numbers, and cross joins have no constraints.
- `Query.ofText?_operands`: so all operands of a query are read from expressions of such numbers.
-/

namespace QueryShapes

namespace Sql

/-! ## Number tokens -/

/-- The text starts with a digit or with a point. -/
def Numeral (text : String) : Prop :=
  ∃ c rest, text.toList = c :: rest ∧ (c.isDigit || c == '.') = true

/-- No sign stands in front of the text. -/
def Unsigned (text : String) : Prop := splitSign text.toList = (false, text.toList)

theorem Numeral.unsigned {text : String} (h : Numeral text) : Unsigned text := by
  obtain ⟨c, rest, spelled, starts⟩ := h
  unfold Unsigned
  rw [spelled]
  unfold splitSign
  split
  · rename_i minus
    obtain ⟨rfl, _⟩ := List.cons.inj minus
    exact absurd starts (by decide)
  · rename_i plus
    obtain ⟨rfl, _⟩ := List.cons.inj plus
    exact absurd starts (by decide)
  · rfl

theorem takeFraction_cons {c : Char} (starts : (c.isDigit || c == '.') = true) (rest : List Char) :
    ∃ more, (takeFraction ((c :: rest).takeWhile Char.isDigit)
      ((c :: rest).dropWhile Char.isDigit)).1 = c :: more := by
  by_cases digit : c.isDigit = true
  · rw [List.takeWhile_cons_of_pos digit]
    unfold takeFraction
    split
    · exact ⟨_, rfl⟩
    · exact ⟨_, rfl⟩
  · have point : c = '.' := by simpa [digit] using starts
    rw [List.takeWhile_cons_of_neg digit, List.dropWhile_cons_of_neg digit, point]
    exact ⟨_, rfl⟩

theorem takeNumber_number {c : Char} {rest remaining : List Char} {text : String} {long : Bool}
    (starts : (c.isDigit || c == '.') = true)
    (h : takeNumber (c :: rest) = (.number text long, remaining)) : Numeral text := by
  obtain ⟨more, begins⟩ := takeFraction_cons starts rest
  have numeral (exponent : List Char) : Numeral (String.ofList (c :: more ++ exponent)) :=
    ⟨c, more ++ exponent, by simp, starts⟩
  unfold takeNumber at h
  dsimp only at h
  split at h
  · cases h
  · generalize takeFraction ((c :: rest).takeWhile Char.isDigit) ((c :: rest).dropWhile Char.isDigit) =
      mantissa at h begins
    rw [begins] at h
    split at h
    · cases h
    · generalize (if startsExponent mantissa.2 then []
        else mantissa.2.takeWhile continuesName) = tail at h
      split at h
      · split at h <;> cases h <;> exact numeral _
      · cases h

theorem takeSymbol_ne_number (c : Char) (rest remaining : List Char) (text : String) (long : Bool) :
    takeSymbol c rest ≠ (.number text long, remaining) := by
  intro h
  obtain ⟨_, kind, _⟩ := takeSymbol_eq c rest
  rw [h] at kind
  cases kind

theorem takeAt_ne_number (rest remaining : List Char) (text : String) (long : Bool) :
    takeAt rest ≠ (.number text long, remaining) := by
  intro h
  unfold takeAt at h
  split at h
  case h_2 => exact takeSymbol_ne_number _ _ _ _ _ h
  case h_3 => exact takeSymbol_ne_number _ _ _ _ _ h
  all_goals simp [takeName] at h

theorem step?_numbers {c : Char} {rest remaining : List Char} {token : Token}
    (h : step? c rest = some (some token, remaining)) : token.Numbers Numeral := by
  cases token with
  | number text long =>
    cases taken_of_step? h with
    | literal _ _ unnumbered => exact absurd rfl (unnumbered text long)
    | number starts taken => exact takeNumber_number starts taken
    | sign _ taken => exact absurd taken (takeAt_ne_number _ _ _ _)
    | name taken => cases taken
    | symbol taken => exact absurd taken (takeSymbol_ne_number _ _ _ _ _)
  | _ => trivial

theorem Lexes.numbers {text last : List Char} {tokens : List Token} (h : Lexes text tokens last) :
    ∀ token ∈ tokens, token.Numbers Numeral := by
  induction h with
  | here => simp
  | @step _ _ _ _ token? _ read _ ih =>
    intro token member
    obtain here | later := List.mem_append.mp member
    · cases token? with
      | none => simp at here
      | some first =>
        obtain rfl : token = first := by simpa using here
        exact step?_numbers read
    · exact ih token later

theorem tokens?_numbers {text : String} {tokens : List Token} (h : tokens? text = some tokens) :
    ∀ token ∈ tokens, token.Numbers Numeral :=
  (Lexes.of_tokensWithin? h).numbers

/-! ## The one query of a text -/

theorem Token.Numbers.imp {p q : String → Prop} {token : Token} (h : token.Numbers p)
    (all : ∀ text, p text → q text) : token.Numbers q := by
  cases token with
  | number text long => exact all text h
  | _ => trivial

/-- A text with one statement, a query, is one of sound parts. -/
theorem statements?_sound {p : String → Prop} (all : ∀ text, Numeral text → p text) {text : String}
    {q : QueryText} (h : statements? text = some [.query q]) : q.Sound p := by
  obtain ⟨tokens, lexed, h⟩ := Option.bind_eq_some_iff.mp h
  obtain ⟨⟨_, _⟩, run, ⟨⟩⟩ := Option.bind_eq_some_iff.mp h
  obtain ⟨_, start, _, separated, read⟩ := Rule.statements_first run
  have numbers : ∀ token ∈ start, token.Numbers p := fun token member =>
    (tokens?_numbers lexed token ((Reading.leaves_suffix _ separated).subset member)).imp all
  exact Rule.query_yields (nesting_sound _ _) start q _ numbers (Rule.statement_query read)

/-! ## Operands -/

theorem Expr.predicates?_operands {p : String → Prop} {holds : Operand → Prop}
    (each : ∀ e : Expr, e.Numbers p → ∀ operand, e.operand? = .ok operand → holds operand)
    {e : Expr} (numbers : e.Numbers p) {predicates : List Predicate}
    (h : e.predicates? = .ok predicates) :
    ∀ predicate ∈ predicates, holds predicate.left ∧ holds predicate.right := by
  fun_induction predicates? e generalizing predicates with
  | case1 left right ihl ihr =>
    obtain ⟨first, hfirst, h⟩ := bind_eq_ok_iff.mp h
    obtain ⟨second, hsecond, ⟨⟩⟩ := bind_eq_ok_iff.mp h
    exact List.forall_mem_append.mpr ⟨ihl numbers.1 hfirst, ihr numbers.2 hsecond⟩
  | case2 inner ih => exact ih numbers h
  | case3 left op right other =>
    obtain ⟨l, hl, h⟩ := bind_eq_ok_iff.mp h
    obtain ⟨_, _, h⟩ := bind_eq_ok_iff.mp h
    obtain ⟨r, hr, ⟨⟩⟩ := bind_eq_ok_iff.mp h
    exact List.forall_mem_singleton.mpr ⟨each left numbers.1 l hl, each right numbers.2 r hr⟩
  | case4 => cases h

/-- The conditions of a joined source are those of its constraint, and a cross join has none. -/
theorem JoinTerm.source?_ok {p : String → Prop} {join : JoinTerm} (sound : join.Sound p)
    {source : Source} (h : join.source? = .ok source) :
    (source.kind = .cross → source.conditions = []) ∧ source.kind ≠ .base ∧
      (source.conditions = [] ∨
        ∃ e : Expr, e.Numbers p ∧ e.predicates? = .ok source.conditions) := by
  obtain ⟨_, _, h⟩ := bind_eq_ok_iff.mp h
  obtain ⟨kind, told, h⟩ := bind_eq_ok_iff.mp h
  obtain ⟨conditions, read, ⟨⟩⟩ := bind_eq_ok_iff.mp h
  have kinds : (kind = .cross → join.operator = .cross) ∧ kind ≠ .base := by
    cases operator : join.operator <;> rw [operator] at told <;> cases told <;> simp
  refine ⟨fun cross => ?_, kinds.2, ?_⟩
  · rw [sound.cross (kinds.1 cross)] at read
    exact (Except.ok.inj read).symm
  · cases constraint : join.constraint with
    | none =>
      rw [constraint] at read
      exact .inl (Except.ok.inj read).symm
    | condition e =>
      rw [constraint] at read
      exact .inr ⟨e, sound.numbers e constraint, read⟩
    | natural =>
      rw [constraint] at read
      cases read
    | shared =>
      rw [constraint] at read
      cases read

end Sql

/-- What holds of all operands with such numbers holds of all operands of a query that was read. -/
theorem Query.ofText?_operands {p : String → Prop} (all : ∀ text, Sql.Numeral text → p text)
    {holds : Operand → Prop}
    (each : ∀ e : Sql.Expr, e.Numbers p → ∀ operand, e.operand? = .ok operand → holds operand)
    {text : String} {query : Query} (h : Query.ofText? text = .ok query) :
    ∀ predicate ∈ query.predicates, holds predicate.left ∧ holds predicate.right := by
  obtain ⟨q, read, single⟩ := Query.ofText?_eq_ok_iff.mp h
  obtain ⟨select, parts⟩ := Sql.QueryText.query?_eq_ok_iff.mp single
  have sound := (Sql.statements?_sound all read).body select parts.body
  refine List.forall_mem_append.mpr ⟨?_, ?_⟩
  · have read := parts.filter
    cases filter : select.filter with
    | none =>
      rw [filter] at read
      rw [← Except.ok.inj read]
      simp
    | some e =>
      rw [filter] at read
      exact Sql.Expr.predicates?_operands each (sound.filter e filter) read
  · intro predicate member
    obtain ⟨source, listed, conditional⟩ := List.mem_flatMap.mp member
    obtain ⟨first, rest, sources, ⟨_, _, table⟩, others⟩ := Sql.sources?_ok parts.sources
    have bare {kind : JoinKind} {table : Sql.TableTerm} (told : table.source? kind = .ok source) :
        holds predicate.left ∧ holds predicate.right := by
      rw [(Sql.TableTerm.source?_ok told).2] at conditional
      cases conditional
    rw [sources] at listed
    obtain rfl | later := List.mem_cons.mp listed
    · exact bare table
    obtain ⟨_, _, table⟩ | ⟨term, htable, join, hjoin, told⟩ := others source later
    · exact bare table
    obtain ⟨_, _, none | ⟨e, numbers, read⟩⟩ :=
      Sql.JoinTerm.source?_ok (sound.joins term htable join hjoin) told
    · rw [none] at conditional
      cases conditional
    · exact Sql.Expr.predicates?_operands each numbers read predicate conditional

end QueryShapes

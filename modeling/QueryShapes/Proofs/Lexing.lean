import Mathlib.Data.List.Infix
import QueryShapes.Sql.Lexer

/-!
# Places between tokens

- `step?_suffix`: what is left after a token, blank or comment is an end of the text.
- `Lexes`: the tokens that are read on the way from one place of a text to a later one.
- `Lexes.split`: a text is read up to any of its tokens first, and on from there.
-/

namespace QueryShapes

theorem Text.after?_suffix {beginning text rest : List Char}
    (h : after? beginning text = some rest) : rest <:+ text := by
  fun_induction after? beginning text with
  | case1 =>
    cases h
    exact List.suffix_refl _
  | case2 => cases h
  | case3 beginning c text ih => exact (ih h).trans (List.suffix_cons c text)
  | case4 => cases h

namespace Sql

/-! ## Quoted texts and comments -/

theorem takeQuoted?_suffix {quote : Char} {escapes : Bool} {text content rest : List Char}
    (h : takeQuoted? quote escapes text = some (content, rest)) : rest <:+ text := by
  fun_induction takeQuoted? quote escapes text generalizing content rest with
  | case1 => cases h
  | case2 =>
    cases h
    exact List.nil_suffix
  | case3 => cases h
  | case4 =>
    rename_i ih
    obtain ⟨_, taken, ⟨⟩⟩ := Option.map_eq_some_iff.mp h
    exact (ih taken).trans ⟨[_, _], rfl⟩
  | case5 =>
    cases h
    exact List.suffix_cons _ _
  | case6 =>
    rename_i ih
    obtain ⟨_, taken, ⟨⟩⟩ := Option.map_eq_some_iff.mp h
    exact (ih taken).trans ⟨[_, _], rfl⟩
  | case7 =>
    rename_i ih
    obtain ⟨_, taken, ⟨⟩⟩ := Option.map_eq_some_iff.mp h
    exact (ih taken).trans (List.suffix_cons _ _)

theorem afterComment?_suffix {depth : Nat} {last : Char} {text rest : List Char}
    (h : afterComment? depth last text = some rest) : rest <:+ text := by
  fun_induction afterComment? depth last text with
  | case1 => cases h
  | case3 =>
    cases h
    exact List.suffix_cons _ _
  | _ =>
    rename_i ih
    exact (ih h).trans (List.suffix_cons _ _)

theorem codePoint?_suffix {width : Nat} {text rest : List Char} {d : Char}
    (h : codePoint? width text = some (d, rest)) : rest <:+ text := by
  unfold codePoint? at h
  dsimp only at h
  split at h <;> cases h
  exact List.drop_suffix width text

theorem takeDigits_suffix (isDigit : Char → Bool) (most : Nat) (text : List Char) :
    (takeDigits isDigit most text).2 <:+ text :=
  List.drop_suffix _ text

theorem escape?_suffix {text rest : List Char} {d : Char} (h : escape? text = some (d, rest)) :
    rest <:+ text := by
  unfold escape? at h
  split at h
  · cases h
  rename_i c more
  refine List.IsSuffix.trans ?_ (List.suffix_cons c more)
  split at h
  case h_6 => exact codePoint?_suffix h
  case h_7 => exact codePoint?_suffix h
  case h_8 =>
    dsimp only at h
    split at h
    · cases h
      exact takeDigits_suffix isHexDigit 2 more
    · obtain ⟨_, _, ⟨⟩⟩ := Option.map_eq_some_iff.mp h
      exact takeDigits_suffix isHexDigit 2 more
  case h_9 =>
    split at h
    · obtain ⟨_, _, ⟨⟩⟩ := Option.map_eq_some_iff.mp h
      exact takeDigits_suffix isOctalDigit 2 more
    · cases h
      exact List.suffix_refl _
  all_goals
    cases h
    exact List.suffix_refl _

theorem takeEscapedWithin?_suffix {fuel : Nat} {text content rest : List Char}
    (h : takeEscapedWithin? fuel text = some (content, rest)) : rest <:+ text := by
  fun_induction takeEscapedWithin? fuel text generalizing content rest with
  | case1 => cases h
  | case2 => cases h
  | case3 =>
    rename_i after ih
    obtain ⟨_, taken, ⟨⟩⟩ := Option.map_eq_some_iff.mp h
    exact ((ih taken).trans (Text.after?_suffix after)).trans (List.suffix_cons _ _)
  | case4 =>
    cases h
    exact List.suffix_cons _ _
  | case5 =>
    rename_i ih
    obtain ⟨⟨d, more⟩, escaped, h⟩ := Option.bind_eq_some_iff.mp h
    dsimp only at h
    split at h
    · cases h
    · obtain ⟨_, taken, ⟨⟩⟩ := Option.bind_eq_some_iff.mp h
      exact ((ih _ taken).trans (escape?_suffix escaped)).trans (List.suffix_cons _ _)
  | case6 =>
    rename_i ih
    obtain ⟨_, taken, ⟨⟩⟩ := Option.map_eq_some_iff.mp h
    exact (ih taken).trans (List.suffix_cons _ _)

/-! ## Numbers, symbols and names -/

theorem takeExponent_suffix (text : List Char) : (takeExponent text).2 <:+ text := by
  unfold takeExponent
  split
  · rename_i e rest
    split
    · dsimp only
      split <;> split
      · exact (List.dropWhile_suffix _).trans ⟨[_, _], rfl⟩
      · exact List.suffix_refl _
      · exact (List.dropWhile_suffix _).trans ⟨[_, _], rfl⟩
      · exact List.suffix_refl _
      · exact (List.dropWhile_suffix _).trans (List.suffix_cons e rest)
      · exact List.suffix_refl _
    · exact List.suffix_refl _
  · exact List.suffix_refl _

theorem takeFraction_suffix (whole rest : List Char) : (takeFraction whole rest).2 <:+ rest := by
  unfold takeFraction
  split
  · exact (List.dropWhile_suffix _).trans (List.suffix_cons _ _)
  · exact List.suffix_refl _

theorem takeNumber_suffix (text : List Char) : (takeNumber text).2 <:+ text := by
  unfold takeNumber
  have whole : text.dropWhile Char.isDigit <:+ text := List.dropWhile_suffix _
  dsimp only
  refine List.IsSuffix.trans ?_ whole
  split
  · rename_i ends
    rw [ends]
    exact (List.dropWhile_suffix _).trans (List.suffix_cons _ _)
  · have fraction := takeFraction_suffix (text.takeWhile Char.isDigit) (text.dropWhile Char.isDigit)
    generalize takeFraction (text.takeWhile Char.isDigit) (text.dropWhile Char.isDigit) = mantissa
      at fraction ⊢
    refine List.IsSuffix.trans ?_ fraction
    split
    · exact List.suffix_refl _
    · have exponent := takeExponent_suffix mantissa.2
      generalize (if startsExponent mantissa.2 then []
        else mantissa.2.takeWhile continuesName) = tail
      split
      · split
        · rename_i ends
          rw [ends] at exponent
          exact (List.suffix_cons _ _).trans exponent
        · exact exponent
      · exact List.dropWhile_suffix _

theorem takeSymbol_suffix (c : Char) (rest : List Char) :
    (takeSymbol c rest).2 <:+ c :: rest := by
  unfold takeSymbol
  dsimp only
  cases long : longSymbols.findSome? fun x =>
      (Text.after? x.1.toList (c :: rest)).map fun r => (Token.symbol x.2, r) with
  | none => exact List.suffix_cons c rest
  | some found =>
    obtain ⟨_, _, taken⟩ := List.exists_of_findSome?_eq_some long
    obtain ⟨_, after, rfl⟩ := Option.map_eq_some_iff.mp taken
    exact Text.after?_suffix after

theorem takeName_suffix (start rest : List Char) : (takeName start rest).2 <:+ rest :=
  List.dropWhile_suffix _

theorem takeAt_suffix (rest : List Char) : (takeAt rest).2 <:+ '@' :: rest := by
  unfold takeAt
  split
  · exact List.nil_suffix
  · exact takeSymbol_suffix '@' _
  · exact takeSymbol_suffix '@' _
  · exact List.suffix_cons _ _
  · exact List.nil_suffix
  · exact ⟨['@', '@'], rfl⟩
  · exact (takeName_suffix _ _).trans ⟨['@', '@', _], rfl⟩
  · exact (takeName_suffix _ _).trans ⟨['@', _], rfl⟩

/-! ## Single steps -/

theorem takeTagged?_suffix {tag : Char} {text rest : List Char} {token : Token}
    (h : takeTagged? tag text = some (token, rest)) : rest <:+ text := by
  obtain ⟨⟨content, more⟩, taken, ⟨⟩⟩ := Option.map_eq_some_iff.mp h
  split at taken
  · exact takeEscapedWithin?_suffix taken
  · exact takeQuoted?_suffix taken

theorem takeToken?_suffix {c : Char} {rest remaining : List Char} {token? : Option Token}
    (h : takeToken? c rest = some (token?, remaining)) : remaining <:+ c :: rest := by
  unfold takeToken? at h
  dsimp only at h
  split at h
  · obtain ⟨_, taken, ⟨⟩⟩ := Option.map_eq_some_iff.mp h
    exact (takeQuoted?_suffix taken).trans (List.suffix_cons c rest)
  split at h
  · obtain ⟨_, taken, ⟨⟩⟩ := Option.map_eq_some_iff.mp h
    exact (takeQuoted?_suffix taken).trans (List.suffix_cons c rest)
  split at h
  · cases h
    exact takeNumber_suffix (c :: rest)
  split at h
  · cases h
    exact ((List.drop_suffix _ _).trans (List.dropWhile_suffix _)).trans (List.suffix_cons c rest)
  split at h
  · obtain ⟨_, taken, ⟨⟩⟩ := Option.map_eq_some_iff.mp h
    exact ((afterComment?_suffix taken).trans (List.drop_suffix _ _)).trans (List.suffix_cons c rest)
  split at h
  · cases h
    exact (List.dropWhile_suffix _).trans (List.suffix_cons c rest)
  split at h
  · rename_i at_sign
    obtain rfl := beq_iff_eq.mp at_sign
    cases h
    exact takeAt_suffix rest
  split at h
  · split at h
    · split at h
      · obtain ⟨_, taken, ⟨⟩⟩ := Option.map_eq_some_iff.mp h
        exact (takeTagged?_suffix taken).trans ⟨[c, _], rfl⟩
      · cases h
        exact (takeName_suffix _ _).trans (List.suffix_cons _ _)
    · cases h
      exact (takeName_suffix _ _).trans (List.suffix_cons _ _)
  · cases h
    exact takeSymbol_suffix c rest

theorem step?_suffix {c : Char} {rest remaining : List Char} {token? : Option Token}
    (h : step? c rest = some (token?, remaining)) : remaining <:+ c :: rest := by
  unfold step? at h
  split at h
  · cases h
    exact List.suffix_cons c _
  · exact takeToken?_suffix h

/-! ## Places -/

/-- From one place of a text to a later one, the tokens are read. -/
inductive Lexes : List Char → List Token → List Char → Prop
  | here (text : List Char) : Lexes text [] text
  | step {c : Char} {rest remaining last : List Char} {token? : Option Token} {tokens : List Token} :
    step? c rest = some (token?, remaining) → Lexes remaining tokens last →
    Lexes (c :: rest) (token?.toList ++ tokens) last

/-- The tokens of so many steps, and the place that is reached. -/
def lexed? : (steps : Nat) → List Char → Option (List Token × List Char)
  | 0, text => some ([], text)
  | _ + 1, [] => none
  | steps + 1, c :: rest => do
    let (token?, remaining) ← step? c rest
    let (others, last) ← lexed? steps remaining
    return (token?.toList ++ others, last)

namespace Lexes

theorem of_tokensWithin? {fuel : Nat} {text : List Char} {tokens : List Token}
    (h : tokensWithin? fuel text = some tokens) : Lexes text tokens [] := by
  fun_induction tokensWithin? fuel text generalizing tokens with
  | case1 =>
    cases h
    exact here []
  | case2 => cases h
  | case3 fuel c rest ih =>
    obtain ⟨⟨token?, remaining⟩, taken, h⟩ := Option.bind_eq_some_iff.mp h
    obtain ⟨others, read, ⟨⟩⟩ := Option.bind_eq_some_iff.mp h
    exact step taken (ih _ read)

theorem of_lexed? {steps : Nat} {text last : List Char} {tokens : List Token}
    (h : lexed? steps text = some (tokens, last)) : Lexes text tokens last := by
  fun_induction lexed? steps text generalizing tokens last with
  | case1 text =>
    cases h
    exact here text
  | case2 => cases h
  | case3 steps c rest ih =>
    obtain ⟨⟨token?, remaining⟩, taken, h⟩ := Option.bind_eq_some_iff.mp h
    obtain ⟨⟨others, _⟩, read, ⟨⟩⟩ := Option.bind_eq_some_iff.mp h
    exact step taken (ih _ read)

theorem suffix {text last : List Char} {tokens : List Token} (h : Lexes text tokens last) :
    last <:+ text := by
  induction h with
  | here => exact List.suffix_refl _
  | step taken _ ih => exact ih.trans (step?_suffix taken)

theorem cons_inv {c : Char} {rest : List Char} {tokens : List Token}
    (h : Lexes (c :: rest) tokens []) : ∃ token? remaining others,
      step? c rest = some (token?, remaining) ∧ tokens = token?.toList ++ others ∧
      Lexes remaining others [] := by
  cases h with
  | step taken read => exact ⟨_, _, _, taken, rfl, read⟩

/-- A text is read up to any of its tokens first, and on from there. -/
theorem split {text : List Char} {taken : List Token} {token : Token} {rest : List Token}
    (h : Lexes text (taken ++ token :: rest) []) : ∃ c more remaining,
      Lexes text taken (c :: more) ∧ step? c more = some (some token, remaining) ∧
      Lexes remaining rest [] := by
  generalize whole : taken ++ token :: rest = tokens at h
  generalize finish : ([] : List Char) = last at h
  induction h generalizing taken with
  | here => simp at whole
  | @step c more remaining last token? tokens first read ih =>
    subst finish
    cases token? with
    | none =>
      obtain ⟨d, others, remaining', reached, second, later⟩ := ih whole rfl
      exact ⟨d, others, remaining', step first reached, second, later⟩
    | some t =>
      cases taken with
      | nil =>
        obtain ⟨rfl, rfl⟩ := List.cons.inj whole
        exact ⟨c, more, remaining, here _, first, read⟩
      | cons t' taken =>
        obtain ⟨rfl, later⟩ := List.cons.inj whole
        obtain ⟨d, others, remaining', reached, second, rest⟩ := ih later rfl
        exact ⟨d, others, remaining', step first reached, second, rest⟩

/-- The tokens of a text begin with those of its first steps. -/
theorem after_lexed? {steps : Nat} {text last : List Char} {taken tokens : List Token}
    (known : lexed? steps text = some (taken, last)) (h : Lexes text tokens []) :
    ∃ rest, tokens = taken ++ rest ∧ Lexes last rest [] := by
  fun_induction lexed? steps text generalizing taken tokens last with
  | case1 text =>
    cases known
    exact ⟨tokens, rfl, h⟩
  | case2 => cases known
  | case3 steps c rest ih =>
    obtain ⟨⟨token?, remaining⟩, first, known⟩ := Option.bind_eq_some_iff.mp known
    obtain ⟨⟨others, _⟩, later, ⟨⟩⟩ := Option.bind_eq_some_iff.mp known
    obtain ⟨token?', remaining', more, first', rfl, read⟩ := h.cons_inv
    cases first.symm.trans first'
    obtain ⟨rest, rfl, ends⟩ := ih _ later read
    exact ⟨rest, (List.append_assoc _ _ _).symm, ends⟩

end Lexes

end Sql
end QueryShapes

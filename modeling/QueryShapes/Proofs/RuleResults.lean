import QueryShapes.Proofs.FromClause

/-!
# What rules make of tokens

- `Reading.Yields`: of good items a rule makes nothing but what has a property. One lemma for each way
  of making rules carries such properties from the parts to the whole.
- `Expr.Numbers`: all number literals of an expression have a property.
- `Rule.query_yields`: what all number tokens have, all number literals that a query evaluates have; and
  a cross join has no constraint.
-/

namespace QueryShapes

namespace Reading

/-- Of items that are all good, the rule makes nothing but what has the property. -/
def Yields {τ α : Type} (good : τ → Prop) (rule : Reading τ α) (p : α → Prop) : Prop :=
  ∀ items a rest, (∀ item ∈ items, good item) → rule.run? items = some (a, rest) → p a

namespace Yields

variable {τ α β : Type} {good : τ → Prop} {rule : Reading τ α} {p : α → Prop}

theorem pure {a : α} (h : p a) : Yields good (Pure.pure a) p := by
  rintro items _ _ _ ⟨⟩
  exact h

theorem refuse : Yields good refuse p := by
  rintro items a rest _ ⟨⟩

theorem bind {q : β → Prop} {first : Reading τ β} {next : β → Reading τ α}
    (begins : Yields good first q) (continues : ∀ b, q b → Yields good (next b) p) :
    Yields good (first >>= next) p := by
  intro items a rest all h
  obtain ⟨b, middle, taken, later⟩ := run?_bind_eq_some.mp h
  have left := leaves_suffix _ taken
  exact continues b (begins items b middle all taken) middle a rest
    (fun item member => all item (left.subset member)) later

/-- What the first rule makes does not matter. -/
theorem after {first : Reading τ β} {next : β → Reading τ α}
    (continues : ∀ b, Yields good (next b) p) : Yields good (first >>= next) p :=
  bind (q := fun _ => True) (fun _ _ _ _ _ => trivial) fun b _ => continues b

theorem pure_bind {b : β} {next : β → Reading τ α} (continues : Yields good (next b) p) :
    Yields good (Pure.pure b >>= next) p :=
  continues

theorem ite {c : Prop} [Decidable c] {other : Reading τ α} (yes : Yields good rule p)
    (no : Yields good other p) : Yields good (if c then rule else other) p := by
  split
  · exact yes
  · exact no

theorem next : Yields good next good := by
  intro items item rest all h
  cases items with
  | nil => cases h
  | cons first others =>
    cases h
    exact all item List.mem_cons_self

theorem sized {rule : Nat → Reading τ α} (each : ∀ length, Yields good (rule length) p) :
    Yields good (sized rule) p :=
  fun items a rest all taken => each items.length items a rest all taken

theorem after? {mark : Reading τ Bool} (yields : Yields good rule p) :
    Yields good (after? mark rule) (∀ a ∈ ·, p a) := by
  refine after fun marked => ite ?_ ?_
  · exact yields.bind fun a h => pure (by simpa using h)
  · exact pure (by simp)

theorem separatedWithin {separator : Reading τ Bool} (yields : Yields good rule p) (fuel : Nat) :
    Yields good (separatedWithin separator rule fuel) (∀ a ∈ ·, p a) := by
  induction fuel with
  | zero => exact refuse
  | succ fuel ih =>
    refine yields.bind fun a h => after fun more => ite ?_ ?_
    · exact ih.bind fun others each => pure (List.forall_mem_cons.mpr ⟨h, each⟩)
    · exact pure (List.forall_mem_singleton.mpr h)

theorem separated {separator : Reading τ Bool} (yields : Yields good rule p) :
    Yields good (separated separator rule) (∀ a ∈ ·, p a) :=
  sized fun length => yields.separatedWithin (length + 1)

theorem repeatWithin {rule : Reading τ (Option α)} (yields : Yields good rule (∀ a ∈ ·, p a))
    (fuel : Nat) : Yields good (repeatWithin rule fuel) (∀ a ∈ ·, p a) := by
  induction fuel with
  | zero => exact pure (by simp)
  | succ fuel ih =>
    refine yields.bind fun a? h => ?_
    cases a? with
    | some a => exact ih.bind fun others each => pure (List.forall_mem_cons.mpr ⟨h a rfl, each⟩)
    | none => exact pure (by simp)

theorem repeated {rule : Reading τ (Option α)} (yields : Yields good rule (∀ a ∈ ·, p a)) :
    Yields good (repeated rule) (∀ a ∈ ·, p a) :=
  sized fun length => yields.repeatWithin (length + 1)

end Yields

end Reading

namespace Sql

open Reading

/-! ## Number literals -/

variable {p : String → Prop}

/-- The text of the token has the property if it is a number. -/
def Token.Numbers (p : String → Prop) : Token → Prop
  | .number text _ => p text
  | _ => True

def Literal.Numbers (p : String → Prop) : Literal → Prop
  | .number text _ => p text
  | _ => True

/-- The texts of all number literals outside of calls have the property. -/
def Expr.Numbers (p : String → Prop) : Expr → Prop
  | .literal l => l.Numbers p
  | .nested inner => inner.Numbers p
  | .negated inner => inner.Numbers p
  | .binary left _ right => left.Numbers p ∧ right.Numbers p
  | _ => True

/-- The numbers in the constraint have the property, and a cross join has no constraint. -/
structure JoinTerm.Sound (p : String → Prop) (join : JoinTerm) : Prop where
  numbers : ∀ e, join.constraint = .condition e → e.Numbers p
  cross : join.operator = .cross → join.constraint = .none

/-- The numbers that are evaluated have the property, and cross joins have no constraints. -/
structure SelectText.Sound (p : String → Prop) (select : SelectText) : Prop where
  joins : ∀ term ∈ select.tables, ∀ join ∈ term.joins, join.Sound p
  filter : ∀ e ∈ select.filter, e.Numbers p

structure QueryText.Sound (p : String → Prop) (q : QueryText) : Prop where
  body : ∀ select, q.body = .select select → select.Sound p
  limit : ∀ e ∈ q.limit, e.Numbers p

/-- The rules for parts make nothing but sound parts. -/
structure Nesting.Sound (p : String → Prop) (g : Nesting) : Prop where
  operand : ∀ limit, Yields (Token.Numbers p) (g.operand limit) (Expr.Numbers p)
  expr : Yields (Token.Numbers p) g.expr (Expr.Numbers p)
  joined : Yields (Token.Numbers p) g.joined fun term => ∀ join ∈ term.joins, join.Sound p

namespace Rule

/-! ## Expressions -/

theorem literal_yields : Yields (Token.Numbers p) literal (Literal.Numbers p) := by
  refine Yields.next.bind fun token h => ?_
  split
  · exact .pure h
  · exact .pure trivial
  · exact .pure trivial
  · exact .pure trivial
  · exact .ite (.after fun _ => .pure trivial) .refuse
  · split
    · exact .pure trivial
    · exact .pure trivial
    · exact .pure trivial
    · exact .refuse

/-- A form that is kept as its text has no number literals. -/
theorem text_yields {α : Type} (rule : Rule α) (form : α → String) :
    Yields (Token.Numbers p) (do return Expr.other (form (← rule))) (Expr.Numbers p) :=
  .after fun _ => .pure trivial

section
variable {g : Nesting}

theorem call_yields (function : List Name) :
    Yields (Token.Numbers p) (call g function) (Expr.Numbers p) :=
  .after fun _ => .after fun _ => .after fun _ => .after fun _ => .pure trivial

theorem timeFunction_yields (n : Name) :
    Yields (Token.Numbers p) (timeFunction g n) (Expr.Numbers p) :=
  .after fun _ => .ite (.after fun _ => .pure trivial) (.pure trivial)

theorem named_yields (n : Name) : Yields (Token.Numbers p) (named g n) (Expr.Numbers p) := by
  refine .after fun ahead => ?_
  split
  · refine .ite (.after fun _ => .after fun _ => .ite (call_yields _) ?_) ?_ <;> exact .pure trivial
  · exact .ite (text_yields _ _) (.pure trivial)
  · exact .ite (text_yields _ _) (.pure trivial)
  · exact .pure trivial

theorem wordForm_yields (n : Name) : Yields (Token.Numbers p) (wordForm g n) (Expr.Numbers p) := by
  refine .after fun ahead => ?_
  split
  case h_22 => exact .after fun _ => .ite (text_yields _ _) (text_yields _ _)
  case h_23 =>
    refine .ite (.after fun text? => ?_) (named_yields n)
    cases text? with
    | some text => exact .pure trivial
    | none => exact call_yields _
  case h_24 =>
    exact .after fun _ => .ite (text_yields _ _) (.ite (.after fun _ => .pure trivial) (named_yields n))
  case h_25 => exact named_yields n
  -- Boolean literals, functions of the current time and forms that are kept as text.
  all_goals first | exact .pure trivial | exact timeFunction_yields n | exact text_yields _ _

theorem parenthesis_yields (sound : g.Sound p) :
    Yields (Token.Numbers p) (parenthesis g) (Expr.Numbers p) := by
  -- What stands between the parentheses is the result, unless a dot follows them.
  have closes {inner : Expr} {dotted : Token → Rule Expr} (h : inner.Numbers p)
      (each : ∀ token, Yields (Token.Numbers p) (dotted token) (Expr.Numbers p)) :
      Yields (Token.Numbers p) (do
        requireSymbol ")"
        if ← symbol "." then dotted (← next) else return inner) (Expr.Numbers p) :=
    .after fun _ => .after fun _ => .ite (.after each) (.pure h)
  refine .after fun query => .ite (.after fun _ => closes trivial ?_)
    (sound.expr.separated.bind fun es each => ?_)
  case' refine_2 => split
  case' h_1 => refine closes (each _ List.mem_cons_self : Expr.Numbers p _) ?_
  case' h_2 => refine closes trivial ?_
  -- Behind the dot only a name is taken.
  all_goals
    intro token
    split
    · exact .pure trivial
    · exact .refuse

theorem leadingForm_yields (sound : g.Sound p) :
    Yields (Token.Numbers p) (leadingForm g) (Expr.Numbers p) := by
  refine .after fun ahead => ?_
  split
  · exact .after fun _ => wordForm_yields _
  · exact .after fun _ => parenthesis_yields sound
  · exact .after fun _ => text_yields _ _
  · exact .after fun _ => (sound.operand _).bind fun e h => .pure h
  · exact .after fun _ => text_yields _ _
  · exact .refuse
  · exact literal_yields.bind fun l h => .pure h

theorem leading_yields (sound : g.Sound p) :
    Yields (Token.Numbers p) (leading g) (Expr.Numbers p) := by
  have collated : Yields (Token.Numbers p) (collated g) (Expr.Numbers p) :=
    (leadingForm_yields sound).bind fun e h => .after fun _ => .ite (text_yields _ _) (.pure h)
  refine .after fun kind => ?_
  split
  · exact .after fun _ => text_yields _ _
  · refine .after fun text? => ?_
    split
    · exact .pure trivial
    · exact collated
  · exact collated

theorem isTest_yields (left : Expr) : Yields (Token.Numbers p) (isTest g left) (Expr.Numbers p) := by
  refine .after fun negated => .after fun word? => ?_
  split
  · exact .pure trivial
  · exact .after fun _ => text_yields _ _

theorem test_yields (left : Expr) : Yields (Token.Numbers p) (test g left) (Expr.Numbers p) := by
  refine .after fun negated => .after fun word? => ?_
  split
  · exact text_yields _ _
  · exact .after fun _ => .after fun _ => .after fun _ => .pure trivial
  · -- Two words that may be taken along stand before the pattern.
    extract_lets words pattern afterTo
    have ends : ∀ u, Yields (Token.Numbers p) (pattern u) (Expr.Numbers p) := fun _ =>
      .after fun _ => .ite (.pure trivial) (text_yields _ _)
    have middle : ∀ u, Yields (Token.Numbers p) (afterTo u) (Expr.Numbers p) := fun _ =>
      .ite (.after fun _ => ends ()) (ends ())
    exact .ite (.after middle) (middle ())
  · exact .refuse

theorem binary_yields (sound : g.Sound p) (strength : Nat) {left : Expr} (h : left.Numbers p)
    (op : Operator) : Yields (Token.Numbers p) (binary g strength left op) (Expr.Numbers p) := by
  refine .after fun quantifier? => ?_
  split
  · refine .after fun _ => ?_
    split
    · exact .pure trivial
    · exact .refuse
  · exact (sound.operand strength).bind fun right h' => .pure ⟨h, h'⟩

theorem extended_yields (sound : g.Sound p) (strength : Nat) {left : Expr} (h : left.Numbers p) :
    Yields (Token.Numbers p) (extended g strength left) (Expr.Numbers p) := by
  refine .after fun ahead => ?_
  split
  · exact .after fun _ => binary_yields sound strength h _
  · refine .after fun _ => .ite (sound.expr.bind fun right h' => .pure ⟨h, h'⟩) ?_
    refine .after fun _ => .ite (isTest_yields left) ?_
    refine .after fun _ => .ite (.after fun _ => text_yields _ _) ?_
    refine .after fun _ => .ite (text_yields _ _) ?_
    refine .after fun _ => .ite (.pure trivial) ?_
    exact .after fun _ => .ite (text_yields _ _) (test_yields left)

theorem extendWithin_yields (sound : g.Sound p) (strength : Rule Nat) (limit fuel : Nat)
    {left : Expr} (h : left.Numbers p) :
    Yields (Token.Numbers p) (extendWithin g strength limit fuel left) (Expr.Numbers p) := by
  induction fuel generalizing left with
  | zero => exact .pure h
  | succ fuel ih =>
    refine .after fun strengthNow => .ite (.pure h) ?_
    exact (extended_yields sound strengthNow h).bind fun e h' => ih h'

theorem operand_yields (sound : g.Sound p) (limit : Nat) :
    Yields (Token.Numbers p) (operand g limit) (Expr.Numbers p) :=
  (leading_yields sound).bind fun _ h =>
    .sized fun length => extendWithin_yields sound strengthAhead limit (length + 1) h

/-! ## Joined tables -/

theorem joinConstraint_yields (sound : g.Sound p) :
    Yields (Token.Numbers p) (joinConstraint g) fun constraint =>
      ∀ e, constraint = .condition e → e.Numbers p := by
  refine .after fun _ => .ite ?_ (.after fun _ => .ite ?_ ?_)
  · exact sound.expr.bind fun e h => .pure (by rintro _ ⟨⟩; exact h)
  · exact .after fun _ => .pure (by simp)
  · exact .pure (by simp)

/-- The joins that take a constraint are no cross joins. -/
theorem joinOperator?_yields : Yields (Token.Numbers p) joinOperator? (.cross ∉ ·) := by
  refine .after fun word => ?_
  split
  · exact .after fun _ => .after fun _ => .pure (by simp)
  · exact .after fun _ => .after fun _ => .pure (by simp)
  case h_3 | h_4 =>
    refine .after fun _ => .after fun word? => ?_
    split
    · exact .after fun _ => .pure (by split <;> simp)
    · exact .after fun _ => .pure (by split <;> simp)
    · exact .after fun _ => .pure (by simp)
  · exact .after fun _ => .after fun _ => .after fun _ => .pure (by simp)
  · exact .pure (by simp)

theorem joinTerm?_yields (sound : g.Sound p) :
    Yields (Token.Numbers p) (joinTerm? g) (∀ join ∈ ·, join.Sound p) := by
  -- What has no constraint is sound.
  have bare (operator : JoinOperator) (table : TableTerm) (isGlobal : Bool) :
      ∀ join ∈ some (JoinTerm.mk operator table .none isGlobal ""), join.Sound p := by
    rintro _ ⟨⟩
    exact ⟨by simp, fun _ => rfl⟩
  refine .after fun isGlobal => .after fun word? => ?_
  split
  · refine .after fun word? => ?_
    split
    · exact .after fun table => .pure (bare _ table isGlobal)
    · exact .after fun table => .pure (bare _ table isGlobal)
    · exact .refuse
  · exact .after fun _ => .after fun table => .pure (bare _ table isGlobal)
  · refine .after fun _ => .after fun table => .after fun matching => ?_
    refine (joinConstraint_yields sound).bind fun constraint h => .pure ?_
    rintro _ ⟨⟩
    exact ⟨h, by simp⟩
  · refine .after fun natural => joinOperator?_yields.bind fun operator? crossless => ?_
    split
    · rename_i operator
      have crossless : operator ≠ .cross := by simpa using crossless
      refine .after fun table => .ite ?_ ?_
      · refine .pure ?_
        rintro _ ⟨⟩
        exact ⟨by simp, fun cross => absurd cross crossless⟩
      · refine (joinConstraint_yields sound).bind fun constraint h => .pure ?_
        rintro _ ⟨⟩
        exact ⟨h, fun cross => absurd cross crossless⟩
    · exact .ite .refuse (.pure (by simp))

theorem joined_yields (sound : g.Sound p) :
    Yields (Token.Numbers p) (joined g) fun term => ∀ join ∈ term.joins, join.Sound p :=
  .after fun _ => (joinTerm?_yields sound).repeated.bind fun _ each => .pure each

/-! ## Queries -/

theorem select_yields (sound : g.Sound p) :
    Yields (Token.Numbers p) (select g) (SelectText.Sound p) := by
  refine .after fun _ => .after fun _ => .after fun _ => .after fun _ => .after fun _ => ?_
  refine (Yields.after? sound.joined.separated).bind fun tables? joins => .after fun _ => ?_
  refine (Yields.after? sound.expr).bind fun filter? filter => ?_
  refine .after fun _ => .after fun _ => .after fun _ => .after fun _ => .after fun _ => ?_
  refine .after fun _ => .pure ⟨?_, filter⟩
  cases tables? with
  | none => simp
  | some tables => exact joins tables rfl

theorem plainBody_yields (sound : g.Sound p) :
    Yields (Token.Numbers p) (plainBody g) fun body => ∀ s, body = .select s → s.Sound p := by
  refine .after fun word => .ite ((select_yields sound).bind fun s h => ?_) ?_
  · exact .pure (by rintro _ ⟨⟩; exact h)
  · refine .after fun _ => .ite (.after fun _ => .after fun _ => .pure (by simp)) ?_
    refine .after fun _ => .ite (.after fun _ => .pure (by simp)) ?_
    exact .after fun _ => .after fun _ => .pure (by simp)

theorem body_yields (sound : g.Sound p) :
    Yields (Token.Numbers p) (body g) fun body => ∀ s, body = .select s → s.Sound p :=
  (plainBody_yields sound).bind fun _ h => .after fun _ => .ite (.pure h) (.pure (by simp))

theorem limitValue_yields (sound : g.Sound p) :
    Yields (Token.Numbers p) (limitValue g) (∀ e ∈ ·, e.Numbers p) :=
  .after fun _ => .ite (.pure (by simp)) (sound.expr.bind fun _ h => .pure (by simpa using h))

theorem limits_yields (sound : g.Sound p) {given : Option Expr × Option String}
    (h : ∀ e ∈ given.1, e.Numbers p) :
    Yields (Token.Numbers p) (limits g given) fun found => ∀ e ∈ found.1, e.Numbers p := by
  unfold limits
  extract_lets withLimit
  have ends (limit? : Option Expr) (h : ∀ e ∈ limit?, e.Numbers p) :
      Yields (Token.Numbers p) (withLimit limit?) fun found => ∀ e ∈ found.1, e.Numbers p := by
    unfold withLimit
    extract_lets withOffset
    have ends (offset? : Option String) : Yields (Token.Numbers p) (withOffset offset?) fun found =>
        ∀ e ∈ found.1, e.Numbers p := by
      unfold withOffset
      split
      · exact .after fun _ => .ite (sound.expr.bind fun e h' => .pure (by simpa using h')) (.pure h)
      · exact .pure h
    split
    · exact .pure_bind (ends _)
    · exact .after fun _ => ends _
  split
  · rename_i limit held
    exact .pure_bind (ends _ (by simpa [held] using h))
  · refine (Yields.after? (limitValue_yields sound)).bind fun limit? each => .pure_bind (ends _ ?_)
    cases limit? with
    | none => simp
    | some limit? => exact each limit? rfl

theorem query_yields (sound : g.Sound p) :
    Yields (Token.Numbers p) (query g) (QueryText.Sound p) := by
  refine .after fun commonTables => .after fun word? => ?_
  split
  · have changed (text : String) :
        (QueryText.mk commonTables (.other text) [] none none "").Sound p := ⟨by simp, by simp⟩
    exact .ite (.after fun _ => .pure (changed _)) (.after fun _ => .pure (changed _))
  · refine (body_yields sound).bind fun body h => .after fun _ => ?_
    refine (limits_yields sound (by simp)).bind fun given first => ?_
    refine (limits_yields sound first).bind fun found limit => ?_
    exact .after fun _ => .after fun _ => .pure ⟨h, limit⟩

end

end Rule

theorem nesting_sound (fuel depth : Nat) : (nesting fuel depth).Sound p := by
  induction fuel generalizing depth with
  | zero => exact ⟨fun _ => .refuse, .refuse, .refuse⟩
  | succ fuel ih =>
    refine ⟨fun limit => ?_, ?_, ?_⟩
    · exact Rule.operand_yields (ih depth) limit
    · exact Yields.ite .refuse (Rule.operand_yields (ih (depth - 1)) 0)
    · exact Rule.joined_yields (ih depth)

end Sql

end QueryShapes

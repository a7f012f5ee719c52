import Mathlib.Algebra.Group.Int.Defs
import QueryShapes.Proofs.NumberTokens

/-!
# The range of integer literals

- `Expr.integer?`: the integer that a literal with its signs stands for, whatever its size.
- `Expr.literal?_eq_integer_iff`: a literal is an integer of 64 bits exactly when that integer and its
  opposite have 64 bits.
- `literals_exact`: so no negation of a literal or of an offset overflows, in whatever expression.
-/

namespace QueryShapes

/-- The integer and its opposite have 64 bits. -/
def Negatable (n : Int64) : Prop := -(2 ^ 63 - 1) ≤ n.toInt ∧ n.toInt ≤ 2 ^ 63 - 1

theorem Negatable.toInt_neg {n : Int64} (h : Negatable n) : (-n).toInt = -n.toInt := by
  obtain ⟨low, high⟩ := h
  rw [Int64.toInt_neg, Int.bmod_eq_of_le (by omega) (by omega)]

theorem Negatable.neg {n : Int64} (h : Negatable n) : Negatable (-n) := by
  obtain ⟨low, high⟩ := h
  constructor <;> rw [Negatable.toInt_neg ⟨low, high⟩] <;> omega

/-- The integers in the operand are in range. -/
def Operand.Negatable : Operand → Prop
  | .literal (.integer n) => QueryShapes.Negatable n
  | .shifted _ n => QueryShapes.Negatable n
  | _ => True

namespace Sql

namespace Expr

/-! ## Integers of any size -/

/-- The integer that a literal with its signs stands for. -/
def integer? : Expr → Option Int
  | .literal (.number text _) => (natural? text.toList).map Int.ofNat
  | .negated inner => inner.integer?.map (-·)
  | .nested inner => inner.integer?
  | _ => none

/-- The integer that is added to a column. -/
def offset? : Expr → Option Int
  | .binary _ .plus right => right.integer?
  | .binary _ .minus right => right.integer?.map (-·)
  | .nested inner => inner.offset?
  | _ => none

theorem number?_eq_integer_iff {text : String} (unsigned : Unsigned text) {n : Int64} :
    number? text = .ok (.integer n) ↔ (natural? text.toList).map Int.ofNat = some n.toInt := by
  have read : number? text = .ok (.integer n) ↔ int64? text = some n := by
    unfold number?
    cases int64? text with
    | some _ => simp
    | none =>
      cases Double.ofText? text with
      | some _ => simp
      | none => simp
  rw [read]
  unfold int64?
  rw [unsigned]
  simp only [Bool.false_eq_true, if_false, Option.bind_eq_some_iff, Option.map_eq_some_iff,
    int64OfInt?_eq_some_iff]
  exact exists_congr fun k => and_congr_right fun _ => eq_comm

theorem literal?_eq_integer_iff {e : Expr} (unsigned : e.Numbers Unsigned) {n : Int64} :
    e.literal? = .ok (.integer n) ↔ Negatable n ∧ e.integer? = some n.toInt := by
  fun_induction literal? e generalizing n with
  | case1 text long =>
    have high := Int64.toInt_le n
    rw [Int64.toInt_maxValue] at high
    constructor
    · intro h
      have value := (number?_eq_integer_iff unsigned).mp h
      obtain ⟨k, _, natural⟩ := Option.map_eq_some_iff.mp value
      refine ⟨⟨?_, high⟩, value⟩
      rw [← natural]
      exact Int.le_trans (by decide) (Int.natCast_nonneg k)
    · exact fun h => (number?_eq_integer_iff unsigned).mpr h.2
  | case2 quote text =>
    have untold : textValue text ≠ .integer n := by
      unfold textValue
      split <;> simp
    simp [integer?, untold]
  | case3 b => simp [integer?]
  | case4 => simp [integer?]
  | case5 inner ih =>
    constructor
    · intro h
      obtain ⟨value, inside, h⟩ := bind_eq_ok_iff.mp h
      cases value with
      | integer m =>
        cases h
        obtain ⟨range, same⟩ := (ih unsigned).mp inside
        exact ⟨range.neg, by simp [integer?, same, range.toInt_neg]⟩
      | _ => cases h
    · rintro ⟨range, same⟩
      obtain ⟨m, inside, opposite⟩ := Option.map_eq_some_iff.mp same
      have inner_value : inner.literal? = .ok (.integer (-n)) := by
        refine (ih unsigned).mpr ⟨range.neg, ?_⟩
        rw [inside, range.toInt_neg]
        exact congrArg some (by omega)
      simp [inner_value, bind, Except.bind]
  | case6 inner ih => exact ih unsigned
  | case7 e number string boolean null negated nested =>
    refine iff_of_false (by simp) ?_
    unfold integer?
    split <;> simp_all

/-- One more than the greatest integer is no integer of 64 bits, not even behind a sign. -/
example : Expr.literal? (.negated (.literal (.number "9223372036854775808" false))) =
    .ok (.decimal ⟨true, 0x43E0000000000000⟩) := by
  decide +kernel

/-! ## Offsets, conditions and limits -/

theorem literal?_negatable {e : Expr} (unsigned : e.Numbers Unsigned) {v : Value}
    (h : e.literal? = .ok v) : (Operand.literal v).Negatable := by
  cases v with
  | integer n => exact ((literal?_eq_integer_iff unsigned).mp h).1
  | _ => trivial

/-- The integers of an operand are in range, and an offset is what it is written as. -/
theorem operand?_negatable {e : Expr} (unsigned : e.Numbers Unsigned) {operand : Operand}
    (h : e.operand? = .ok operand) : operand.Negatable ∧
      ∀ c n, operand = .shifted c n → e.offset? = some n.toInt := by
  fun_induction operand? e with
  | case1 n =>
    obtain ⟨_, _, ⟨⟩⟩ := bind_eq_ok_iff.mp h
    exact ⟨trivial, by simp⟩
  | case2 parts =>
    obtain ⟨_, _, ⟨⟩⟩ := bind_eq_ok_iff.mp h
    exact ⟨trivial, by simp⟩
  | case3 inner ih => exact ih unsigned h
  | case4 left right =>
    obtain ⟨column, n, _, amount, rfl⟩ := shifted?_ok h
    obtain ⟨range, same⟩ := (literal?_eq_integer_iff unsigned.2).mp amount
    exact ⟨range, by rintro _ _ ⟨⟩; exact same⟩
  | case5 left right =>
    obtain ⟨column, n, _, amount, rfl⟩ := shifted?_ok h
    obtain ⟨range, same⟩ := (literal?_eq_integer_iff unsigned.2).mp amount
    refine ⟨range.neg, ?_⟩
    rintro _ _ ⟨⟩
    simp [offset?, same, range.toInt_neg]
  | case6 e name path nested plus minus =>
    obtain ⟨v, value, ⟨⟩⟩ := bind_eq_ok_iff.mp h
    exact ⟨literal?_negatable unsigned value, by simp⟩

theorem limit?_ok {e : Expr} (unsigned : e.Numbers Unsigned) {limit : Nat}
    (h : e.limit? = .ok limit) : e.integer? = some (limit : Int) := by
  obtain ⟨value, literal, h⟩ := bind_eq_ok_iff.mp h
  cases value with
  | integer n =>
    dsimp only at h
    split at h
    · rename_i positive
      cases h
      have same := ((literal?_eq_integer_iff unsigned).mp literal).2
      have positive : 0 ≤ n.toInt := by simpa using Int64.le_iff_toInt_le.mp positive
      rw [same]
      exact congrArg some (Int.toNat_of_nonneg positive).symm
    · cases h
  | _ => cases h

end Expr

end Sql

/-- Where numbers carry no sign of their own, integer literals and offsets are the integers that they
are written as, and so are limits. None of them is the least integer of 64 bits, not even on the way,
so their opposites have 64 bits too. In a query that was read no number carries a sign. -/
theorem literals_exact :
    (∀ e : Sql.Expr, e.Numbers Sql.Unsigned →
      (∀ n, e.literal? = .ok (.integer n) →
        Negatable n ∧ (-n).toInt = -n.toInt ∧ e.integer? = some n.toInt) ∧
      (∀ c n, e.operand? = .ok (.shifted c n) → Negatable n ∧ e.offset? = some n.toInt) ∧
      ∀ limit, e.limit? = .ok limit → e.integer? = some (limit : Int)) ∧
    ∀ text query, Query.ofText? text = .ok query →
      ∀ p ∈ query.predicates, p.left.Negatable ∧ p.right.Negatable := by
  refine ⟨fun e unsigned => ⟨fun n h => ?_, fun c n h => ?_, fun limit h => ?_⟩, ?_⟩
  · obtain ⟨range, same⟩ := (Sql.Expr.literal?_eq_integer_iff unsigned).mp h
    exact ⟨range, range.toInt_neg, same⟩
  · obtain ⟨range, same⟩ := Sql.Expr.operand?_negatable unsigned h
    exact ⟨range, same c n rfl⟩
  · exact Sql.Expr.limit?_ok unsigned h
  · intro text query h
    exact Query.ofText?_operands (fun _ => Sql.Numeral.unsigned)
      (fun _ unsigned _ read => (Sql.Expr.operand?_negatable unsigned read).1) h

/-- The greatest integer of 64 bits, as it is written. -/
def greatestLiteral : Sql.Expr := .literal (.number "9223372036854775807" false)

/-- It is negated, is taken off a column in its negated form, and is a limit. -/
theorem literals_exact_greatest :
    greatestLiteral.nested.negated.literal? = .ok (.integer (-9223372036854775807)) ∧
      Negatable (-9223372036854775807) ∧
    Sql.Expr.operand? (.binary (.name ⟨"id", none⟩) .minus greatestLiteral.negated) =
        .ok (.shifted ⟨none, "id"⟩ 9223372036854775807) ∧
      Sql.Expr.offset? (.binary (.name ⟨"id", none⟩) .minus greatestLiteral.negated) =
        some 9223372036854775807 ∧
    greatestLiteral.limit? = .ok 9223372036854775807 ∧
      greatestLiteral.integer? = some 9223372036854775807 ∧
    ∃ query, Query.ofText? "SELECT id FROM logs WHERE id < id - -9223372036854775807" = .ok query ∧
      ∀ p ∈ query.predicates, p.left.Negatable ∧ p.right.Negatable := by
  have unsigned : Sql.Unsigned "9223372036854775807" := rfl
  have negated := (literals_exact.1 greatestLiteral.nested.negated unsigned).1
  have shifted := (literals_exact.1 (.binary (.name ⟨"id", none⟩) .minus greatestLiteral.negated)
    ⟨trivial, unsigned⟩).2.1
  have limit := (literals_exact.1 greatestLiteral unsigned).2.2
  obtain ⟨query, accepted⟩ : ∃ query,
      (Query.ofText? "SELECT id FROM logs WHERE id < id - -9223372036854775807").toOption =
        some query :=
    Option.isSome_iff_exists.mp (by decide +kernel)
  have read := ok_of_toOption accepted
  exact ⟨rfl, (negated _ rfl).1, rfl, (shifted _ _ rfl).2, rfl, limit _ rfl, query, read,
    literals_exact.2 _ query read⟩

end QueryShapes

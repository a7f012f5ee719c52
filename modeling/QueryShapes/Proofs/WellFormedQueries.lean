import QueryShapes.Proofs.LiteralRange
import QueryShapes.Proofs.LowerCase

/-!
# Well-formed queries

- `Query.WellFormed`: what later stages take for granted about a query tree, as a predicate on each
  kind of node.
- `Query.ofText?_wellFormed`: all that is read from a text is well formed.
-/

namespace QueryShapes

/-! ## What is well formed -/

/-- No character of the text is a capital of ASCII. -/
def Uncapital (text : String) : Prop := ∀ c ∈ text.toList, c.isUpper = false

/-- A text that looks like a date is a date, and a decimal is a number. -/
def Value.WellFormed : Value → Prop
  | .date s => Text.isDateText s = true
  | .text s => Text.isDateText s = false
  | .decimal x => x.isNaN = false
  | _ => True

def Column.WellFormed (c : Column) : Prop := ∀ qualifier ∈ c.qualifier, Uncapital qualifier

def Operand.WellFormed : Operand → Prop
  | .column c | .shifted c _ => c.WellFormed
  | .literal v => v.WellFormed

structure Predicate.WellFormed (p : Predicate) : Prop where
  left : p.left.WellFormed
  right : p.right.WellFormed

/-- Only counting goes without an argument. -/
structure Aggregate.WellFormed (call : Aggregate) : Prop where
  counts : call.argument = none → call.function = .count
  argument : ∀ c ∈ call.argument, c.WellFormed

def SelectItem.WellFormed : SelectItem → Prop
  | .wildcard qualifier => ∀ name ∈ qualifier, Uncapital name
  | .column c _ => c.WellFormed
  | .aggregate call _ => call.WellFormed

structure Source.WellFormed (source : Source) : Prop where
  table : Uncapital source.table
  label : ∀ name ∈ source.label, Uncapital name
  bare : source.kind = .base ∨ source.kind = .cross → source.conditions = []
  conditions : ∀ p ∈ source.conditions, p.WellFormed

structure Query.WellFormed (query : Query) : Prop where
  /-- The first source and no other is the one that all others are joined to. -/
  base : ∃ first rest, query.sources = first :: rest ∧ first.kind = .base ∧
    ∀ source ∈ rest, source.kind ≠ .base
  sources : ∀ source ∈ query.sources, source.WellFormed
  items : ∀ item ∈ query.items, item.WellFormed
  filter : ∀ p ∈ query.filter, p.WellFormed
  groupBy : ∀ c ∈ query.groupBy, c.WellFormed
  orderBy : ∀ key ∈ query.orderBy, key.target.WellFormed

/-! ## Names -/

theorem Text.Settled.isUpper {c : Char} (h : Settled c) : c.isUpper = false := by
  by_cases ascii : c.toNat < 128
  · exact forall_ascii (p := fun c => Settled c → c.isUpper = false) (by decide) ascii h
  · exact decide_eq_false fun capital => ascii (Nat.lt_of_le_of_lt capital.2 (by decide))

theorem uncapital_lowercase (text : String) : Uncapital (Text.lowercase text) := by
  intro c member
  rw [Text.lowercase, String.toList_ofList] at member
  exact (Text.mem_lowerAfter member).1.isUpper

namespace Sql

theorem uncapital_binding (n : Name) : Uncapital n.binding := uncapital_lowercase n.text

theorem uncapital_pathBinding (path : List Name) : Uncapital (pathBinding path) := by
  unfold pathBinding
  cases path.getLast? with
  | none => simp [Uncapital]
  | some n => exact uncapital_binding n

end Sql

/-! ## Decimals -/

namespace Double

theorem isNaN_nearest (negative : Bool) (num den : Nat) : (nearest negative num den).isNaN = false := by
  unfold isNaN nearest
  exact decide_eq_false (Nat.not_lt_of_le (Nat.min_le_left _ _))

theorem isNaN_ofDecimal (negative : Bool) (digits : Nat) (exponent : Int) :
    (ofDecimal negative digits exponent).isNaN = false := by
  unfold ofDecimal
  dsimp only
  split
  · rfl
  split
  · rfl
  · exact isNaN_nearest _ _ _

end Double

/-- What starts with a digit or a point is not spelled like a non-number. -/
theorem Double.isNaN_of_ofText? {text : String} (numeral : Sql.Numeral text) {x : Double}
    (h : Double.ofText? text = some x) : x.isNaN = false := by
  have unsigned := numeral.unsigned
  obtain ⟨c, rest, spelled, starts⟩ := numeral
  have spells (name : String) (letter : name.toList.head?.any (['i', 'n'].contains ·) = true) :
      String.ofList (text.toList.map Char.toLower) ≠ name := by
    rintro rfl
    have letter : ['i', 'n'].contains c.toLower = true := by simpa [spelled] using letter
    have ascii : c.toNat < 128 := by
      obtain digit | point := Bool.or_eq_true_iff.mp starts
      · simp only [Char.isDigit, Bool.and_eq_true, decide_eq_true_eq] at digit
        exact Nat.lt_of_le_of_lt digit.2 (by decide)
      · rw [eq_of_beq point]
        decide
    have other := forall_ascii (p := fun c => (c.isDigit || c == '.') = true →
      ['i', 'n'].contains c.toLower = false) (by decide) ascii starts
    exact Bool.false_ne_true (other.symm.trans letter)
  unfold ofText? at h
  rw [unsigned] at h
  dsimp only at h
  rw [if_neg (not_or.mpr ⟨spells "inf" (by decide), spells "infinity" (by decide)⟩),
    if_neg (spells "nan" (by decide))] at h
  obtain ⟨digits, _, h⟩ := Option.bind_eq_some_iff.mp h
  obtain ⟨exponent, _, rfl⟩ := Option.map_eq_some_iff.mp h
  exact isNaN_ofDecimal _ _ _

namespace Sql.Expr

/-! ## Expressions -/

theorem column?_wellFormed {e : Expr} {c : Column} (h : e.column? = .ok c) : c.WellFormed := by
  fun_induction column? e with
  | case1 n =>
    cases h
    simp [Column.WellFormed]
  | case2 qualifier n =>
    cases h
    simpa [Column.WellFormed] using uncapital_binding qualifier
  | case3 inner ih => exact ih h
  | case4 => cases h

theorem textValue_wellFormed (text : String) : (textValue text).WellFormed := by
  unfold textValue
  split
  · assumption
  · exact Bool.eq_false_iff.mpr ‹_›

theorem literal?_wellFormed {e : Expr} (numerals : e.Numbers Numeral) {v : Value}
    (h : e.literal? = .ok v) : v.WellFormed := by
  fun_induction literal? e generalizing v with
  | case1 text long =>
    unfold number? at h
    split at h
    · cases h
      trivial
    · split at h
      · cases h
        exact Double.isNaN_of_ofText? numerals ‹_›
      · cases h
  | case2 quote text =>
    cases h
    exact textValue_wellFormed text
  | case3 b =>
    cases h
    trivial
  | case4 =>
    cases h
    trivial
  | case5 inner ih =>
    obtain ⟨value, inside, h⟩ := bind_eq_ok_iff.mp h
    have number := ih numerals inside
    cases value with
    | integer n =>
      cases h
      trivial
    | decimal x =>
      cases h
      exact number
    | _ => cases h
  | case6 inner ih => exact ih numerals h
  | case7 => cases h

theorem operand?_wellFormed {e : Expr} (numerals : e.Numbers Numeral) {operand : Operand}
    (h : e.operand? = .ok operand) : operand.WellFormed := by
  fun_induction operand? e with
  | case1 n =>
    obtain ⟨c, column, ⟨⟩⟩ := bind_eq_ok_iff.mp h
    exact column?_wellFormed column
  | case2 parts =>
    obtain ⟨c, column, ⟨⟩⟩ := bind_eq_ok_iff.mp h
    exact column?_wellFormed column
  | case3 inner ih => exact ih numerals h
  | case4 left right =>
    obtain ⟨c, n, column, _, rfl⟩ := shifted?_ok h
    exact column?_wellFormed column
  | case5 left right =>
    obtain ⟨c, n, column, _, rfl⟩ := shifted?_ok h
    exact column?_wellFormed column
  | case6 e name path nested plus minus =>
    obtain ⟨v, value, ⟨⟩⟩ := bind_eq_ok_iff.mp h
    exact literal?_wellFormed numerals value

/-! ## Select lists -/

theorem plainAggregate?_wellFormed {name text : String} {args : List Argument} {call : Aggregate}
    (h : plainAggregate? name args text = .ok call) : call.WellFormed := by
  unfold plainAggregate? at h
  split at h
  · cases h
  split at h
  · split at h
    · rename_i counts
      cases h
      exact ⟨fun _ => counts, by simp⟩
    · cases h
  · obtain ⟨c, column, ⟨⟩⟩ := bind_eq_ok_iff.mp h
    exact ⟨by simp, by simpa using column?_wellFormed column⟩
  · cases h

theorem Aggregates.wellFormed {e : Expr} {call : Aggregate} (h : e.Aggregates call) :
    call.WellFormed := by
  induction h with
  | plain _ _ _ told => exact plainAggregate?_wellFormed told
  | rounded _ _ _ _ _ ih => exact ⟨ih.counts, ih.argument⟩

end Sql.Expr

namespace Sql

theorem Expr.item?_wellFormed {e : Expr} {label : Option String} {item : SelectItem}
    (h : e.item? label = .ok item) : item.WellFormed := by
  unfold Expr.item? at h
  split at h
  · obtain ⟨call, read, ⟨⟩⟩ := bind_eq_ok_iff.mp h
    exact (Expr.aggregate?_eq_ok_iff.mp read).wellFormed
  · obtain ⟨c, column, ⟨⟩⟩ := bind_eq_ok_iff.mp h
    exact Expr.column?_wellFormed column

theorem SelectTerm.item?_wellFormed {term : SelectTerm} {item : SelectItem}
    (h : term.item? = .ok item) : item.WellFormed := by
  unfold SelectTerm.item? at h
  split at h
  · cases h
    simp [SelectItem.WellFormed]
  · rename_i path _
    cases h
    simpa [SelectItem.WellFormed] using uncapital_pathBinding path
  · exact Expr.item?_wellFormed h

theorem Grouping.columns?_wellFormed {grouping : Grouping} {columns : List Column}
    (h : grouping.columns? = .ok columns) : ∀ c ∈ columns, c.WellFormed := by
  cases grouping with
  | all => cases h
  | columns es =>
    intro c member
    obtain ⟨e, _, column⟩ := mem_of_mapM h member
    exact Expr.column?_wellFormed column

theorem OrderTerm.sortKey?_wellFormed {term : OrderTerm} {key : SortKey}
    (h : term.sortKey? = .ok key) : key.target.WellFormed := by
  obtain ⟨c, column, ⟨⟩⟩ := bind_eq_ok_iff.mp h
  exact Expr.column?_wellFormed column

/-! ## Sources -/

theorem TableTerm.source?_names {kind : JoinKind} {table : TableTerm} {source : Source}
    (h : table.source? kind = .ok source) :
    Uncapital source.table ∧ ∀ name ∈ source.label, Uncapital name := by
  cases table with
  | table path arguments label hints =>
    cases h
    refine ⟨uncapital_pathBinding path, ?_⟩
    rintro _ member
    obtain ⟨n, _, rfl⟩ := Option.map_eq_some_iff.mp member
    exact uncapital_binding n
  | _ => cases h

theorem JoinTerm.source?_names {join : JoinTerm} {source : Source} (h : join.source? = .ok source) :
    Uncapital source.table ∧ ∀ name ∈ source.label, Uncapital name := by
  obtain ⟨_, table, h⟩ := bind_eq_ok_iff.mp h
  obtain ⟨_, _, h⟩ := bind_eq_ok_iff.mp h
  obtain ⟨_, _, ⟨⟩⟩ := bind_eq_ok_iff.mp h
  have names := TableTerm.source?_names table
  exact names

end Sql

/-! ## Queries -/

theorem Query.ofText?_wellFormed {text : String} {query : Query}
    (h : Query.ofText? text = .ok query) : query.WellFormed := by
  have conditions : ∀ p ∈ query.predicates, p.WellFormed := fun p member =>
    have ⟨left, right⟩ := Query.ofText?_operands (fun _ => id)
      (fun _ numerals _ => Sql.Expr.operand?_wellFormed numerals) h p member
    ⟨left, right⟩
  obtain ⟨filter, joined⟩ := List.forall_mem_append.mp conditions
  obtain ⟨q, read, single⟩ := Query.ofText?_eq_ok_iff.mp h
  obtain ⟨select, parts⟩ := Sql.QueryText.query?_eq_ok_iff.mp single
  have sound := (Sql.statements?_sound (fun _ => id) read).body select parts.body
  obtain ⟨first, rest, listed, ⟨_, _, table⟩, others⟩ := Sql.sources?_ok parts.sources
  -- What is joined without a condition has none, and only the first source is joined to nothing.
  have joins : ∀ source ∈ rest, source.kind ≠ .base ∧
      (source.kind = .cross → source.conditions = []) ∧
      Uncapital source.table ∧ ∀ name ∈ source.label, Uncapital name := by
    intro source member
    obtain ⟨_, _, comma⟩ | ⟨term, hterm, join, hjoin, told⟩ := others source member
    · obtain ⟨kind, bare⟩ := Sql.TableTerm.source?_ok comma
      exact ⟨by simp [kind], fun _ => bare, Sql.TableTerm.source?_names comma⟩
    · obtain ⟨cross, base, _⟩ := Sql.JoinTerm.source?_ok (sound.joins term hterm join hjoin) told
      exact ⟨base, cross, Sql.JoinTerm.source?_names told⟩
  obtain ⟨kind, bare⟩ := Sql.TableTerm.source?_ok table
  refine ⟨⟨first, rest, listed, kind, fun source member => (joins source member).1⟩, ?_, ?_, filter,
    Sql.Grouping.columns?_wellFormed parts.groupBy, ?_⟩
  · intro source member
    have conditions : ∀ p ∈ source.conditions, p.WellFormed := fun p here =>
      joined p (List.mem_flatMap.mpr ⟨source, member, here⟩)
    rw [listed] at member
    obtain rfl | later := List.mem_cons.mp member
    · obtain ⟨name, label⟩ := Sql.TableTerm.source?_names table
      exact ⟨name, label, fun _ => bare, conditions⟩
    · obtain ⟨base, cross, name, label⟩ := joins source later
      exact ⟨name, label, fun kind => kind.elim (fun h => absurd h base) cross, conditions⟩
  · intro item member
    obtain ⟨term, _, told⟩ := mem_of_mapM parts.items member
    exact Sql.SelectTerm.item?_wellFormed told
  · intro key member
    obtain ⟨term, _, told⟩ := mem_of_mapM parts.orderBy member
    exact Sql.OrderTerm.sortKey?_wellFormed told

/-- A comma, a cross join, a date and a decimal. -/
theorem Query.ofText?_wellFormed_days :
    ∃ query, Query.ofText? "SELECT COUNT(*) FROM Logs L CROSS JOIN Hosts, Days D
        WHERE L.Day < '2000-01-01' AND D.Load > -(.5)" = .ok query ∧ query.WellFormed := by
  obtain ⟨query, accepted⟩ : ∃ query,
      (Query.ofText? "SELECT COUNT(*) FROM Logs L CROSS JOIN Hosts, Days D
        WHERE L.Day < '2000-01-01' AND D.Load > -(.5)").toOption = some query :=
    Option.isSome_iff_exists.mp (by decide +kernel)
  have read := ok_of_toOption accepted
  exact ⟨query, read, Query.ofText?_wellFormed read⟩

end QueryShapes

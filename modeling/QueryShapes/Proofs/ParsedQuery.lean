import QueryShapes.Proofs.Success
import QueryShapes.Sql.Evaluable

/-!
# Trees that are read from a text

- `QueryText.query?_eq_ok_iff`: the parts of a query come from the parts of its text.
- `sources?_ok`: every source is a table of the text, or is joined to one.
- `ofText?_sources`: the first source of a query that was read has kind `base` and no conditions.
-/

namespace QueryShapes

namespace Sql

theorem Expr.shifted?_ok {left right whole : Expr} {sign : Int64 → Int64} {operand : Operand}
    (h : shifted? left right sign whole = .ok operand) :
    ∃ c n, left.column? = .ok c ∧ right.literal? = .ok (.integer n) ∧
      operand = .shifted c (sign n) := by
  obtain ⟨c, column, h⟩ := bind_eq_ok_iff.mp h
  obtain ⟨value, amount, h⟩ := bind_eq_ok_iff.mp h
  cases value with
  | integer n =>
    cases h
    exact ⟨c, n, column, amount, rfl⟩
  | _ => cases h

/-! ## Calls -/

namespace Expr

/-- The number of digits that a call of `round` may ask for. -/
def NoDigits (rest : List Argument) : Prop :=
  rest = [] ∨ ∃ precision, rest = [.expr precision] ∧ precision.literal? = .ok (.integer 0)

/-- The call stands for the aggregate: for one of its own, or for the one of the call that it rounds. -/
inductive Aggregates : Expr → Aggregate → Prop
  | plain {function : List Name} {arguments : Option (List Argument)} {args : List Argument}
      {extras : CallExtras} {call : Aggregate} : extras.windowed = false →
    placedArguments? function arguments extras = .ok args → pathBinding function ≠ "round" →
    plainAggregate? (pathBinding function) args (Expr.call function arguments extras).render =
      .ok call →
    Aggregates (.call function arguments extras) call
  | rounded {function : List Name} {inner : Expr} {args rest : List Argument} {extras : CallExtras}
      {call : Aggregate} : extras.windowed = false →
    placedArguments? function (some (.expr inner :: rest)) extras = .ok args →
    pathBinding function = "round" → NoDigits rest → Aggregates inner call →
    Aggregates (.call function (some (.expr inner :: rest)) extras) { call with rounded := true }

theorem aggregates_of_aggregate? (e : Expr) {call : Aggregate} (h : e.aggregate? = .ok call) :
    e.Aggregates call := by
  cases e with
  | call function arguments extras =>
    unfold aggregate? at h
    dsimp only at h
    split at h
    · cases h
    rename_i windowed
    obtain ⟨args, placed, h⟩ := bind_eq_ok_iff.mp h
    have windowed : extras.windowed = false := by simpa using windowed
    split at h
    · rename_i round
      split at h
      · obtain ⟨inner, read, ⟨⟩⟩ := bind_eq_ok_iff.mp h
        exact .rounded windowed placed round (.inl rfl) (aggregates_of_aggregate? _ read)
      · obtain ⟨_, digits, h⟩ := bind_eq_ok_iff.mp h
        split at h
        · rename_i zero
          obtain ⟨inner, read, ⟨⟩⟩ := bind_eq_ok_iff.mp h
          exact .rounded windowed placed round (.inr ⟨_, rfl, zero ▸ digits⟩)
            (aggregates_of_aggregate? _ read)
        · cases h
      · cases h
    · rename_i other
      exact .plain windowed placed other h
  | _ => cases h

theorem aggregate?_eq_ok_iff {e : Expr} {call : Aggregate} :
    e.aggregate? = .ok call ↔ e.Aggregates call := by
  refine ⟨aggregates_of_aggregate? e, fun h => ?_⟩
  induction h with
  | plain windowed placed other told =>
    unfold aggregate?
    simp [windowed, placed, other, told, bind, Except.bind]
  | @rounded _ inner _ _ _ _ windowed placed round digits read ih =>
    cases inner with
    | call =>
      unfold aggregate?
      obtain rfl | ⟨precision, rfl, zero⟩ := digits
      · simp [windowed, placed, round, ih, bind, Except.bind, pure, Except.pure]
      · simp [windowed, placed, round, ih, zero, bind, Except.bind, pure, Except.pure]
    | _ => cases read

end Expr

/-! ## Sources -/

theorem TableTerm.source?_ok {kind : JoinKind} {table : TableTerm} {source : Source}
    (h : table.source? kind = .ok source) : source.kind = kind ∧ source.conditions = [] := by
  cases table with
  | table path _ label _ =>
    obtain rfl := Except.ok.inj h
    exact ⟨rfl, rfl⟩
  | _ => simp [TableTerm.source?] at h

theorem FromTerm.sources?_ok {kind : JoinKind} {term : FromTerm} {sources : List Source}
    (h : term.sources? kind = .ok sources) :
    ∃ first rest, sources = first :: rest ∧ term.table.source? kind = .ok first ∧
      ∀ s ∈ rest, ∃ join ∈ term.joins, join.source? = .ok s := by
  obtain ⟨first, hfirst, h⟩ := bind_eq_ok_iff.mp h
  obtain ⟨rest, hrest, h⟩ := bind_eq_ok_iff.mp h
  obtain rfl := Except.ok.inj h
  exact ⟨first, rest, rfl, hfirst, fun s hs => mem_of_mapM hrest hs⟩

/-- The first source is the first table. Every other one is a table after a comma or is joined. -/
theorem sources?_ok {terms : List FromTerm} {sources : List Source}
    (h : sources? terms = .ok sources) :
    ∃ first rest, sources = first :: rest ∧ (∃ term ∈ terms, term.table.source? .base = .ok first) ∧
      ∀ s ∈ rest, (∃ term ∈ terms, term.table.source? .cross = .ok s) ∨
        ∃ term ∈ terms, ∃ join ∈ term.joins, join.source? = .ok s := by
  cases terms with
  | nil => cases h
  | cons term others =>
    obtain ⟨base, hbase, h⟩ := bind_eq_ok_iff.mp h
    obtain ⟨groups, hothers, h⟩ := bind_eq_ok_iff.mp h
    obtain rfl := Except.ok.inj h
    obtain ⟨first, rest, rfl, hfirst, joined⟩ := FromTerm.sources?_ok hbase
    refine ⟨first, rest ++ groups.flatten, List.cons_append, ⟨term, List.mem_cons_self, hfirst⟩, ?_⟩
    intro s hs
    obtain near | far := List.mem_append.mp hs
    · exact .inr ⟨term, List.mem_cons_self, joined s near⟩
    · obtain ⟨group, member, here⟩ := List.mem_flatten.mp far
      obtain ⟨other, listed, told⟩ := mem_of_mapM hothers member
      have listed : other ∈ term :: others := List.mem_cons_of_mem _ listed
      obtain ⟨table, rest, rfl, htable, joined⟩ := FromTerm.sources?_ok told
      obtain rfl | later := List.mem_cons.mp here
      · exact .inl ⟨other, listed, htable⟩
      · exact .inr ⟨other, listed, joined s later⟩

/-! ## Queries -/

/-- The parts of a query come from those of a text without clauses that are not evaluated. -/
structure QueryText.Reads (text : QueryText) (select : SelectText) (query : Query) : Prop where
  body : text.body = .select select
  commonTables : text.commonTables = none
  offset : text.offset = none
  having : select.having = none
  distinct : query.distinct = select.distinct.isSome
  items : select.items.mapM SelectTerm.item? = .ok query.items
  sources : sources? select.tables = .ok query.sources
  filter : (select.filter.map Expr.predicates?).getD (.ok []) = .ok query.filter
  groupBy : select.grouping.columns? = .ok query.groupBy
  orderBy : text.orderBy.mapM OrderTerm.sortKey? = .ok query.orderBy
  limit : text.limit.mapM Expr.limit? = .ok query.limit

theorem QueryText.query?_eq_ok_iff {text : QueryText} {query : Query} :
    text.query? = .ok query ↔ ∃ select, text.Reads select query := by
  constructor
  · intro h
    unfold query? at h
    dsimp only at h
    split at h
    · cases h
    rename_i commonTables
    split at h
    · cases h
    rename_i offset
    split at h
    · cases h
    rename_i select body
    split at h
    · cases h
    rename_i having
    obtain ⟨_, items, h⟩ := bind_eq_ok_iff.mp h
    obtain ⟨_, sources, h⟩ := bind_eq_ok_iff.mp h
    obtain ⟨_, filter, h⟩ := bind_eq_ok_iff.mp h
    obtain ⟨_, groupBy, h⟩ := bind_eq_ok_iff.mp h
    obtain ⟨_, orderBy, h⟩ := bind_eq_ok_iff.mp h
    obtain ⟨_, limit, h⟩ := bind_eq_ok_iff.mp h
    obtain rfl := Except.ok.inj h
    exact ⟨select, body, by simpa using commonTables, by simpa using offset, by simpa using having,
      rfl, items, sources, filter, groupBy, orderBy, limit⟩
  · rintro ⟨select, parts⟩
    unfold query?
    simp [parts.body, parts.commonTables, parts.offset, parts.having, ← parts.distinct, parts.items,
      parts.sources, parts.filter, parts.groupBy, parts.orderBy, parts.limit, bind, Except.bind, pure,
      Except.pure]

theorem QueryText.reads_of_query? {text : QueryText} {select : SelectText} {query : Query}
    (body : text.body = .select select) (h : text.query? = .ok query) : text.Reads select query := by
  obtain ⟨_, parts⟩ := query?_eq_ok_iff.mp h
  cases parts.body.symm.trans body
  exact parts

end Sql

theorem Query.ofText?_eq_ok_iff {text : String} {query : Query} : Query.ofText? text = .ok query ↔
    ∃ q, Sql.statements? text = some [.query q] ∧ q.query? = .ok query := by
  constructor
  · intro h
    unfold Query.ofText? at h
    cases read : Sql.statements? text with
    | none => simp [read] at h
    | some statements =>
      simp only [read] at h
      have single := ok_of_mapError h
      unfold Sql.singleQuery? at single
      split at single
      · exact ⟨_, rfl, single⟩
      · cases single
      · cases single
  · rintro ⟨q, read, single⟩
    have singled : Sql.singleQuery? [.query q] = .ok query := single
    simp only [Query.ofText?, read, singled]
    rfl

/-- The first source of a query that was read is joined to nothing. -/
theorem Query.ofText?_sources {text : String} {query : Query} (h : Query.ofText? text = .ok query) :
    ∃ first rest, query.sources = first :: rest ∧ first.kind = .base ∧ first.conditions = [] := by
  obtain ⟨_, _, single⟩ := Query.ofText?_eq_ok_iff.mp h
  obtain ⟨_, parts⟩ := Sql.QueryText.query?_eq_ok_iff.mp single
  obtain ⟨first, rest, listed, ⟨_, _, table⟩, _⟩ := Sql.sources?_ok parts.sources
  exact ⟨first, rest, listed, Sql.TableTerm.source?_ok table⟩

end QueryShapes

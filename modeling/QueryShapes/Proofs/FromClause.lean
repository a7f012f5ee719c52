import QueryShapes.Proofs.ParsedQuery

/-!
# Where the tables of a query are named

- `Rule.beforeTables`: what stands in a text before the `FROM` of its one query.
- `ofText?_tables`: the first table of a query that was read is named right after that word.
-/

namespace QueryShapes

namespace Sql

open Reading

namespace Rule

/-- What stands before the tables of a selection. -/
def beforeTables (g : Nesting) : Rule Unit := do
  requireKeyword "SELECT"
  let _ ← distinct g
  let _ ← optionalText " TOP " (keyword "TOP") (top g)
  let _ ← selectTerms g
  let _ ← optionalText " INTO " (keyword "INTO") intoText

/-! ## Rules that take a token or nothing -/

variable {tokens rest : List Token}

theorem takeIf_eq_some {τ : Type} {test : τ → Bool} {items rest : List τ} {b : Bool}
    (h : (takeIf test).run? items = some (b, rest)) :
    (b = true ∧ ∃ item, items = item :: rest ∧ test item = true) ∨ (b = false ∧ rest = items) := by
  cases items with
  | nil =>
    cases h
    exact .inr ⟨rfl, rfl⟩
  | cons item items =>
    simp only [takeIf] at h
    split at h <;> cases h
    · exact .inl ⟨rfl, item, rfl, ‹_›⟩
    · exact .inr ⟨rfl, rfl⟩

theorem run?_if_eq_some {τ α : Type} {test : τ → Bool} {yes no : Reading τ α} {items rest : List τ}
    {a : α} (h : (do if ← takeIf test then yes else no).run? items = some (a, rest)) :
    (∃ item middle, items = item :: middle ∧ test item = true ∧ yes.run? middle = some (a, rest)) ∨
      no.run? items = some (a, rest) := by
  obtain ⟨b, middle, taken, later⟩ := run?_bind_eq_some.mp h
  obtain ⟨rfl, item, here, passes⟩ | ⟨rfl, same⟩ := takeIf_eq_some taken
  · exact .inl ⟨item, middle, here, passes, later⟩
  · exact .inr (same ▸ later)

theorem keywordOf?_eq_none {words : List String}
    (h : (keywordOf? words).run? tokens = some (none, rest)) : rest = tokens := by
  induction words with
  | nil =>
    cases h
    rfl
  | cons word words ih =>
    obtain ⟨_, _, _, _, taken⟩ | later := run?_if_eq_some h
    · cases taken
    · exact ih later

theorem after?_eq_none {α : Type} {mark : Rule Bool} {rule : Rule α}
    (h : (after? mark rule).run? tokens = some (none, rest)) :
    mark.run? tokens = some (false, rest) := by
  obtain ⟨b, middle, marked, h⟩ := run?_bind_eq_some.mp h
  cases b with
  | false =>
    cases h
    exact marked
  | true =>
    obtain ⟨_, _, _, h⟩ := run?_bind_eq_some.mp h
    cases h

theorem after?_eq_some {α : Type} {mark : Rule Bool} {rule : Rule α} {a : α}
    (h : (after? mark rule).run? tokens = some (some a, rest)) :
    ∃ middle, mark.run? tokens = some (true, middle) ∧ rule.run? middle = some (a, rest) := by
  obtain ⟨b, middle, marked, h⟩ := run?_bind_eq_some.mp h
  cases b with
  | false => cases h
  | true =>
    obtain ⟨_, _, taken, h⟩ := run?_bind_eq_some.mp h
    cases h
    exact ⟨middle, marked, taken⟩

/-! ## The first table -/

theorem turned_eq_table {g : Nesting} {table : TableTerm} {path : List Name} {arguments : String}
    {label : Option Name} {hints : String}
    (h : (turned g table).run? tokens = some (.table path arguments label hints, rest)) :
    table = .table path arguments label hints := by
  obtain ⟨turns, _, _, h⟩ := run?_bind_eq_some.mp h
  cases turns with
  | nil =>
    cases h
    rfl
  | cons => cases h

theorem namedTable_path {g : Nesting} {path : List Name} {arguments : String}
    {label : Option Name} {hints : String}
    (h : (namedTable g).run? tokens = some (.table path arguments label hints, rest)) :
    ∃ after, Rule.path.run? tokens = some (path, after) ∧ rest <:+ after := by
  obtain ⟨first, after, taken, h⟩ := run?_bind_eq_some.mp h
  refine ⟨after, ?_, leaves_suffix _ h⟩
  obtain ⟨_, _, _, h⟩ := run?_bind_eq_some.mp h
  obtain ⟨_, _, _, h⟩ := run?_bind_eq_some.mp h
  obtain ⟨_, _, _, h⟩ := run?_bind_eq_some.mp h
  obtain ⟨⟨_, _⟩, _, _, h⟩ := run?_bind_eq_some.mp h
  obtain ⟨_, _, _, h⟩ := run?_bind_eq_some.mp h
  obtain ⟨_, _, _, h⟩ := run?_bind_eq_some.mp h
  obtain ⟨_, _, _, h⟩ := run?_bind_eq_some.mp h
  cases turned_eq_table h
  exact taken

theorem parenthesizedTable_ne_table {g : Nesting} {path : List Name} {arguments : String}
    {label : Option Name} {hints : String} :
    (parenthesizedTable g).run? tokens ≠ some (.table path arguments label hints, rest) := by
  intro h
  obtain ⟨derived?, _, _, h⟩ := run?_bind_eq_some.mp h
  cases derived? with
  | some text => cases turned_eq_table h
  | none =>
    obtain ⟨_, _, _, h⟩ := run?_bind_eq_some.mp h
    cases h

theorem tableTerm_path {g : Nesting} {path : List Name} {arguments : String}
    {label : Option Name} {hints : String}
    (h : (tableTerm g).run? tokens = some (.table path arguments label hints, rest)) :
    ∃ after, Rule.path.run? tokens = some (path, after) ∧ rest <:+ after := by
  obtain ⟨_, _, _, _, h⟩ | h := run?_if_eq_some h
  · obtain ⟨_, _, _, _, h⟩ | h := run?_if_eq_some h
    · obtain ⟨_, _, _, h⟩ := run?_bind_eq_some.mp h
      cases h
    · obtain ⟨_, _, _, h⟩ := run?_bind_eq_some.mp h
      obtain ⟨_, _, _, h⟩ := run?_bind_eq_some.mp h
      obtain ⟨_, _, _, h⟩ := run?_bind_eq_some.mp h
      obtain ⟨_, _, _, h⟩ := run?_bind_eq_some.mp h
      cases h
  obtain ⟨_, _, _, _, h⟩ | h := run?_if_eq_some h
  · obtain ⟨_, _, _, h⟩ := run?_bind_eq_some.mp h
    obtain ⟨_, _, _, h⟩ := run?_bind_eq_some.mp h
    cases h
  obtain ⟨_, _, _, _, h⟩ | h := run?_if_eq_some h
  · exact absurd h parenthesizedTable_ne_table
  obtain ⟨_, _, ⟨⟩, h⟩ := run?_bind_eq_some.mp h
  obtain ⟨_, _, ⟨⟩, h⟩ := run?_bind_eq_some.mp h
  split at h
  · obtain ⟨_, _, _, h⟩ := run?_bind_eq_some.mp h
    obtain ⟨_, _, _, h⟩ := run?_bind_eq_some.mp h
    obtain ⟨_, _, _, h⟩ := run?_bind_eq_some.mp h
    cases h
  · exact namedTable_path h

theorem separated_first {τ α : Type} {separator : Reading τ Bool} {item : Reading τ α}
    {items rest : List τ} {as : List α}
    (h : (separated separator item).run? items = some (as, rest)) :
    ∃ first others middle, as = first :: others ∧ item.run? items = some (first, middle) := by
  change (separatedWithin separator item (items.length + 1)).run? items = some (as, rest) at h
  obtain ⟨first, middle, taken, h⟩ := run?_bind_eq_some.mp h
  obtain ⟨more, _, _, h⟩ := run?_bind_eq_some.mp h
  cases more with
  | false =>
    cases h
    exact ⟨first, [], middle, rfl, taken⟩
  | true =>
    obtain ⟨others, _, _, h⟩ := run?_bind_eq_some.mp h
    cases h
    exact ⟨first, others, middle, rfl, taken⟩

theorem joined_first {g : Nesting} {term : FromTerm}
    (h : (joined g).run? tokens = some (term, rest)) :
    ∃ middle, (tableTerm g).run? tokens = some (term.table, middle) := by
  obtain ⟨table, middle, taken, h⟩ := run?_bind_eq_some.mp h
  obtain ⟨_, _, _, h⟩ := run?_bind_eq_some.mp h
  cases h
  exact ⟨middle, taken⟩

/-! ## The one query of a text -/

theorem select_tables {g : Nesting} {s : SelectText}
    (h : (select g).run? tokens = some (s, rest)) :
    ∃ middle tables? after, (beforeTables g).run? tokens = some ((), middle) ∧
      (after? (keyword "FROM") (commas g.joined)).run? middle = some (tables?, after) ∧
      s.tables = tables?.getD [] ∧ ∃ later left, later <:+ after ∧
        (after? (keyword "WHERE") g.expr).run? later = some (s.filter, left) := by
  obtain ⟨_, _, marked, h⟩ := run?_bind_eq_some.mp h
  obtain ⟨_, _, distinct, h⟩ := run?_bind_eq_some.mp h
  obtain ⟨_, _, top, h⟩ := run?_bind_eq_some.mp h
  obtain ⟨_, _, terms, h⟩ := run?_bind_eq_some.mp h
  obtain ⟨_, middle, into, h⟩ := run?_bind_eq_some.mp h
  obtain ⟨tables?, after, tables, h⟩ := run?_bind_eq_some.mp h
  have before : (beforeTables g).run? tokens = some ((), middle) :=
    run?_bind_eq_some.mpr ⟨_, _, marked, run?_bind_eq_some.mpr ⟨_, _, distinct,
      run?_bind_eq_some.mpr ⟨_, _, top, run?_bind_eq_some.mpr ⟨_, _, terms,
        run?_bind_eq_some.mpr ⟨_, _, into, rfl⟩⟩⟩⟩⟩
  refine ⟨middle, tables?, after, before, tables, ?_⟩
  obtain ⟨_, later, views, h⟩ := run?_bind_eq_some.mp h
  obtain ⟨_, left, filter, h⟩ := run?_bind_eq_some.mp h
  obtain ⟨_, _, _, h⟩ := run?_bind_eq_some.mp h
  obtain ⟨_, _, _, h⟩ := run?_bind_eq_some.mp h
  obtain ⟨_, _, _, h⟩ := run?_bind_eq_some.mp h
  obtain ⟨_, _, _, h⟩ := run?_bind_eq_some.mp h
  obtain ⟨_, _, _, h⟩ := run?_bind_eq_some.mp h
  obtain ⟨_, _, _, h⟩ := run?_bind_eq_some.mp h
  cases h
  exact ⟨rfl, later, left, leaves_suffix _ views, filter⟩

theorem plainBody_select {g : Nesting} {s : SelectText}
    (h : (plainBody g).run? tokens = some (.select s, rest)) :
    (select g).run? tokens = some (s, rest) := by
  obtain ⟨_, _, ⟨⟩, h⟩ := run?_bind_eq_some.mp h
  split at h
  · obtain ⟨_, _, taken, h⟩ := run?_bind_eq_some.mp h
    cases h
    exact taken
  obtain ⟨_, _, _, _, h⟩ | h := run?_if_eq_some h
  · obtain ⟨_, _, _, h⟩ := run?_bind_eq_some.mp h
    obtain ⟨_, _, _, h⟩ := run?_bind_eq_some.mp h
    cases h
  obtain ⟨_, _, _, _, h⟩ | h := run?_if_eq_some h
  · obtain ⟨_, _, _, h⟩ := run?_bind_eq_some.mp h
    cases h
  · obtain ⟨_, _, _, h⟩ := run?_bind_eq_some.mp h
    obtain ⟨_, _, _, h⟩ := run?_bind_eq_some.mp h
    cases h

theorem body_select {g : Nesting} {s : SelectText}
    (h : (body g).run? tokens = some (.select s, rest)) :
    ∃ middle, (select g).run? tokens = some (s, middle) := by
  obtain ⟨first, middle, taken, h⟩ := run?_bind_eq_some.mp h
  obtain ⟨others, _, _, h⟩ := run?_bind_eq_some.mp h
  cases others with
  | nil =>
    cases h
    exact ⟨middle, plainBody_select taken⟩
  | cons => cases h

theorem query_select {g : Nesting} {q : QueryText} {s : SelectText}
    (h : (query g).run? tokens = some (q, rest)) (plain : q.commonTables = none)
    (selects : q.body = .select s) : ∃ middle, (select g).run? tokens = some (s, middle) := by
  obtain ⟨commonTables, start, introduced, h⟩ := run?_bind_eq_some.mp h
  obtain ⟨word?, next, changes, h⟩ := run?_bind_eq_some.mp h
  cases word? with
  | some word =>
    dsimp only at h
    split at h <;> obtain ⟨_, _, _, ⟨⟩⟩ := run?_bind_eq_some.mp h <;> cases selects
  | none =>
    obtain ⟨b, middle, taken, h⟩ := run?_bind_eq_some.mp h
    obtain ⟨_, _, _, h⟩ := run?_bind_eq_some.mp h
    obtain ⟨⟨_, _⟩, _, _, h⟩ := run?_bind_eq_some.mp h
    obtain ⟨⟨_, _⟩, _, _, h⟩ := run?_bind_eq_some.mp h
    obtain ⟨_, _, _, h⟩ := run?_bind_eq_some.mp h
    obtain ⟨_, _, _, h⟩ := run?_bind_eq_some.mp h
    cases h
    obtain rfl : commonTables = none := plain
    obtain rfl : b = .select s := selects
    have unmarked := after?_eq_none introduced
    obtain ⟨⟨⟩, _⟩ | ⟨_, same⟩ := takeIf_eq_some unmarked
    have same' := keywordOf?_eq_none changes
    rw [same', same] at taken
    exact body_select taken

theorem statement_query {g : Nesting} {q : QueryText}
    (h : (statement g).run? tokens = some (.query q, rest)) :
    g.query.run? tokens = some (q, rest) := by
  obtain ⟨_, _, ⟨⟩, h⟩ := run?_bind_eq_some.mp h
  obtain ⟨_, _, ⟨⟩, h⟩ := run?_bind_eq_some.mp h
  split at h
  · obtain ⟨_, _, taken, h⟩ := run?_bind_eq_some.mp h
    cases h
    exact taken
  · obtain ⟨_, _, _, h⟩ := run?_bind_eq_some.mp h
    cases h

/-- Separators between statements. -/
def separators : Rule (List Unit) := repeated do return if ← symbol ";" then some () else none

theorem statements_first {rule : Rule Statement} {first : Statement} {others : List Statement}
    (h : (statements rule).run? tokens = some (first :: others, rest)) :
    ∃ separating start middle, separators.run? tokens = some (separating, start) ∧
      rule.run? start = some (first, middle) := by
  change (statementsWithin rule (tokens.length + 1) true).run? tokens = _ at h
  obtain ⟨separating, start, separated, h⟩ := run?_bind_eq_some.mp h
  refine ⟨separating, start, ?_⟩
  obtain ⟨next?, middle, taken, h⟩ := run?_bind_eq_some.mp h
  cases next? with
  | none => cases h
  | some next =>
    obtain ⟨_, _, _, h⟩ := run?_bind_eq_some.mp h
    cases h
    refine ⟨middle, separated, ?_⟩
    obtain ⟨ahead, _, ⟨⟩, taken⟩ := run?_bind_eq_some.mp taken
    split at taken
    · cases taken
    · obtain ⟨_, _, reads, taken⟩ := run?_bind_eq_some.mp taken
      cases taken
      exact reads

end Rule

/-- The rules for what stands inside the one query of a text of so many tokens. -/
def grammarWithin (count : Nat) : Nesting := nesting (2 * count) (depthLimit - 2)

/-- The tokens from the end of a select list on. -/
def TablesAt (tokens rest : List Token) : Prop :=
  ∃ separating start, Rule.separators.run? tokens = some (separating, start) ∧
    (Rule.beforeTables (grammarWithin tokens.length)).run? start = some ((), rest)

theorem TablesAt.suffix {tokens rest : List Token} (h : TablesAt tokens rest) :
    rest <:+ tokens := by
  obtain ⟨_, _, separated, read⟩ := h
  exact (Reading.leaves_suffix _ read).trans (Reading.leaves_suffix _ separated)

theorem TablesAt.unique {tokens rest rest' : List Token} (h : TablesAt tokens rest)
    (h' : TablesAt tokens rest') : rest = rest' := by
  obtain ⟨_, _, separated, read⟩ := h
  obtain ⟨_, _, separated', read'⟩ := h'
  cases separated.symm.trans separated'
  cases read.symm.trans read'
  rfl

theorem joined_nested {fuel depth : Nat} {tokens rest : List Token} {term : FromTerm}
    (h : (nesting fuel depth).joined.run? tokens = some (term, rest)) :
    ∃ g, (Rule.joined g).run? tokens = some (term, rest) := by
  cases fuel with
  | zero => cases h
  | succ fuel => exact ⟨nesting fuel depth, h⟩

/-! ## From the text to its first table -/

theorem sources?_first {term : FromTerm} {others : List FromTerm} {sources : List Source}
    (h : sources? (term :: others) = .ok sources) :
    ∃ path arguments label hints first rest, term.table = .table path arguments label hints ∧
      sources = first :: rest ∧ first.table = pathBinding path := by
  obtain ⟨base, hbase, h⟩ := bind_eq_ok_iff.mp h
  obtain ⟨_, _, ⟨⟩⟩ := bind_eq_ok_iff.mp h
  obtain ⟨first, hfirst, hbase⟩ := bind_eq_ok_iff.mp hbase
  obtain ⟨rest, _, ⟨⟩⟩ := bind_eq_ok_iff.mp hbase
  cases table : term.table with
  | table path arguments label hints =>
    rw [table] at hfirst
    cases hfirst
    exact ⟨path, arguments, label, hints, _, _, rfl, List.cons_append, rfl⟩
  | _ => simp [table, TableTerm.source?] at hfirst

/-- A selection whose sources can be told names the first of them after the word `FROM`. -/
theorem Rule.select_first {count : Nat} {tokens rest : List Token} {select : SelectText}
    {sources : List Source}
    (h : (Rule.select (grammarWithin count)).run? tokens = some (select, rest))
    (told : sources? select.tables = .ok sources) :
    ∃ word after path left first others,
      (Rule.beforeTables (grammarWithin count)).run? tokens = some ((), word :: after) ∧
      word.keyword = "FROM" ∧ Rule.path.run? after = some (path, left) ∧
      sources = first :: others ∧ first.table = pathBinding path := by
  obtain ⟨middle, tables?, _, before, read, tables, _⟩ := select_tables h
  rw [tables] at told
  cases tables? with
  | none => cases told
  | some terms =>
    obtain ⟨_, marked, listed⟩ := after?_eq_some read
    obtain ⟨_, word, rfl, isFrom⟩ | ⟨⟨⟩, _⟩ := takeIf_eq_some marked
    obtain ⟨term, others, _, rfl, joined⟩ := separated_first listed
    obtain ⟨path, _, _, _, first, more, table, rfl, named⟩ := sources?_first told
    obtain ⟨_, joined⟩ := joined_nested joined
    obtain ⟨_, termRead⟩ := joined_first joined
    rw [table] at termRead
    obtain ⟨left, pathRead, _⟩ := tableTerm_path termRead
    exact ⟨word, _, path, left, first, more, before, by simpa using isFrom, pathRead, rfl, named⟩

end Sql

/-- A query that was read is read from a selection behind separators. -/
theorem Query.ofText?_selection {text : String} {query : Query}
    (h : Query.ofText? text = .ok query) :
    ∃ tokens separating start select rest, Sql.tokens? text = some tokens ∧
      Sql.Rule.separators.run? tokens = some (separating, start) ∧
      (Sql.Rule.select (Sql.grammarWithin tokens.length)).run? start = some (select, rest) ∧
      Sql.sources? select.tables = .ok query.sources ∧
      (select.filter.map Sql.Expr.predicates?).getD (.ok []) = .ok query.filter := by
  obtain ⟨q, read, single⟩ := Query.ofText?_eq_ok_iff.mp h
  obtain ⟨tokens, lexed, read⟩ := Option.bind_eq_some_iff.mp read
  obtain ⟨⟨_, _⟩, run, ⟨⟩⟩ := Option.bind_eq_some_iff.mp read
  obtain ⟨select, parts⟩ := Sql.QueryText.query?_eq_ok_iff.mp single
  obtain ⟨separating, start, _, separated, statement⟩ := Sql.Rule.statements_first run
  obtain ⟨rest, selected⟩ :=
    Sql.Rule.query_select (Sql.Rule.statement_query statement) parts.commonTables parts.body
  exact ⟨tokens, separating, start, select, rest, lexed, separated, selected, parts.sources,
    parts.filter⟩

/-- The first table of a query that was read is named right after the `FROM` that follows its select
list. -/
theorem Query.ofText?_tables {text : String} {query : Query}
    (h : Query.ofText? text = .ok query) :
    ∃ tokens word after path left first others, Sql.tokens? text = some tokens ∧
      Sql.TablesAt tokens (word :: after) ∧ word.keyword = "FROM" ∧
      Sql.Rule.path.run? after = some (path, left) ∧
      query.sources = first :: others ∧ first.table = Sql.pathBinding path := by
  obtain ⟨tokens, separating, start, select, _, lexed, separated, selected, sources, _⟩ :=
    ofText?_selection h
  obtain ⟨word, after, path, left, first, others, before, isFrom, pathRead, listed, named⟩ :=
    Sql.Rule.select_first selected sources
  exact ⟨tokens, word, after, path, left, first, others, lexed,
    ⟨separating, start, separated, before⟩, isFrom, pathRead, listed, named⟩

end QueryShapes

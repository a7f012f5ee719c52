import QueryShapes.Proofs.Product

/-!
# Where columns are read

- `satisfies_eq`: an equality holds where both sides have values, and these are loosely equal.
- `row?_of_mem_product`: a tuple of the product binds a stored row of each source.
- `Held`: a column is qualified, or every row of the source that it belongs to has it.
- `resolve?_of_mem_product`: a column that is held is read from the source that it belongs to.
-/

namespace QueryShapes

/-- There are two values, and these are loosely equal. -/
def bothEqual (a b : Option Value) : Bool :=
  match a, b with
  | some x, some y => x.looselyEquals y
  | _, _ => false

theorem bothEqual_iff {a b : Option Value} : bothEqual a b = true ↔
    ∃ x y, a = some x ∧ b = some y ∧ x.looselyEquals y = true := by
  cases a <;> cases b <;> simp [bothEqual]

namespace Tuple

theorem row?_single_append (binding name : String) (row : Row) (t : Tuple) :
    ((single binding row).append t).row? name = if binding = name then some row else t.row? name := by
  by_cases h : binding = name <;> simp [single, append, row?, h]

theorem resolve?_qualified {t : Tuple} {binding : String} {row : Row}
    (bound : t.row? binding = some row) (name : String) :
    t.resolve? ⟨some binding, name⟩ = row.get? name := by
  simp [resolve?, bound]

theorem resolve?_bare_of_first {t : Tuple} {binding : String} {row : Row} {name : String}
    (has : (row.get? name).isSome) :
    ((single binding row).append t).resolve? ⟨none, name⟩ = row.get? name := by
  obtain ⟨value, hvalue⟩ := Option.isSome_iff_exists.mp has
  simp [resolve?, single, append, hvalue]

theorem satisfies_eq (t : Tuple) (l r : Operand) :
    t.satisfies ⟨l, .eq, r⟩ = bothEqual (t.evaluate? l) (t.evaluate? r) := by
  unfold satisfies bothEqual
  cases t.evaluate? l with
  | none => rfl
  | some x =>
    cases t.evaluate? r with
    | none => rfl
    | some y => cases h : x.compare? y <;> simp [h, Value.looselyEquals, Comparison.holds]

theorem satisfies_eq_iff {t : Tuple} {l r : Operand} :
    t.satisfies ⟨l, .eq, r⟩ = true ↔
      ∃ x y, t.evaluate? l = some x ∧ t.evaluate? r = some y ∧ x.looselyEquals y = true := by
  rw [satisfies_eq]
  exact bothEqual_iff

theorem satisfies_iff {t : Tuple} {p : Predicate} : t.satisfies p ↔
    ∃ u v o, t.evaluate? p.left = some u ∧ t.evaluate? p.right = some v ∧ u.compare? v = some o ∧
      p.op.holds o := by
  unfold satisfies
  cases t.evaluate? p.left <;> cases t.evaluate? p.right <;> simp [Option.any_eq_true]

end Tuple

/-- Every row of the source's relation has a field of that name. -/
def Source.HasField (source : Source) (store : Store) (name : String) : Prop :=
  ∀ relation ∈ store.relation? source.table, ∀ row ∈ relation.rows, (row.get? name).isSome

namespace Query

variable {store : Store}

theorem mem_product_cons {source : Source} {rest : List Source} {tuples : List Tuple}
    (h : product? store (source :: rest) = some tuples) {t : Tuple} (ht : t ∈ tuples) :
    ∃ relation row tails u, store.relation? source.table = some relation ∧ row ∈ relation.rows ∧
      product? store rest = some tails ∧ u ∈ tails ∧
      t = (Tuple.single source.binding row).append u := by
  simp only [product?, Option.bind_eq_bind, Option.bind_eq_some_iff, Option.pure_def,
    Option.some_inj] at h
  obtain ⟨relation, found, tails, htails, rfl⟩ := h
  obtain ⟨row, hrow, extended⟩ := List.mem_flatMap.mp ht
  obtain ⟨u, hu, rfl⟩ := List.mem_map.mp extended
  exact ⟨relation, row, tails, u, found, hrow, htails, hu, rfl⟩

theorem row?_of_mem_product {sources : List Source} {tuples : List Tuple}
    (h : product? store sources = some tuples) {t : Tuple} (ht : t ∈ tuples) {name : String}
    {source : Source} (owner : sources.find? (·.binding = name) = some source) :
    ∃ relation row, store.relation? source.table = some relation ∧ row ∈ relation.rows ∧
      t.row? name = some row := by
  induction sources generalizing tuples t with
  | nil => cases owner
  | cons first rest ih =>
    obtain ⟨relation, row, tails, u, found, hrow, htails, hu, rfl⟩ := mem_product_cons h ht
    rw [Tuple.row?_single_append]
    by_cases here : first.binding = name
    · rw [List.find?_cons_of_pos (by simpa using here)] at owner
      obtain rfl := Option.some_inj.mp owner
      exact ⟨relation, row, found, hrow, by simp [here]⟩
    · rw [List.find?_cons_of_neg (by simpa using here)] at owner
      obtain ⟨relation', row', found', hrow', bound⟩ := ih htails hu owner
      exact ⟨relation', row', found', hrow', by simp [here, bound]⟩

/-- The column is qualified, or a field of every row of the source. -/
def Held (store : Store) (source : Source) (column : Column) : Prop :=
  column.qualifier.isSome ∨ source.HasField store column.name

theorem resolve?_of_mem_product {query : Query} {tuples : List Tuple}
    (h : product? store query.sources = some tuples) {t : Tuple} (ht : t ∈ tuples)
    {column : Column} {source : Source} (owner : query.sourceOf? column = some source)
    (held : Held store source column) :
    ∃ relation row, store.relation? source.table = some relation ∧ row ∈ relation.rows ∧
      t.row? source.binding = some row ∧ t.resolve? column = row.get? column.name := by
  obtain ⟨qualifier, name⟩ := column
  unfold sourceOf? at owner
  cases qualifier with
  | some qualifier =>
    have named : source.binding = qualifier := by simpa using List.find?_some owner
    obtain ⟨relation, row, found, hrow, bound⟩ := row?_of_mem_product h ht owner
    exact ⟨relation, row, found, hrow, named ▸ bound,
      Tuple.resolve?_qualified bound name⟩
  | none =>
    -- A bare column belongs to the first source, and there it is found at once.
    cases sources : query.sources with
    | nil => simp [sources] at owner
    | cons first rest =>
      obtain rfl : first = source := by simpa [sources] using owner
      rw [sources] at h
      obtain ⟨relation, row, tails, u, found, hrow, _, _, rfl⟩ := mem_product_cons h ht
      have has : (row.get? name).isSome := by
        obtain qualified | all := held
        · cases qualified
        · exact all relation found row hrow
      exact ⟨relation, row, found, hrow, by simp [Tuple.row?_single_append],
        Tuple.resolve?_bare_of_first has⟩

theorem mem_product_of_mem_tuples {query : Query} {tuples : List Tuple}
    (h : query.selected? store = some tuples) :
    ∃ all, product? store query.sources = some all ∧
      ∀ t ∈ tuples, t ∈ all ∧ ∀ p ∈ query.conjuncts, t.satisfies p := by
  obtain ⟨all, product, rfl⟩ := Option.map_eq_some_iff.mp h
  refine ⟨all, product, ?_⟩
  intro t ht
  obtain ⟨hall, hsatisfies⟩ := List.mem_filter.mp ht
  exact ⟨hall, List.all_eq_true.mp hsatisfies⟩

end Query

end QueryShapes

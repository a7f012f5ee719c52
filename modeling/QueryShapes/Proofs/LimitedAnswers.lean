import QueryShapes.Engine.Basic
import QueryShapes.Proofs.Selection

/-!
# Limited answers

- `Shape.CutsLast`: a shape that heeds a limit only by cutting the rows that the query gives without
  it. The built-in shapes are of that kind.
- `answer_limited`: so a limit takes the first rows of an answer, and has no say in whether there is an
  answer or a fault.
-/

namespace QueryShapes

/-- The query without its limit. -/
def Query.unlimited (query : Query) : Query := { query with limit := none }

section
variable (query : Query)

theorem Query.tuples?_unlimited (store : Store) :
    query.unlimited.tuples? store = query.tuples? store := rfl

theorem Query.projectKeyed_unlimited (key : Tuple → Row → Value) :
    query.unlimited.projectKeyed key = query.projectKeyed key := rfl

end

/-- What the shape says of a query it says without looking at the limit. Then it cuts the rows. -/
def Shape.CutsLast (shape : Shape) : Prop :=
  ∀ query store, shape.answer? query store =
    (shape.answer? query.unlimited store).map (Option.map query.cut)

/-! ## One shape after another -/

theorem JoinSort.cutsLast : shape.CutsLast := by
  intro query store
  have recognized : recognize? query.unlimited = recognize? query := rfl
  simp only [shape, answer?, recognized, Query.tuples?_unlimited, Query.projectKeyed_unlimited]
  split
  · rename_i order tuples _ _
    cases query.projectKeyed (key order) tuples with
    | error fault => rfl
    | ok keyed =>
      -- The keys of all rows have to be numbers, not only those of the rows that are kept.
      simp only [bind, Except.bind]
      split <;> rfl
  · rfl

theorem Adjacency.cutsLast : shape.CutsLast := by
  intro query store
  have recognized : recognize? query.unlimited = recognize? query := rfl
  simp only [shape, answer?, recognized]
  split
  · rename_i table field output _
    cases store.relation? table <;> rfl
  · rfl

theorem DateRange.cutsLast : shape.CutsLast := by
  intro query store
  have recognized : recognize? query.unlimited = recognize? query := rfl
  simp only [shape, answer?, recognized, Query.tuples?_unlimited, Query.projectKeyed_unlimited]
  split
  · rename_i column tuples _ _
    cases query.projectKeyed (key column) tuples <;> rfl
  · rfl

theorem Threshold.cutsLast : shape.CutsLast := by
  intro query store
  have recognized : recognizes query.unlimited = recognizes query := rfl
  have items : query.unlimited.items = query.items := rfl
  simp only [shape, answer?, recognized, Query.tuples?_unlimited, items]
  split
  · rename_i tuples _ _
    cases tuples.mapM (Tuple.project query.items) <;> rfl
  · rfl

theorem GroupAverage.groupRow_unlimited (query : Query) (mean : Aggregate) :
    groupRow query.unlimited mean = groupRow query mean := by
  funext group
  cases group <;> rfl

theorem GroupAverage.cutsLast : shape.CutsLast := by
  intro query store
  have recognized : recognize? query.unlimited = recognize? query := rfl
  simp only [shape, answer?, recognized, Query.tuples?_unlimited, groupRow_unlimited]
  split
  · rfl
  · rename_i join mean _
    split
    · rename_i parents tuples _ _
      cases (parents.rows.map (groupOf join.parent.binding tuples)).mapM (groupRow query mean) <;> rfl
    · rfl

/-! ## The built-in shapes -/

namespace Engine

theorem builtInShapes_cutLast : ∀ shape ∈ builtInShapes, shape.CutsLast := by
  refine forall_builtInShapes_iff.mpr ⟨?_, ?_, ?_, ?_, ?_⟩
  · exact JoinSort.cutsLast
  · exact Adjacency.cutsLast
  · exact DateRange.cutsLast
  · exact Threshold.cutsLast
  · exact GroupAverage.cutsLast

/-- With a limit a shape answers the first rows of what it answers without one. It recognizes the same
queries either way, and fails alike. -/
theorem answer_limited (query : Query) (store : Store) (n : Nat) {shape : Shape}
    (builtIn : shape ∈ builtInShapes) :
    shape.answer? { query with limit := some n } store =
        (shape.answer? { query with limit := none } store).map (Option.map (List.take n)) ∧
      (shape.answer? { query with limit := some n } store = .ok none ↔
        shape.answer? { query with limit := none } store = .ok none) ∧
      ∀ fault, shape.answer? { query with limit := some n } store = .error fault ↔
        shape.answer? { query with limit := none } store = .error fault := by
  have cut : shape.answer? { query with limit := some n } store =
      (shape.answer? { query with limit := none } store).map (Option.map (List.take n)) :=
    builtInShapes_cutLast shape builtIn { query with limit := some n } store
  rw [cut]
  refine ⟨rfl, ?_, fun fault => map_eq_error_iff⟩
  rw [map_eq_ok_iff]
  simp

set_option maxRecDepth 4000 in
/-- Two of three rows above a number. -/
theorem answer_limited_wellPaid : Threshold.shape ∈ builtInShapes ∧
    ∃ rows, Threshold.answer? Sample.wellPaid Sample.store = .ok (some rows) ∧ rows.length = 3 ∧
      Threshold.answer? { Sample.wellPaid with limit := some 2 } Sample.store =
        .ok (some (rows.take 2)) := by
  have builtIn : Threshold.shape ∈ builtInShapes := by simp [builtInShapes]
  have size : (Threshold.answer? Sample.wellPaid Sample.store).toOption.join.map List.length =
      some 3 := by decide
  obtain ⟨rows, given, length⟩ := Option.map_eq_some_iff.mp size
  have answered := ok_of_toOption (Option.join_eq_some_iff.mp given)
  have limited := (answer_limited Sample.wellPaid Sample.store 2 builtIn).1
  refine ⟨builtIn, rows, answered, length, limited.trans ?_⟩
  exact congrArg (Except.map (Option.map (List.take 2))) answered

end Engine

end QueryShapes

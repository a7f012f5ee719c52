import QueryShapes.Proofs.GroupPartition
import QueryShapes.Proofs.ShapePriority

/-!
# What a statement can fail with

Only averages and sums fail, over values that are no numbers, and only grouped key joins compute
them.

- `Aggregate.evaluate_error` and `Aggregate.evaluate_fails`: an aggregate fails when it takes numbers
  and meets something else.
- `Tuple.project_succeeds`: a select list without aggregates is projected from every tuple.
- `MeetsNonNumber`: a grouped key join that meets such a value.
- `execute_fails_iff`: the statements that fail, and what with.
-/

namespace QueryShapes

/-! ## Aggregates -/

/-- The value is neither null nor a number. -/
def Value.IsNonNumber (v : Value) : Prop := v.isNull = false ∧ v.isNumeric = false

/-- The function computes with numbers. -/
def AggregateFunction.TakesNumbers (function : AggregateFunction) : Prop :=
  function = .avg ∨ function = .sum

/-- What a call that met a value other than a number fails with. -/
def Fault.IsNonNumber (fault : Fault) : Prop :=
  ∃ function value, fault = .notNumeric function value ∧ function.TakesNumbers ∧ value.IsNonNumber

namespace Aggregate

variable {call : Aggregate} {values : List Value} {group : List Tuple} {fault : Fault}

theorem numbers_error (h : call.numbers values = .error fault) :
    ∃ v ∈ values, v.isNumeric = false ∧ fault = .notNumeric call.function v := by
  obtain ⟨v, hv, h⟩ := error_of_mapM h
  split at h
  · cases h
  · rename_i noNumber
    exact ⟨v, hv, by simp [Value.isNumeric, noNumber], (Except.error.inj h).symm⟩

theorem numbers_fails {v : Value} (hv : v ∈ values) (nonNumber : v.isNumeric = false) :
    ∃ fault, call.numbers values = .error fault := by
  have none : v.number? = none := by simpa [Value.isNumeric] using nonNumber
  refine mapM_fails (e := .notNumeric call.function v) hv ?_
  rw [none]

/-- Only integers have an exact sum. -/
theorem isNumeric_of_foldlM {start total : Int64}
    (h : values.foldlM (fun total value =>
      match value with
      | .integer n => checkedAdd? total n
      | _ => none) start = some total) : ∀ v ∈ values, v.isNumeric = true := by
  induction values generalizing start with
  | nil => simp
  | cons first rest ih =>
    rw [List.foldlM_cons, Option.bind_eq_bind, Option.bind_eq_some_iff] at h
    obtain ⟨next, here, later⟩ := h
    intro v hv
    obtain rfl | hv := List.mem_cons.mp hv
    · split at here
      · rfl
      · cases here
    · exact ih later v hv

theorem sum_error (h : call.sum values = .error fault) : call.numbers values = .error fault := by
  unfold sum at h
  split at h
  · cases h
  · obtain fails | ⟨_, _, h⟩ := bind_eq_error_iff.mp h
    · exact fails
    · cases h

theorem sum_fails {v : Value} (hv : v ∈ values) (nonNumber : v.isNumeric = false) :
    ∃ fault, call.sum values = .error fault := by
  unfold sum
  split
  · rename_i total exact_sum
    have number := isNumeric_of_foldlM exact_sum v hv
    simp [nonNumber] at number
  · obtain ⟨fault, fails⟩ : ∃ fault, call.numbers values = .error fault :=
      numbers_fails hv nonNumber
    exact ⟨fault, bind_eq_error_iff.mpr (.inl fails)⟩

theorem unrounded_error (h : call.unrounded group = .error fault) :
    call.function.TakesNumbers ∧ call.numbers (call.values group) = .error fault := by
  unfold unrounded at h
  dsimp only at h
  split at h
  case h_2 avg =>
    obtain fails | ⟨_, _, h⟩ := bind_eq_error_iff.mp h
    · exact ⟨.inl avg, fails⟩
    · cases h
  case h_3 sum => exact ⟨.inr sum, sum_error h⟩
  all_goals cases h

theorem evaluate_eq_error_iff : call.evaluate group = .error fault ↔
    call.unrounded group = .error fault := by
  unfold evaluate
  split
  · exact map_eq_error_iff
  · exact Iff.rfl

theorem mem_values_iff {v : Value} : v ∈ call.values group ↔
    v.isNull = false ∧ ∃ column t, call.argument = some column ∧ t ∈ group ∧
      t.resolve? column = some v := by
  unfold values
  cases argument : call.argument with
  | none => simp
  | some column => simp [and_comm]

theorem evaluate_error (h : call.evaluate group = .error fault) : call.function.TakesNumbers ∧
    ∃ v ∈ call.values group, v.isNumeric = false ∧ fault = .notNumeric call.function v := by
  obtain ⟨takes, fails⟩ := unrounded_error (evaluate_eq_error_iff.mp h)
  exact ⟨takes, numbers_error fails⟩

theorem evaluate_fails (takes : call.function.TakesNumbers) {v : Value}
    (hv : v ∈ call.values group) (nonNumber : v.isNumeric = false) :
    ∃ fault, call.evaluate group = .error fault := by
  simp only [evaluate_eq_error_iff]
  unfold unrounded
  obtain avg | sum := takes
  · obtain ⟨fault, fails⟩ : ∃ fault, call.numbers (call.values group) = .error fault :=
      numbers_fails hv nonNumber
    rw [avg]
    exact ⟨fault, bind_eq_error_iff.mpr (.inl fails)⟩
  · rw [sum]
    exact sum_fails hv nonNumber

end Aggregate

/-! ## Select lists without aggregates -/

theorem Tuple.project_succeeds {items : List SelectItem}
    (plain : items.any (·.aggregate?.isSome) = false) (tuple : Tuple) :
    ∃ row, tuple.project items = .ok row := by
  cases projected : tuple.project items with
  | ok row => exact ⟨row, rfl⟩
  | error fault =>
    obtain fails | ⟨_, _, h⟩ := bind_eq_error_iff.mp projected
    · obtain ⟨item, hitem, fails⟩ := error_of_mapM fails
      cases item with
      | wildcard => cases fails
      | column => cases fails
      | aggregate call label =>
        have none := List.any_eq_false.mp plain _ hitem
        simp [SelectItem.aggregate?] at none
    · cases h

variable {query : Query} {store : Store} {fault : Fault}

theorem Query.project_succeeds (plain : query.isPlain = true) (tuple : Tuple) :
    ∃ row, tuple.project query.items = .ok row := by
  rw [isPlain, Bool.and_eq_true, Bool.not_eq_true'] at plain
  exact Tuple.project_succeeds plain.2 tuple

theorem Query.projectKeyed_succeeds (plain : query.isPlain = true) (key : Tuple → Row → Value)
    (tuples : List Tuple) : ∃ keyed, query.projectKeyed key tuples = .ok keyed := by
  cases result : query.projectKeyed key tuples with
  | ok keyed => exact ⟨keyed, rfl⟩
  | error fault =>
    obtain ⟨tuple, _, fails⟩ := error_of_mapM result
    obtain ⟨row, projected⟩ := project_succeeds plain tuple
    simp [projected, bind, Except.bind, pure, Except.pure] at fails

/-! ## Shapes that never fail -/

theorem JoinSort.answer_succeeds (query : Query) (store : Store) :
    answer? query store ≠ .error fault := by
  intro h
  unfold answer? at h
  split at h
  · rename_i order tuples recognized _
    obtain ⟨keyed, projected⟩ :=
      Query.projectKeyed_succeeds (isPlain_of_recognized recognized) (key order) tuples
    obtain fails | ⟨_, _, h⟩ := bind_eq_error_iff.mp h
    · cases projected.symm.trans fails
    · split at h <;> cases h
  · cases h

theorem Adjacency.answer_succeeds (query : Query) (store : Store) :
    answer? query store ≠ .error fault := by
  intro h
  unfold answer? at h
  split at h <;> cases h

theorem DateRange.isPlain_of_recognized {column : Column} (h : recognize? query = some column) :
    query.isPlain = true := by
  unfold recognize? at h
  split at h
  · have conditions := (Option.filter_eq_some_iff.mp h).2
    rw [Bool.and_eq_true] at conditions
    exact conditions.1
  · cases h

theorem DateRange.answer_succeeds (query : Query) (store : Store) :
    answer? query store ≠ .error fault := by
  intro h
  unfold answer? at h
  split at h
  · rename_i column tuples recognized _
    obtain ⟨keyed, projected⟩ :=
      Query.projectKeyed_succeeds (isPlain_of_recognized recognized) (key column) tuples
    obtain fails | ⟨_, _, h⟩ := bind_eq_error_iff.mp h
    · cases projected.symm.trans fails
    · cases h
  · cases h

theorem Threshold.answer_succeeds (query : Query) (store : Store) :
    answer? query store ≠ .error fault := by
  intro h
  unfold answer? at h
  split at h
  · rename_i tuples recognized _
    obtain ⟨_, _, _, _, plain, _⟩ := recognizes_iff.mp recognized
    obtain fails | ⟨_, _, h⟩ := bind_eq_error_iff.mp h
    · obtain ⟨tuple, _, fails⟩ := error_of_mapM fails
      obtain ⟨row, projected⟩ := Query.project_succeeds plain tuple
      cases projected.symm.trans fails
    · cases h
  · cases h

/-! ## Groups -/

namespace GroupAverage

variable {join : KeyJoin} {mean : Aggregate} {parents : Relation} {tuples : List Tuple}

theorem mem_aggregates_of_recognized (h : recognize? query = some (join, mean)) :
    mean ∈ query.aggregates :=
  List.mem_of_find?_eq_some (recognize?_eq_some h).2.1

theorem groupRow_error {group : List Tuple} (known : mean ∈ query.aggregates)
    (h : groupRow query mean group = .error fault) :
    ∃ call ∈ query.aggregates, call.evaluate group = .error fault := by
  cases group with
  | nil => cases h
  | cons first rest =>
    obtain fails | ⟨_, _, h⟩ := bind_eq_error_iff.mp h
    · obtain ⟨item, hitem, fails⟩ := error_of_mapM fails
      cases item with
      | wildcard => cases fails
      | column => cases fails
      | aggregate call label =>
        obtain fails | ⟨_, _, h⟩ := bind_eq_error_iff.mp fails
        · exact ⟨call, List.mem_filterMap.mpr ⟨_, hitem, rfl⟩, fails⟩
        · cases h
    · obtain fails | ⟨_, _, h⟩ := bind_eq_error_iff.mp h
      · exact ⟨mean, known, fails⟩
      · cases h

theorem groupRow_fails (mean : Aggregate) {group : List Tuple} (nonempty : group ≠ []) {call : Aggregate}
    (hcall : call ∈ query.aggregates) (fails : call.evaluate group = .error fault) :
    ∃ fault, groupRow query mean group = .error fault := by
  cases group with
  | nil => exact absurd rfl nonempty
  | cons first rest =>
    obtain ⟨item, hitem, aggregate⟩ := List.mem_filterMap.mp hcall
    have itemFails : groupItem first (first :: rest) item = .error fault := by
      cases item with
      | wildcard => cases aggregate
      | column => cases aggregate
      | aggregate call' label =>
        obtain rfl := Option.some_inj.mp aggregate
        exact bind_eq_error_iff.mpr (.inl fails)
    obtain ⟨fault', fails⟩ := mapM_fails hitem itemFails
    exact ⟨fault', bind_eq_error_iff.mpr (.inl fails)⟩

theorem answer_error_iff : answer? query store = .error fault ↔
    ∃ join mean parents tuples, Evaluates query store join mean parents tuples ∧
      (parents.rows.map (groupOf join.parent.binding tuples)).mapM (groupRow query mean) =
        .error fault := by
  constructor
  · intro h
    unfold answer? at h
    split at h
    · cases h
    · rename_i join mean recognized
      split at h
      · rename_i parents tuples hparents htuples
        obtain fails | ⟨_, _, h⟩ := bind_eq_error_iff.mp h
        · exact ⟨join, mean, parents, tuples, ⟨recognized, hparents, htuples⟩, fails⟩
        · cases h
      · cases h
  · rintro ⟨join, mean, parents, tuples, e, fails⟩
    simp only [answer?, e.recognized, e.parents, e.tuples]
    exact bind_eq_error_iff.mpr (.inl fails)

/-- Some average or sum of the select list resolves, in a joined tuple of a stored parent row, to a
value that is neither null nor a number. -/
def MeetsNonNumber (query : Query) (store : Store) : Prop :=
  ∃ join mean parents tuples, Evaluates query store join mean parents tuples ∧
    ∃ parent ∈ parents.rows, ∃ tuple ∈ tuplesOf join.parent.binding tuples parent,
      ∃ call ∈ query.aggregates, call.function.TakesNumbers ∧
        ∃ column value, call.argument = some column ∧ tuple.resolve? column = some value ∧
          value.IsNonNumber

section
variable {relations : List Relation} (accepted : Store.ofRelations relations = .ok store)
include accepted

theorem mem_tuplesOf_of_mem_groupOf (e : Evaluates query store join mean parents tuples)
    {parent : Row} {t : Tuple} (ht : t ∈ groupOf join.parent.binding tuples parent) :
    ∃ own ∈ parents.rows, t ∈ tuplesOf join.parent.binding tuples own := by
  have joined : t ∈ tuples := (List.mem_filter.mp (groupOf_eq_filter _ _ _ ▸ ht)).1
  obtain ⟨own, stored, bound, _⟩ := parent_of_mem accepted e joined
  exact ⟨own, stored, mem_tuplesOf.mpr ⟨joined, bound⟩⟩

theorem mem_groupOf_of_mem_tuplesOf (e : Evaluates query store join mean parents tuples)
    {parent : Row} {t : Tuple} (ht : t ∈ tuplesOf join.parent.binding tuples parent) :
    t ∈ groupOf join.parent.binding tuples parent := by
  obtain ⟨joined, bound⟩ := mem_tuplesOf.mp ht
  rw [groupOf_eq_filter]
  exact List.mem_filter.mpr ⟨joined, sharesId_of_row accepted e joined bound⟩

theorem answer_error (h : answer? query store = .error fault) :
    MeetsNonNumber query store ∧ fault.IsNonNumber := by
  obtain ⟨join, mean, parents, tuples, e, fails⟩ := answer_error_iff.mp h
  obtain ⟨group, hgroup, fails⟩ := error_of_mapM fails
  obtain ⟨parent, _, rfl⟩ := List.mem_map.mp hgroup
  obtain ⟨call, hcall, fails⟩ := groupRow_error (mem_aggregates_of_recognized e.recognized) fails
  obtain ⟨takes, value, hvalue, nonNumber, rfl⟩ := Aggregate.evaluate_error fails
  obtain ⟨nonNull, column, t, argument, ht, resolved⟩ := Aggregate.mem_values_iff.mp hvalue
  obtain ⟨own, stored, ht⟩ := mem_tuplesOf_of_mem_groupOf accepted e ht
  exact ⟨⟨join, mean, parents, tuples, e, own, stored, t, ht, call, hcall, takes, column, value,
    argument, resolved, nonNull, nonNumber⟩, call.function, value, rfl, takes, nonNull, nonNumber⟩

theorem answer_fails (h : MeetsNonNumber query store) :
    ∃ fault, answer? query store = .error fault := by
  obtain ⟨join, mean, parents, tuples, e, parent, stored, t, ht, call, hcall, takes, column, value,
    argument, resolved, nonNull, nonNumber⟩ := h
  have member := mem_groupOf_of_mem_tuplesOf accepted e ht
  have hvalue := Aggregate.mem_values_iff.mpr ⟨nonNull, column, t, argument, member, resolved⟩
  obtain ⟨_, fails⟩ := Aggregate.evaluate_fails takes hvalue nonNumber
  obtain ⟨_, fails⟩ := groupRow_fails mean (List.ne_nil_of_mem member) hcall fails
  obtain ⟨fault, fails⟩ := mapM_fails (List.mem_map_of_mem stored) fails
  exact ⟨fault, answer_error_iff.mpr ⟨join, mean, parents, tuples, e, fails⟩⟩

end

end GroupAverage

/-! ## Statements -/

namespace Engine

theorem firstAnswer?_error {shapes : List Shape}
    (h : firstAnswer? query store shapes = .error fault) :
    ∃ shape ∈ shapes, shape.answer? query store = .error fault := by
  induction shapes with
  | nil => cases h
  | cons shape rest ih =>
    obtain here | ⟨answer, _, h⟩ := bind_eq_error_iff.mp h
    · exact ⟨shape, List.mem_cons_self, here⟩
    · cases answer with
      | some rows => cases h
      | none =>
        obtain ⟨later, hlater, fails⟩ := ih h
        exact ⟨later, List.mem_cons_of_mem _ hlater, fails⟩

/-- No shape before or after one that fails says anything. -/
theorem firstAnswer?_of_error {shapes : List Shape} (apart : shapes.Pairwise (Shape.Apart query store))
    {shape : Shape} (hshape : shape ∈ shapes) (fails : shape.answer? query store = .error fault) :
    firstAnswer? query store shapes = .error fault := by
  induction shapes with
  | nil => cases hshape
  | cons first rest ih =>
    obtain ⟨apartFirst, apart⟩ := List.pairwise_cons.mp apart
    obtain rfl | later := List.mem_cons.mp hshape
    · exact bind_eq_error_iff.mpr (.inl fails)
    · obtain passes | passes := apartFirst shape later
      · rw [firstAnswer?_of_passes passes]
        exact ih apart later
      · cases passes.symm.trans fails

theorem firstAnswer?_builtIn_error_iff :
    firstAnswer? query store builtInShapes = .error fault ↔
      GroupAverage.answer? query store = .error fault := by
  constructor
  · intro h
    obtain ⟨shape, hshape, fails⟩ := firstAnswer?_error h
    simp only [builtInShapes, List.mem_cons, List.not_mem_nil, or_false] at hshape
    obtain rfl | rfl | rfl | rfl | rfl := hshape
    · exact absurd fails (JoinSort.answer_succeeds query store)
    · exact absurd fails (Adjacency.answer_succeeds query store)
    · exact absurd fails (DateRange.answer_succeeds query store)
    · exact absurd fails (Threshold.answer_succeeds query store)
    · exact fails
  · have builtIn : GroupAverage.shape ∈ builtInShapes := by simp [builtInShapes]
    exact firstAnswer?_of_error (builtInShapes_apart query store) builtIn

theorem read_error_iff {engine : Engine} {text : String} : engine.read text = .error fault ↔
    ∃ query, Query.ofText? text = .ok query ∧
      firstAnswer? query engine.store engine.shapes = .error fault := by
  unfold read
  cases Query.ofText? text with
  | error rejection => simp [bind, Except.bind, pure, Except.pure]
  | ok query => simp [bind_eq_error_iff, pure, Except.pure]

theorem execute_error_iff {engine : Engine} {newId text : String} {parameters : List Value} :
    engine.execute newId text parameters = .error fault ↔
      StatementKind.ofText text = .read ∧ engine.read text = .error fault := by
  unfold execute
  cases kind : StatementKind.ofText text with
  | read => simp [map_eq_error_iff]
  | liveness | listing | description | mutation => simp

theorem firstAnswer?_limit_error_iff (limit : Option Nat) :
    firstAnswer? { query with limit } store builtInShapes = .error fault ↔
      firstAnswer? query store builtInShapes = .error fault := by
  rw [firstAnswer?_builtIn_error_iff, firstAnswer?_builtIn_error_iff,
    GroupAverage.answer_error_iff, GroupAverage.answer_error_iff]
  exact ⟨fun ⟨join, mean, parents, tuples, e, fails⟩ =>
      ⟨join, mean, parents, tuples, ⟨e.recognized, e.parents, e.tuples⟩, fails⟩,
    fun ⟨join, mean, parents, tuples, e, fails⟩ =>
      ⟨join, mean, parents, tuples, ⟨e.recognized, e.parents, e.tuples⟩, fails⟩⟩

/-- A statement fails exactly when it is read as a grouped key join that averages or sums, in a joined
tuple of a parent row, a value that is neither null nor a number. This is the only fault; no
projection of aggregates is ever reported, and a limit neither hides a fault nor causes one. -/
theorem execute_fails_iff {relations : List Relation} {store : Store}
    (accepted : Store.ofRelations relations = .ok store) (newId text : String)
    (parameters : List Value) :
    ((∃ fault, (ofStore store).execute newId text parameters = .error fault) ↔
      StatementKind.ofText text = .read ∧
        ∃ query, Query.ofText? text = .ok query ∧ GroupAverage.MeetsNonNumber query store) ∧
    (∀ fault, (ofStore store).execute newId text parameters = .error fault →
      ∃ function value, fault = .notNumeric function value ∧ (function = .avg ∨ function = .sum) ∧
        value.isNull = false ∧ value.isNumeric = false) ∧
    ∀ query limit fault,
      firstAnswer? { query with limit } store builtInShapes = .error fault ↔
        firstAnswer? query store builtInShapes = .error fault := by
  have failing : ∀ fault, (ofStore store).execute newId text parameters = .error fault ↔
      StatementKind.ofText text = .read ∧ ∃ query, Query.ofText? text = .ok query ∧
        GroupAverage.answer? query store = .error fault := by
    intro fault
    rw [execute_error_iff, read_error_iff]
    simp only [ofStore, firstAnswer?_builtIn_error_iff]
  refine ⟨⟨?_, ?_⟩, ?_, fun query limit fault => firstAnswer?_limit_error_iff limit⟩
  · rintro ⟨fault, h⟩
    obtain ⟨kind, query, parsed, fails⟩ := (failing fault).mp h
    exact ⟨kind, query, parsed, (GroupAverage.answer_error accepted fails).1⟩
  · rintro ⟨kind, query, parsed, meets⟩
    obtain ⟨fault, fails⟩ := GroupAverage.answer_fails accepted meets
    exact ⟨fault, (failing fault).mpr ⟨kind, query, parsed, fails⟩⟩
  · intro fault h
    obtain ⟨_, query, _, fails⟩ := (failing fault).mp h
    exact (GroupAverage.answer_error accepted fails).2

end Engine

/-- An average of names. -/
def Sample.averageOfNames : String :=
  "SELECT d.name, COUNT(*), AVG(e.name) FROM departments d
    JOIN employees e ON d.id = e.department_id GROUP BY d.id LIMIT 1"

open Engine in
theorem Engine.execute_fails_iff_names :
    Store.ofRelations Sample.relations = .ok Sample.store ∧
    ∃ fault query, (ofStore Sample.store).execute "" Sample.averageOfNames [] = .error fault ∧
      GroupAverage.MeetsNonNumber query Sample.store ∧
      ∃ function value, fault = .notNumeric function value ∧ (function = .avg ∨ function = .sum) ∧
        value.isNull = false ∧ value.isNumeric = false := by
  obtain ⟨fault, fails⟩ := exists_error ((ofStore Sample.store).execute "" Sample.averageOfNames [])
    (by decide +kernel)
  obtain ⟨failing, faults, _⟩ :=
    execute_fails_iff Sample.sample_accepted "" Sample.averageOfNames []
  obtain ⟨_, query, _, meets⟩ := failing.mp ⟨fault, fails⟩
  exact ⟨Sample.sample_accepted, fault, query, fails, meets, faults fault fails⟩

end QueryShapes

import Mathlib.Data.List.Perm.Basic
import QueryShapes.Engine.Basic
import QueryShapes.Proofs.Groups
import QueryShapes.Proofs.Selection

/-!
# The priority of shapes

- `Shape.Passes`: a shape that leaves a query to others.
- `firstAnswer?_perm`: where at most one shape does not pass, the order of the shapes is immaterial.
- `builtInShapes_apart`: the built-in shapes are told apart by the number of sources, by grouping and
  by the kind of literal that they compare with.
- `execute_perm`: so the engine answers alike whichever order they are asked in.
-/

namespace QueryShapes

/-- The shape leaves the query to others. -/
def Shape.Passes (shape : Shape) (query : Query) (store : Store) : Prop :=
  shape.answer? query store = .ok none

/-- One of the two shapes leaves the query to others. -/
def Shape.Apart (query : Query) (store : Store) (a b : Shape) : Prop :=
  a.Passes query store ∨ b.Passes query store

theorem Shape.Apart.symm {query : Query} {store : Store} {a b : Shape}
    (h : Apart query store a b) : Apart query store b a :=
  Or.symm h

/-! ## Asking one shape after another -/

namespace Engine

variable {query : Query} {store : Store}

theorem firstAnswer?_of_passes {shape : Shape} (passes : shape.Passes query store)
    (rest : List Shape) : firstAnswer? query store (shape :: rest) = firstAnswer? query store rest := by
  rw [firstAnswer?, passes]
  rfl

theorem firstAnswer?_cons_congr (shape : Shape) {rest rest' : List Shape}
    (h : firstAnswer? query store rest = firstAnswer? query store rest') :
    firstAnswer? query store (shape :: rest) = firstAnswer? query store (shape :: rest') := by
  rw [firstAnswer?, firstAnswer?, h]

theorem firstAnswer?_swap {a b : Shape} (apart : Shape.Apart query store a b) (rest : List Shape) :
    firstAnswer? query store (a :: b :: rest) = firstAnswer? query store (b :: a :: rest) := by
  obtain passes | passes := apart
  · rw [firstAnswer?_of_passes passes]
    exact firstAnswer?_cons_congr b (firstAnswer?_of_passes passes rest).symm
  · rw [firstAnswer?_of_passes passes (a :: rest)]
    exact firstAnswer?_cons_congr a (firstAnswer?_of_passes passes rest)

theorem firstAnswer?_perm {shapes shapes' : List Shape} (perm : shapes.Perm shapes')
    (apart : shapes.Pairwise (Shape.Apart query store)) :
    firstAnswer? query store shapes = firstAnswer? query store shapes' := by
  induction perm with
  | nil => rfl
  | cons shape _ ih => exact firstAnswer?_cons_congr shape (ih (List.pairwise_cons.mp apart).2)
  | swap a b rest =>
    have heads := (List.pairwise_cons.mp apart).1 a List.mem_cons_self
    exact firstAnswer?_swap heads rest
  | trans first _ ih ih' =>
    rw [ih apart, ih' (first.pairwise apart Shape.Apart.symm)]

end Engine

/-! ## What each shape asks for -/

/-- The shape answers queries of `count` sources only. -/
def Shape.Counts (shape : Shape) (count : Nat) : Prop :=
  ∀ query store, shape.Passes query store ∨ query.sources.length = count

theorem Shape.Counts.apart {a b : Shape} {m n : Nat} (ha : a.Counts m) (hb : b.Counts n)
    (different : m ≠ n) (query : Query) (store : Store) : Apart query store a b := by
  obtain passes | counted := ha query store
  · exact .inl passes
  · obtain passes | counted' := hb query store
    · exact .inr passes
    · exact absurd (counted.symm.trans counted') different

variable {query : Query} {store : Store}

theorem Query.isSelfJoin_eq_tables (query : Query) : query.isSelfJoin =
    match query.sources.map Source.table with
    | [] => false
    | first :: rest => rest.all (· = first) := by
  unfold isSelfJoin
  cases query.sources with
  | nil => rfl
  | cons first rest => simp only [List.map_cons, List.all_map, Function.comp_def]

theorem KeyJoin.length_sources {join : KeyJoin} (h : ofQuery? query = some join) :
    query.sources.length = 2 := by
  obtain ⟨first, joined, _, _, reads⟩ := ofQuery?_reads h
  rw [reads.sources]
  rfl

theorem JoinSort.passes_or_recognized (query : Query) (store : Store) :
    shape.Passes query store ∨ ∃ order, recognize? query = some order := by
  cases recognized : recognize? query with
  | none => exact .inl (by simp [Shape.Passes, shape, answer?, recognized])
  | some order => exact .inr ⟨order, rfl⟩

theorem JoinSort.counts : shape.Counts 2 := by
  intro query store
  refine (passes_or_recognized query store).imp_right fun ⟨order, recognized⟩ => ?_
  obtain ⟨_, join, hjoin⟩ := recognize?_eq_some recognized
  exact KeyJoin.length_sources hjoin

theorem JoinSort.isPlain_of_recognized {order : SortKey} (h : recognize? query = some order) :
    query.isPlain = true := by
  unfold recognize? at h
  split at h
  · rename_i plain
    exact plain.1
  · cases h

theorem Adjacency.passes_or_recognized (query : Query) (store : Store) :
    shape.Passes query store ∨ ∃ recognized, recognize? query = some recognized := by
  cases recognized : recognize? query with
  | none => exact .inl (by simp [Shape.Passes, shape, answer?, recognized])
  | some found => exact .inr ⟨found, rfl⟩

/-- The field and the output name of a lone column. -/
def Adjacency.projected? : List SelectItem → Option (String × String)
  | [.column column label] => some (column.name, label.getD column.name)
  | _ => none

/-- Of its sources the shape heeds only the relations, of its items only the names. -/
theorem Adjacency.recognize?_eq_names (query : Query) : recognize? query =
    match query.sources.map Source.table, projected? query.items with
    | [table, _, _], some (field, output) =>
      if query.isSelfJoin ∧ query.isPlain ∧ query.predicates.any (links field) then
        some (table, field, output)
      else none
    | _, _ => none := by
  unfold recognize?
  generalize query.sources = sources, query.items = items
  obtain _ | ⟨_, _ | ⟨_, _ | ⟨_, _ | _⟩⟩⟩ := sources <;>
    obtain _ | ⟨_ | _ | _, _ | _⟩ := items <;> rfl

theorem Adjacency.counts : shape.Counts 3 := by
  intro query store
  refine (passes_or_recognized query store).imp_right fun ⟨found, recognized⟩ => ?_
  unfold recognize? at recognized
  split at recognized
  · rename_i sources _
    rw [sources]
    rfl
  · cases recognized

theorem DateRange.passes_or_recognized (query : Query) (store : Store) :
    shape.Passes query store ∨ ∃ column, recognize? query = some column := by
  cases recognized : recognize? query with
  | none => exact .inl (by simp [Shape.Passes, shape, answer?, recognized])
  | some column => exact .inr ⟨column, rfl⟩

theorem DateRange.recognize?_eq_none (several : query.filter.length ≠ 1) :
    recognize? query = none := by
  refine Option.eq_none_iff_forall_not_mem.mpr fun column recognized => ?_
  obtain ⟨_, p, _, filter, _⟩ := recognize?_eq_some recognized
  exact several (by rw [filter]; rfl)

theorem DateRange.counts : shape.Counts 1 := by
  intro query store
  refine (passes_or_recognized query store).imp_right fun ⟨column, recognized⟩ => ?_
  obtain ⟨⟨source, sources⟩, _⟩ := recognize?_eq_some recognized
  rw [sources]
  rfl

theorem Threshold.passes_or_recognized (query : Query) (store : Store) :
    shape.Passes query store ∨ recognizes query = true := by
  cases recognized : recognizes query with
  | false => exact .inl (by simp [Shape.Passes, shape, answer?, recognized])
  | true => exact .inr rfl

theorem Threshold.recognizes_iff : recognizes query = true ↔
    ∃ source p, query.sources = [source] ∧ query.filter = [p] ∧ query.isPlain = true ∧
      query.orderBy = [] ∧ isThreshold p = true := by
  unfold recognizes
  split
  · rename_i source p sources filter
    simp [sources, filter, and_assoc]
  · rename_i other
    simp only [Bool.false_eq_true, false_iff]
    rintro ⟨source, p, sources, filter, _⟩
    exact other source p sources filter

theorem Threshold.recognizes_eq_false (several : query.filter.length ≠ 1) :
    recognizes query = false := by
  refine Bool.eq_false_iff.mpr fun recognized => ?_
  obtain ⟨_, p, _, filter, _⟩ := recognizes_iff.mp recognized
  exact several (by rw [filter]; rfl)

theorem Threshold.counts : shape.Counts 1 := by
  intro query store
  refine (passes_or_recognized query store).imp_right fun recognized => ?_
  obtain ⟨source, _, sources, _⟩ := recognizes_iff.mp recognized
  rw [sources]
  rfl

theorem GroupAverage.passes_or_recognized (query : Query) (store : Store) :
    shape.Passes query store ∨ ∃ join mean, recognize? query = some (join, mean) := by
  cases recognized : recognize? query with
  | none => exact .inl (by simp [Shape.Passes, shape, answer?, recognized])
  | some found => exact .inr ⟨found.1, found.2, rfl⟩

theorem GroupAverage.counts : shape.Counts 2 := by
  intro query store
  refine (passes_or_recognized query store).imp_right fun ⟨join, mean, recognized⟩ => ?_
  exact KeyJoin.length_sources (recognize?_eq_some recognized).1

/-! ## The built-in shapes -/

/-- One condition compares with a date or with a number, not with both. -/
theorem dateRange_threshold_apart (query : Query) (store : Store) :
    Shape.Apart query store DateRange.shape Threshold.shape := by
  obtain passes | ⟨column, recognized⟩ := DateRange.passes_or_recognized query store
  · exact .inl passes
  · obtain passes | threshold := Threshold.passes_or_recognized query store
    · exact .inr passes
    · obtain ⟨_, p, date, filter, comparison⟩ := DateRange.recognize?_eq_some recognized
      obtain ⟨_, q, _, filter', _, _, isThreshold⟩ := Threshold.recognizes_iff.mp threshold
      obtain rfl : p = q := List.singleton_inj.mp (filter.symm.trans filter')
      simp [Threshold.isThreshold, comparison, Value.isNumeric, Value.number?] at isThreshold

/-- Of two key joins, one groups and the other does not. -/
theorem joinSort_groupAverage_apart (query : Query) (store : Store) :
    Shape.Apart query store JoinSort.shape GroupAverage.shape := by
  obtain passes | ⟨order, recognized⟩ := JoinSort.passes_or_recognized query store
  · exact .inl passes
  · have ungrouped : query.groupBy.isEmpty = true := by
      have plain := JoinSort.isPlain_of_recognized recognized
      rw [Query.isPlain, Bool.and_eq_true] at plain
      exact plain.1
    exact .inr (by simp [Shape.Passes, GroupAverage.shape, GroupAverage.answer?,
      GroupAverage.recognize?, ungrouped])

namespace Engine

theorem builtInShapes_apart (query : Query) (store : Store) :
    builtInShapes.Pairwise (Shape.Apart query store) := by
  have twoThree := JoinSort.counts.apart Adjacency.counts (by decide) query store
  have twoOne := JoinSort.counts.apart DateRange.counts (by decide) query store
  have twoOne' := JoinSort.counts.apart Threshold.counts (by decide) query store
  have threeOne := Adjacency.counts.apart DateRange.counts (by decide) query store
  have threeOne' := Adjacency.counts.apart Threshold.counts (by decide) query store
  have threeTwo := Adjacency.counts.apart GroupAverage.counts (by decide) query store
  have oneTwo := DateRange.counts.apart GroupAverage.counts (by decide) query store
  have oneTwo' := Threshold.counts.apart GroupAverage.counts (by decide) query store
  have grouped := joinSort_groupAverage_apart query store
  have literals := dateRange_threshold_apart query store
  simp [builtInShapes, *]

/-- Of any query at most one built-in shape says anything, be it rows or a fault; so an engine that
asks them in another order answers every statement alike. -/
theorem execute_perm (store : Store) :
    (∀ query, builtInShapes.Pairwise fun a b =>
      a.answer? query store = .ok none ∨ b.answer? query store = .ok none) ∧
    ∀ shapes : List Shape, shapes.Perm builtInShapes → ∀ newId text parameters,
      (Engine.mk store shapes).execute newId text parameters =
        (ofStore store).execute newId text parameters := by
  refine ⟨fun query => builtInShapes_apart query store, fun shapes perm newId text parameters => ?_⟩
  have asked : ∀ query, firstAnswer? query store shapes = firstAnswer? query store builtInShapes :=
    fun query => (firstAnswer?_perm perm.symm (builtInShapes_apart query store)).symm
  have reads : (Engine.mk store shapes).read text = (ofStore store).read text := by
    unfold read
    cases Query.ofText? text with
    | error => rfl
    | ok query =>
      change (do return (← firstAnswer? query store shapes).getD _) = _
      rw [asked query]
      rfl
  unfold execute
  cases StatementKind.ofText text with
  | read => exact congrArg (Except.map Envelope.rows) reads
  | liveness | listing | description | mutation => rfl

/-- A date range of the sample, asked for in the reverse order of shapes. -/
theorem execute_perm_reversed :
    builtInShapes.reverse.Perm builtInShapes ∧
    ∀ newId, (Engine.mk Sample.store builtInShapes.reverse).execute newId
        "SELECT name FROM employees WHERE hire_date > '2021-01-01'" [] =
      (ofStore Sample.store).execute newId
        "SELECT name FROM employees WHERE hire_date > '2021-01-01'" [] := by
  have reversed : builtInShapes.reverse.Perm builtInShapes := List.reverse_perm builtInShapes
  have answered := (execute_perm Sample.store).2 builtInShapes.reverse reversed
  exact ⟨reversed, fun newId => answered newId _ []⟩

end Engine

end QueryShapes

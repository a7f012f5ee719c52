import QueryShapes.Evaluation.Tuple
import QueryShapes.Proofs.Lists

/-!
# Joins as filtered products

- `product?`: a row of each source, the rows of earlier sources varying slowest.
- `tuples?_conditionFirst`: conditions of the first source, which is joined to nothing, are not tested.
- `Settled`: every join condition says the same of the rows joined so far as of complete tuples.
- `tuples?_eq`: where conditions are settled, the joined tuples are those of the product that meet
  all conditions, in the order of the product.
-/

namespace QueryShapes

namespace Tuple

/-- The rows of `t`, then those of `u`. -/
def append (t u : Tuple) : Tuple := ⟨t.entries ++ u.entries⟩

def bindings (t : Tuple) : List String := t.entries.map (·.1)

@[simp]
theorem append_empty (t : Tuple) : t.append ⟨[]⟩ = t := by
  simp [append]

theorem extend_append (t u : Tuple) (binding : String) (row : Row) :
    (t.extend binding row).append u = t.append ((single binding row).append u) := by
  simp [append, extend, single]

@[simp]
theorem bindings_append (t u : Tuple) : (t.append u).bindings = t.bindings ++ u.bindings := by
  simp [append, bindings]

@[simp]
theorem bindings_extend (t : Tuple) (binding : String) (row : Row) :
    (t.extend binding row).bindings = t.bindings ++ [binding] := by
  simp [extend, bindings]

@[simp]
theorem bindings_single (binding : String) (row : Row) : (single binding row).bindings = [binding] :=
  rfl

theorem eq_empty_of_bindings {t : Tuple} (h : t.bindings = []) : t = ⟨[]⟩ := by
  cases t
  simpa [bindings] using h

theorem satisfiesAll_append (ps qs : List Predicate) (t : Tuple) :
    satisfiesAll (ps ++ qs) t = (satisfiesAll ps t && satisfiesAll qs t) := by
  simp [satisfiesAll]

@[simp]
theorem filter_satisfiesAll_nil (tuples : List Tuple) :
    tuples.filter (satisfiesAll []) = tuples :=
  List.filter_eq_self.mpr fun _ _ => rfl

end Tuple

namespace Query

/-- The cartesian product of the sources' relations. -/
def product? (store : Store) : List Source → Option (List Tuple)
  | [] => some [⟨[]⟩]
  | source :: rest => do
    let relation ← store.relation? source.table
    let tails ← product? store rest
    return relation.rows.flatMap fun row => tails.map (Tuple.single source.binding row).append

/-- The conditions on tuples: those of the filter and of every joined source. The first source is
joined to nothing. -/
def conjuncts (query : Query) : List Predicate :=
  query.filter ++ query.sources.tail.flatMap (·.conditions)

/-- The tuples of the product that meet all conditions. -/
def selected? (query : Query) (store : Store) : Option (List Tuple) :=
  (product? store query.sources).map (·.filter (Tuple.satisfiesAll query.conjuncts))

/-! ## The first source -/

/-- The first source has no conditions. -/
def FirstUnconditioned (query : Query) : Prop :=
  ∀ first ∈ query.sources.head?, first.conditions = []

instance (query : Query) : Decidable query.FirstUnconditioned :=
  inferInstanceAs (Decidable (∀ _ ∈ query.sources.head?, _))

/-- Then all conditions of the query are conditions on tuples. -/
theorem FirstUnconditioned.conjuncts_eq {query : Query} (free : query.FirstUnconditioned) :
    query.conjuncts = query.predicates := by
  unfold conjuncts predicates
  cases sources : query.sources with
  | nil => rfl
  | cons first rest =>
    have none : first.conditions = [] := free first (by simp [sources])
    rw [List.tail_cons, List.flatMap_cons, none, List.nil_append]

/-- The query with the given conditions on its first source. -/
def conditionFirst (query : Query) (conditions : List Predicate) : Query :=
  { query with sources := query.sources.modifyHead ({ · with conditions }) }

/-- Nothing tests the conditions of the first source. -/
theorem tuples?_conditionFirst (query : Query) (conditions : List Predicate) (store : Store) :
    (query.conditionFirst conditions).tuples? store = query.tuples? store := by
  cases sources : query.sources <;> simp [tuples?, conditionFirst, sources, Source.binding]

/-! ## Settled conditions -/

/-- After rows of the bindings `earlier`, no join condition reads a row that is joined later. -/
def Settled (earlier : List String) : List Source → Prop
  | [] => True
  | source :: rest =>
    (∀ t u : Tuple, t.bindings = earlier ++ [source.binding] → u.bindings = rest.map Source.binding →
      Tuple.satisfiesAll source.conditions (t.append u) = Tuple.satisfiesAll source.conditions t) ∧
    Settled (earlier ++ [source.binding]) rest

/-- The last source is joined to complete tuples. -/
theorem settled_last (earlier : List String) (source : Source) : Settled earlier [source] := by
  refine ⟨?_, trivial⟩
  intro t u _ hu
  rw [Tuple.eq_empty_of_bindings hu, Tuple.append_empty]

theorem settled_of_unconditioned (earlier : List String) {rest : List Source}
    (h : ∀ source ∈ rest, source.conditions = []) : Settled earlier rest := by
  induction rest generalizing earlier with
  | nil => trivial
  | cons source rest ih =>
    refine ⟨?_, ih _ fun s hs => h s (List.mem_cons_of_mem _ hs)⟩
    intro t u _ _
    rw [h source List.mem_cons_self]
    rfl

theorem bindings_of_mem_product {store : Store} {sources : List Source} {tuples : List Tuple}
    (h : product? store sources = some tuples) :
    ∀ t ∈ tuples, t.bindings = sources.map Source.binding := by
  induction sources generalizing tuples with
  | nil =>
    obtain rfl := Option.some_inj.mp h
    simp [Tuple.bindings]
  | cons source rest ih =>
    simp only [product?, Option.bind_eq_bind, Option.bind_eq_some_iff, Option.pure_def,
      Option.some_inj] at h
    obtain ⟨relation, _, tails, htails, rfl⟩ := h
    intro t ht
    obtain ⟨row, _, hrow⟩ := List.mem_flatMap.mp ht
    obtain ⟨u, hu, rfl⟩ := List.mem_map.mp hrow
    simp [ih htails u hu]

/-! ## Joining one source after another -/

/-- Tuples joined with one source and then combined with the rest are tuples combined with both. -/
theorem join_flatMap (tuples tails : List Tuple) (relation : Relation) (source : Source)
    (rest : List Source) {earlier : List String} (named : ∀ t ∈ tuples, t.bindings = earlier)
    (namedTails : ∀ u ∈ tails, u.bindings = rest.map Source.binding)
    (settled : Settled earlier (source :: rest)) :
    (join tuples relation source.binding source.conditions).flatMap (fun t => tails.map t.append) =
      (tuples.flatMap fun t => (relation.rows.flatMap fun row =>
        tails.map (Tuple.single source.binding row).append).map t.append).filter
          (Tuple.satisfiesAll source.conditions) := by
  rw [join, flatMap_filter _ _ _ (Tuple.satisfiesAll source.conditions)]
  · rw [List.flatMap_assoc]
    congr 2
    funext t
    rw [List.flatMap_map, List.map_flatMap]
    congr 1
    funext row
    rw [List.map_map]
    congr 1
    funext u
    exact Tuple.extend_append t u source.binding row
  · intro t ht v hv
    obtain ⟨t', ht', hrow⟩ := List.mem_flatMap.mp ht
    obtain ⟨row, _, rfl⟩ := List.mem_map.mp hrow
    obtain ⟨u, hu, rfl⟩ := List.mem_map.mp hv
    exact settled.1 _ u (by simp [named t' ht']) (namedTails u hu)

theorem joinAll_eq (store : Store) (rest : List Source) {tuples : List Tuple}
    {earlier : List String} (named : ∀ t ∈ tuples, t.bindings = earlier)
    (settled : Settled earlier rest) :
    rest.foldlM (joinSource? store) tuples =
      if rest.any (·.kind = .left) then none
      else (product? store rest).map fun tails =>
        (tuples.flatMap fun t => tails.map t.append).filter
          (Tuple.satisfiesAll (rest.flatMap (·.conditions))) := by
  induction rest generalizing tuples earlier with
  | nil => simp [product?]
  | cons source rest ih =>
    rw [List.foldlM_cons, joinSource?]
    by_cases outer : source.kind = .left
    · simp [outer]
    · cases found : store.relation? source.table with
      | none => simp [outer, product?, found]
      | some relation =>
        have joined : ∀ t ∈ join tuples relation source.binding source.conditions,
            t.bindings = earlier ++ [source.binding] := by
          intro t ht
          obtain ⟨t', ht', hrow⟩ := List.mem_flatMap.mp (List.mem_filter.mp ht).1
          obtain ⟨row, _, rfl⟩ := List.mem_map.mp hrow
          simp [named t' ht']
        have tail := ih joined settled.2
        simp only [outer, ↓reduceIte, Option.map_some, Option.bind_eq_bind, Option.bind_some, tail]
        by_cases later : rest.any (·.kind = .left)
        · simp [later]
        · cases combined : product? store rest with
          | none => simp [outer, later, product?, found, combined]
          | some tails =>
            have flat := join_flatMap tuples tails relation source rest named
              (bindings_of_mem_product combined) settled
            simp only [later, outer, product?, found, combined, flat, List.any_cons,
              decide_false, Bool.false_or, Bool.false_eq_true, ↓reduceIte, Option.map_some,
              Option.bind_eq_bind, Option.bind_some, Option.pure_def, List.filter_filter,
              List.flatMap_cons]
            congr 2
            funext t
            rw [Tuple.satisfiesAll_append, Bool.and_comm]

/-- The joined tuples of a query whose conditions are settled. -/
theorem tuples?_eq (query : Query) (store : Store) {first : Source} {rest : List Source}
    (sources : query.sources = first :: rest) (settled : Settled [first.binding] rest) :
    query.tuples? store =
      if rest.any (·.kind = .left) then none else query.selected? store := by
  simp only [tuples?, selected?, conjuncts, sources, product?, List.tail_cons]
  cases found : store.relation? first.table with
  | none => simp
  | some relation =>
    have named : ∀ t ∈ scan relation first.binding, t.bindings = [first.binding] := by
      intro t ht
      obtain ⟨row, _, rfl⟩ := List.mem_map.mp ht
      rfl
    have joined := joinAll_eq store rest named settled
    simp only [Option.bind_eq_bind, Option.bind_some, Option.pure_def, joined]
    split
    · rfl
    · cases product? store rest with
      | none => rfl
      | some tails =>
        simp only [scan, List.flatMap_map, List.filter_filter, Option.map_some, Option.bind_some]
        congr 2
        funext t
        rw [Tuple.satisfiesAll_append]

end Query

end QueryShapes

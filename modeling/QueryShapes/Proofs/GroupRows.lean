import Mathlib.Algebra.BigOperators.Ring.Finset
import QueryShapes.Proofs.GroupPartition
import QueryShapes.Store.Sample

/-!
# Output rows of groups

- `get?_groupRow`: an aggregate stands in its group's row under the item's name.
- `sum_counts`: the counts of a partition's rows add up to the number of joined tuples.
- `answer_partitions_tuples`: what is answered when the output names are different and the parents'
  ids are apart.
-/

namespace QueryShapes

namespace GroupAverage

/-! ## The fields of a row -/

theorem groupItem_eq_ok {first : Tuple} {group : List Tuple} {item : SelectItem}
    {pairs : List (String × Value)} (plain : item.isWildcard = false)
    (h : groupItem first group item = .ok pairs) :
    ∃ value, pairs = [(item.outputName?.getD "", value)] ∧
      ∀ call, item.aggregate? = some call → call.evaluate group = .ok value := by
  cases item with
  | wildcard => cases plain
  | column c label =>
    obtain rfl := Except.ok.inj h
    exact ⟨_, rfl, by simp [SelectItem.aggregate?]⟩
  | aggregate call label =>
    obtain ⟨value, hvalue, h⟩ := bind_eq_ok_iff.mp h
    obtain rfl := Except.ok.inj h
    refine ⟨value, rfl, ?_⟩
    intro other same
    obtain rfl := Option.some_inj.mp same
    exact hvalue

theorem nodup_names {items : List SelectItem} (plain : ∀ item ∈ items, item.isWildcard = false)
    (named : (items.map SelectItem.outputName?).Nodup) :
    (items.map fun item => item.outputName?.getD "").Nodup := by
  have whole : items.map SelectItem.outputName? =
      (items.map fun item => item.outputName?.getD "").map some := by
    rw [List.map_map]
    apply List.map_congr_left
    intro item hitem
    cases item with
    | wildcard => cases plain _ hitem
    | column => rfl
    | aggregate => rfl
  rw [whole] at named
  exact named.of_map

theorem get?_groupRow {query : Query} {mean : Aggregate} {group : List Tuple} {average : Value}
    {row : Row} (plain : ∀ item ∈ query.items, item.isWildcard = false)
    (named : (query.items.map SelectItem.outputName?).Nodup)
    (h : groupRow query mean group = .ok (some (average, row))) {item : SelectItem}
    (hitem : item ∈ query.items) {call : Aggregate} (aggregates : item.aggregate? = some call)
    {name : String} (hname : item.outputName? = some name) :
    ∃ value, call.evaluate group = .ok value ∧ row.get? name = some value := by
  obtain ⟨_, first, rest, fields, rfl, evaluated, rfl⟩ := groupRow_eq_some h
  obtain ⟨pairs, items, rfl, each⟩ := exists_pairs_of_mapM evaluated
  have fieldOf : ∀ pair ∈ pairs, ∃ value, pair.2 = [(pair.1.outputName?.getD "", value)] ∧
      ∀ call, pair.1.aggregate? = some call → call.evaluate (first :: rest) = .ok value := by
    intro pair hpair
    exact groupItem_eq_ok (plain _ (items ▸ List.mem_map_of_mem hpair)) (each pair hpair)
  have names : (pairs.map Prod.snd).flatten.map Prod.fst =
      query.items.map fun item => item.outputName?.getD "" := by
    rw [← items, ← List.flatMap_def, List.map_flatMap, List.map_map, List.map_eq_flatMap]
    apply List.flatMap_congr
    intro pair hpair
    obtain ⟨value, single, _⟩ := fieldOf pair hpair
    simp [single]
  obtain ⟨pair, hpair, rfl⟩ := List.mem_map.mp (items ▸ hitem)
  obtain ⟨value, single, evaluates⟩ := fieldOf pair hpair
  refine ⟨value, evaluates call aggregates, ?_⟩
  apply Row.get?_ofList_of_mem
  · rw [names]
    exact nodup_names plain named
  · refine List.mem_flatten.mpr ⟨pair.2, List.mem_map_of_mem hpair, ?_⟩
    simp [single, hname]

/-- The item is a call that averages. -/
def averages (item : SelectItem) : Bool := item.aggregate?.any (·.function = .avg)

theorem find?_averages {query : Query} {mean : Aggregate}
    (h : query.aggregates.find? (·.function = .avg) = some mean) :
    ∃ item, query.items.find? averages = some item ∧ item.aggregate? = some mean := by
  rw [Query.aggregates, List.find?_filterMap] at h
  exact Option.bind_eq_some_iff.mp h

/-! ## Counts -/

/-- The value of an integer field. -/
def integerField (name : String) (row : Row) : Int :=
  match row.get? name with
  | some (.integer n) => n.toInt
  | _ => 0

section
variable {query : Query} {store : Store} {join : KeyJoin} {mean : Aggregate} {parents : Relation}
  {tuples : List Tuple} {grouped : List Grouped}

/-- The field `name` of every group's row holds the size of the group. -/
def Counts (join : KeyJoin) (tuples : List Tuple) (name : String) (grouped : List Grouped) : Prop :=
  ∀ g ∈ grouped, g.row.get? name =
    some (.integer (Int64.ofNat (tuplesOf join.parent.binding tuples g.parent).length))

theorem Partition.counts (partition : Partition query join mean parents tuples grouped)
    (plain : ∀ item ∈ query.items, item.isWildcard = false)
    (named : (query.items.map SelectItem.outputName?).Nodup) {item : SelectItem}
    (hitem : item ∈ query.items) {rounded : Bool}
    (counting : item.aggregate? = some ⟨.count, none, rounded⟩) {name : String}
    (hname : item.outputName? = some name) : Counts join tuples name grouped := by
  intro g hg
  obtain ⟨value, evaluated, field⟩ :=
    get?_groupRow plain named (partition.rows g hg) hitem counting hname
  rw [Aggregate.evaluate_count] at evaluated
  rw [field, ← Except.ok.inj evaluated]
  rfl

theorem sum_counts (partition : Partition query join mean parents tuples grouped) {name : String}
    (counts : Counts join tuples name grouped) (small : tuples.length < 2 ^ 63) :
    (grouped.map fun g => integerField name g.row).sum = tuples.length := by
  have field : ∀ g ∈ grouped, integerField name g.row =
      ((tuplesOf join.parent.binding tuples g.parent).length : Int) := by
    intro g hg
    have within : (tuplesOf join.parent.binding tuples g.parent).length ≤ tuples.length :=
      List.length_filter_le _ _
    rw [integerField, counts g hg]
    exact Int64.toInt_ofNat_of_lt (by omega)
  have sizes := partition.whole.length_eq
  rw [List.length_flatMap] at sizes
  rw [List.map_congr_left field, ← sizes, Nat.cast_list_sum, List.map_map]
  rfl

/-- The average of every group stands in its row under the name of the first average. -/
theorem Partition.averages (partition : Partition query join mean parents tuples grouped)
    (recognized : recognize? query = some (join, mean))
    (named : (query.items.map SelectItem.outputName?).Nodup) :
    ∃ item name, query.items.find? averages = some item ∧ item.outputName? = some name ∧
      ∀ g ∈ grouped, g.row.get? name = some g.average := by
  obtain ⟨_, first, _, plain⟩ := recognize?_eq_some recognized
  obtain ⟨item, found, isMean⟩ := find?_averages first
  have hitem := List.mem_of_find?_eq_some found
  cases item with
  | wildcard => cases isMean
  | column => cases isMean
  | aggregate call label =>
    refine ⟨_, _, found, rfl, ?_⟩
    intro g hg
    obtain ⟨value, evaluated, field⟩ :=
      get?_groupRow plain named (partition.rows g hg) hitem isMean rfl
    rw [field, Except.ok.inj (evaluated.symm.trans (groupRow_eq_some (partition.rows g hg)).1)]

end

/-! ## The answer -/

/-- Without a limit, a query of different output names that counts all tuples is answered by one row
for each parent row that occurs in a joined tuple, where the ids of the parents are apart. Every
joined tuple is counted in one of the rows, so the counts add up to their number. The rows stand in
descending order of the first average, those of equal averages in the order of their parents. -/
theorem answer_partitions_tuples {relations : List Relation} {store : Store}
    (accepted : Store.ofRelations relations = .ok store) {query : Query}
    (unlimited : query.limit = none) (named : (query.items.map SelectItem.outputName?).Nodup)
    {item : SelectItem} (hitem : item ∈ query.items) {rounded : Bool}
    (counting : item.aggregate? = some ⟨.count, none, rounded⟩) {name : String}
    (hname : item.outputName? = some name) (apart : ParentIdsApart query store) {rows : List Row}
    (answered : answer? query store = .ok (some rows)) :
    ∃ join mean parents tuples, Evaluates query store join mean parents tuples ∧
      ∃ grouped ordered : List Grouped, rows = ordered.map Grouped.row ∧
        Partition query join mean parents tuples grouped ∧
        Counts join tuples name grouped ∧
        (tuples.length < 2 ^ 63 → (rows.map (integerField name)).sum = tuples.length) ∧
        ∃ first average, query.items.find? averages = some first ∧
          first.outputName? = some average ∧
          Descends (fun g => (g.row.get? average).getD .null) ordered grouped := by
  obtain ⟨join, mean, parents, tuples, e, grouped, ordered, nonempty, evaluated, descends, rfl⟩ :=
    answer_grouped answered
  rw [Query.cut_of_unlimited unlimited]
  have idsApart : parents.IdsApart :=
    apart join (recognize?_eq_some e.recognized).1 parents e.parents
  have partition := partition_of_apart accepted e idsApart nonempty evaluated
  have plain := (recognize?_eq_some e.recognized).2.2.2
  have counts := partition.counts plain named hitem counting hname
  obtain ⟨first, average, found, firstName, fields⟩ := partition.averages e.recognized named
  refine ⟨join, mean, parents, tuples, e, grouped, ordered, rfl, partition, counts, ?_, first,
    average, found, firstName, ?_⟩
  · intro small
    rw [List.map_map, (descends.perm.map _).sum_eq]
    exact sum_counts partition counts small
  · exact descends.congr fun g hg => by simp [fields g hg]

end GroupAverage

open GroupAverage in
theorem GroupAverage.answer_partitions_tuples_sample :
    ParentIdsApart Sample.byDepartment Sample.store ∧
    ∃ rows, GroupAverage.answer? Sample.byDepartment Sample.store = .ok (some rows) ∧
      (rows.map (integerField "size")).sum = 8 := by
  have apart : ParentIdsApart Sample.byDepartment Sample.store := by decide +kernel
  obtain ⟨rows, answered⟩ := exists_ok_some (GroupAverage.answer? Sample.byDepartment Sample.store)
    (by decide +kernel)
  have sizeName : (SelectItem.aggregate ⟨.count, none, false⟩ (some "size")).outputName? =
      some "size" := rfl
  obtain ⟨join, mean, parents, tuples, e, grouped, ordered, _, _, _, sum, _⟩ :=
    answer_partitions_tuples Sample.sample_accepted rfl (by decide)
      (List.mem_cons_of_mem _ List.mem_cons_self) rfl sizeName apart answered
  have size : (Sample.byDepartment.tuples? Sample.store).map List.length = some 8 := by
    decide +kernel
  have length : tuples.length = 8 := by simpa [e.tuples] using size
  exact ⟨apart, rows, answered, by rw [sum (by omega), length]; rfl⟩

end QueryShapes

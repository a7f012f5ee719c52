import QueryShapes.Proofs.Faults
import QueryShapes.Proofs.RelatedNames

/-!
# Where answered fields come from

- `Query.Supplies`: a field is named as a stored one or as the select list says, and its value is
  stored, a number or null.
- `Aggregate.evaluate_eq_ok`: an aggregate gives a number, a null or one of the values it is about.
- `Shape.Traces`: a shape answers with such fields only; the built-in shapes are of that kind.
-/

namespace QueryShapes

/-- The field of a stored row. -/
def Store.HasField (store : Store) (field : String × Value) : Prop :=
  ∃ relation ∈ store.relations, ∃ row ∈ relation.rows, field ∈ row.fields

theorem Store.mem_of_relation? {store : Store} {name : String} {relation : Relation}
    (found : store.relation? name = some relation) : relation ∈ store.relations :=
  List.mem_of_find?_eq_some found

/-- The name is stored or selected; the value is stored, a number or null. -/
structure Query.Supplies (query : Query) (store : Store) (field : String × Value) : Prop where
  name : (∃ value, store.HasField (field.1, value)) ∨
    ∃ item ∈ query.items, item.outputName? = some field.1
  value : (∃ name, store.HasField (name, field.2)) ∨ field.2 = .null ∨ field.2.isNumeric

variable {query : Query} {store : Store}

theorem Query.supplies_stored {field : String × Value} (held : store.HasField field) :
    query.Supplies store field :=
  ⟨.inl ⟨_, held⟩, .inl ⟨_, held⟩⟩

/-! ## Tuples -/

namespace Tuple

/-- All rows of the tuple are stored. -/
def Stored (store : Store) (t : Tuple) : Prop :=
  ∀ entry ∈ t.entries, ∃ relation ∈ store.relations, entry.2 ∈ relation.rows

theorem Stored.hasField {t : Tuple} (stored : t.Stored store) {entry : String × Row}
    (hentry : entry ∈ t.entries) {field : String × Value} (hfield : field ∈ entry.2.fields) :
    store.HasField field := by
  obtain ⟨relation, held, hrow⟩ := stored entry hentry
  exact ⟨relation, held, entry.2, hrow, hfield⟩

theorem Stored.resolve? {t : Tuple} (stored : t.Stored store) {column : Column} {value : Value}
    (h : t.resolve? column = some value) : store.HasField (column.name, value) := by
  unfold Tuple.resolve? at h
  split at h
  · obtain ⟨row, bound, h⟩ := Option.bind_eq_some_iff.mp h
    obtain ⟨entry, found, rfl⟩ := Option.map_eq_some_iff.mp bound
    exact stored.hasField (List.mem_of_find?_eq_some found) (Row.mem_fields_of_get? h)
  · obtain ⟨entry, hentry, h⟩ := List.exists_of_findSome?_eq_some h
    exact stored.hasField hentry (Row.mem_fields_of_get? h)

/-- The value of a column, where a missing one counts as null. -/
theorem Stored.column {t : Tuple} (stored : t.Stored store) (column : Column) :
    (∃ name, store.HasField (name, (t.resolve? column).getD .null)) ∨
      (t.resolve? column).getD .null = .null ∨ ((t.resolve? column).getD .null).isNumeric := by
  cases resolved : t.resolve? column with
  | none => exact .inr (.inl rfl)
  | some value => exact .inl ⟨_, stored.resolve? resolved⟩

theorem Stored.project {t : Tuple} (stored : t.Stored store) {row : Row}
    (h : t.project query.items = .ok row) {field : String × Value} (hfield : field ∈ row.fields) :
    query.Supplies store field := by
  obtain ⟨given, projected, h⟩ := bind_eq_ok_iff.mp h
  obtain rfl := Except.ok.inj h
  obtain ⟨pairs, hpairs, hfield⟩ := List.mem_flatten.mp (Row.mem_fields_ofList hfield)
  obtain ⟨item, hitem, contributed⟩ := mem_of_mapM projected hpairs
  cases item with
  | wildcard qualifier =>
    obtain rfl := Except.ok.inj contributed
    obtain ⟨entry, hentry, hfield⟩ := List.mem_flatMap.mp hfield
    exact Query.supplies_stored (stored.hasField (List.mem_filter.mp hentry).1 hfield)
  | column c label =>
    obtain rfl := Except.ok.inj contributed
    obtain rfl := List.mem_singleton.mp hfield
    exact ⟨.inr ⟨_, hitem, rfl⟩, stored.column c⟩
  | aggregate call label => cases contributed

end Tuple

theorem Query.stored_of_mem_product {sources : List Source} {tuples : List Tuple}
    (h : product? store sources = some tuples) {t : Tuple} (ht : t ∈ tuples) : t.Stored store := by
  induction sources generalizing tuples t with
  | nil =>
    obtain rfl := Option.some_inj.mp h
    obtain rfl := List.mem_singleton.mp ht
    nofun
  | cons source rest ih =>
    obtain ⟨relation, row, tails, u, found, hrow, htails, hu, rfl⟩ := mem_product_cons h ht
    intro entry hentry
    obtain rfl | later := List.mem_cons.mp hentry
    · exact ⟨relation, Store.mem_of_relation? found, hrow⟩
    · exact ih htails hu entry later

theorem Query.stored_of_mem_selected {tuples : List Tuple}
    (h : query.selected? store = some tuples) {t : Tuple} (ht : t ∈ tuples) : t.Stored store := by
  obtain ⟨all, product, within⟩ := mem_product_of_mem_tuples h
  exact stored_of_mem_product product (within t ht).1

/-! ## Aggregates -/

namespace Aggregate

theorem foldl_mem {f : Value → Value → Value} (chooses : ∀ a b, f a b = a ∨ f a b = b)
    (first : Value) (rest : List Value) : rest.foldl f first ∈ first :: rest := by
  induction rest generalizing first with
  | nil => exact List.mem_singleton_self first
  | cons second rest ih =>
    rw [List.foldl_cons]
    obtain here | later := List.mem_cons.mp (ih (f first second))
    · rw [here]
      obtain same | same := chooses first second <;> simp [same]
    · exact List.mem_cons_of_mem _ (List.mem_cons_of_mem _ later)

theorem least_cases (values : List Value) :
    least values ∈ values ∨ values = [] ∧ least values = .null := by
  cases values with
  | nil => exact .inr ⟨rfl, rfl⟩
  | cons first rest =>
    refine .inl (foldl_mem (fun a b => ?_) first rest)
    split
    · exact .inr rfl
    · exact .inl rfl

theorem greatest_cases (values : List Value) :
    greatest values ∈ values ∨ values = [] ∧ greatest values = .null := by
  cases values with
  | nil => exact .inr ⟨rfl, rfl⟩
  | cons first rest =>
    refine .inl (foldl_mem (fun a b => ?_) first rest)
    split
    · exact .inl rfl
    · exact .inr rfl

theorem mean_cases (numbers : List Double) : mean numbers = .null ∨ (mean numbers).isNumeric := by
  unfold mean
  split
  · exact .inl rfl
  · exact .inr rfl

theorem sum_isNumeric {call : Aggregate} {values : List Value} {value : Value}
    (h : call.sum values = .ok value) : value.isNumeric := by
  unfold sum at h
  split at h
  · obtain rfl := Except.ok.inj h
    rfl
  · obtain ⟨numbers, _, h⟩ := bind_eq_ok_iff.mp h
    obtain rfl := Except.ok.inj h
    rfl

theorem unrounded_eq_ok {call : Aggregate} {group : List Tuple} {value : Value}
    (h : call.unrounded group = .ok value) :
    value ∈ call.values group ∨ value = .null ∨ value.isNumeric := by
  unfold unrounded at h
  cases function : call.function <;> rw [function] at h
  case count =>
    obtain rfl := Except.ok.inj h
    exact .inr (.inr rfl)
  case avg =>
    obtain ⟨numbers, _, h⟩ := bind_eq_ok_iff.mp h
    obtain rfl := Except.ok.inj h
    exact .inr (mean_cases numbers)
  case sum => exact .inr (.inr (sum_isNumeric h))
  case min =>
    obtain rfl := Except.ok.inj h
    exact (least_cases _).imp_right fun none => .inl none.2
  case max =>
    obtain rfl := Except.ok.inj h
    exact (greatest_cases _).imp_right fun none => .inl none.2

/-- Rounding makes no text. -/
theorem evaluate_eq_ok {call : Aggregate} {group : List Tuple} {value : Value}
    (h : call.evaluate group = .ok value) :
    value ∈ call.values group ∨ value = .null ∨ value.isNumeric := by
  unfold evaluate at h
  split at h
  · obtain ⟨before, unrounded, rfl⟩ := map_eq_ok_iff.mp h
    cases before with
    | decimal x => exact .inr (.inr rfl)
    | null | integer | text | date | boolean => exact unrounded_eq_ok unrounded
  · exact unrounded_eq_ok h

end Aggregate

/-! ## Answers of shapes -/

/-- The shape answers with fields that the query supplies from the store. -/
def Shape.Traces (shape : Shape) : Prop :=
  ∀ query store rows, shape.answer? query store = .ok (some rows) →
    ∀ row ∈ rows, ∀ field ∈ row.fields, query.Supplies store field

theorem Selects.supplies {pairs : List (Tuple × Row)} (selects : Selects query query.conjuncts store pairs)
    {pair : Tuple × Row} (hpair : pair ∈ pairs) {field : String × Value}
    (hfield : field ∈ pair.2.fields) : query.Supplies store field :=
  (Query.stored_of_mem_selected selects.tuples (List.mem_map_of_mem hpair)).project
    (selects.rows pair hpair) hfield

theorem SortedSelection.supplies {key : Tuple → Row → Value} {rows : List Row}
    (selection : SortedSelection query query.conjuncts store key rows) {row : Row} (hrow : row ∈ rows)
    {field : String × Value} (hfield : field ∈ row.fields) : query.Supplies store field := by
  obtain ⟨pairs, ordered, selects, descends, rfl⟩ := selection
  obtain ⟨pair, hpair, rfl⟩ := List.mem_map.mp hrow
  exact selects.supplies (descends.perm.mem_iff.mp hpair) hfield

theorem Threshold.traces : shape.Traces := by
  intro query store rows answered row hrow field hfield
  obtain ⟨pairs, selects, rfl⟩ := answer_selects answered
  obtain ⟨pair, hpair, rfl⟩ := List.mem_map.mp (Query.mem_of_mem_cut hrow)
  exact selects.supplies hpair hfield

theorem DateRange.traces : shape.Traces := by
  intro query store rows answered row hrow field hfield
  obtain ⟨_, _, _, _, _, sorted, selection, rfl⟩ := answer_selects answered
  exact selection.supplies (Query.mem_of_mem_cut hrow) hfield

theorem JoinSort.traces : shape.Traces := by
  intro query store rows answered row hrow field hfield
  obtain ⟨_, _, sorted, selection, rfl⟩ := answer_selects answered
  exact selection.supplies (Query.mem_of_mem_cut hrow) hfield

theorem Adjacency.traces : shape.Traces := by
  intro query store rows answered row hrow field hfield
  obtain ⟨table, name, output, relation, recognized, found, each⟩ := mem_of_answer? answered
  obtain ⟨column, label, items, rfl, rfl, _⟩ := recognize?_eq_some recognized
  obtain ⟨w, hw, value, shared, rfl⟩ := each row hrow
  obtain rfl := List.mem_singleton.mp (Row.mem_fields_ofList hfield)
  have first : w.1.get? column.name = some value := by
    unfold shared? at shared
    obtain ⟨a, ha, shared⟩ := Option.bind_eq_some_iff.mp shared
    obtain ⟨b, _, shared⟩ := Option.bind_eq_some_iff.mp shared
    obtain ⟨c, _, shared⟩ := Option.bind_eq_some_iff.mp shared
    split at shared
    · exact Option.some_inj.mp shared ▸ ha
    · cases shared
  refine ⟨.inr ⟨_, items ▸ List.mem_singleton_self _, rfl⟩,
    .inl ⟨column.name, relation, ?_, w.1, ?_, ?_⟩⟩
  · exact Store.mem_of_relation? found
  · exact rowsOf_subset hw List.mem_cons_self
  · exact Row.mem_fields_of_get? first

theorem GroupAverage.supplies_groupItem {first : Tuple} {group : List Tuple}
    (stored : ∀ t ∈ first :: group, t.Stored store) {item : SelectItem} (hitem : item ∈ query.items)
    {pairs : List (String × Value)} (h : groupItem first (first :: group) item = .ok pairs)
    {field : String × Value} (hfield : field ∈ pairs) : query.Supplies store field := by
  cases item with
  | wildcard =>
    obtain rfl := Except.ok.inj h
    cases hfield
  | column c label =>
    obtain rfl := Except.ok.inj h
    obtain rfl := List.mem_singleton.mp hfield
    exact ⟨.inr ⟨_, hitem, rfl⟩, (stored first List.mem_cons_self).column c⟩
  | aggregate call label =>
    obtain ⟨value, evaluated, h⟩ := bind_eq_ok_iff.mp h
    obtain rfl := Except.ok.inj h
    obtain rfl := List.mem_singleton.mp hfield
    refine ⟨.inr ⟨_, hitem, rfl⟩, (Aggregate.evaluate_eq_ok evaluated).imp_left fun among => ?_⟩
    obtain ⟨_, column, t, _, ht, resolved⟩ := Aggregate.mem_values_iff.mp among
    exact ⟨_, (stored t ht).resolve? resolved⟩

theorem GroupAverage.traces : shape.Traces := by
  intro query store rows answered row hrow field hfield
  obtain ⟨join, mean, parents, tuples, e, grouped, ordered, _, evaluated, descends, rfl⟩ :=
    answer_grouped answered
  obtain ⟨g, hg, rfl⟩ := List.mem_map.mp (Query.mem_of_mem_cut hrow)
  obtain ⟨_, first, rest, given, group, evaluates, made⟩ :=
    groupRow_eq_some (evaluated g (descends.perm.mem_iff.mp hg))
  have stored : ∀ t ∈ first :: rest, t.Stored store := by
    intro t ht
    rw [← group, groupOf_eq_filter] at ht
    exact Query.stored_of_mem_selected e.selected (List.mem_filter.mp ht).1
  rw [made] at hfield
  obtain ⟨pairs, hpairs, hfield⟩ := List.mem_flatten.mp (Row.mem_fields_ofList hfield)
  obtain ⟨item, hitem, contributed⟩ := mem_of_mapM evaluates hpairs
  exact supplies_groupItem stored hitem (group ▸ contributed) hfield

namespace Engine

theorem builtInShapes_trace : ∀ shape ∈ builtInShapes, shape.Traces := by
  refine forall_builtInShapes_iff.mpr ⟨?_, ?_, ?_, ?_, ?_⟩
  · exact JoinSort.traces
  · exact Adjacency.traces
  · exact DateRange.traces
  · exact Threshold.traces
  · exact GroupAverage.traces

end Engine

end QueryShapes

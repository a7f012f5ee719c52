import QueryShapes.Engine.Basic
import QueryShapes.Proofs.GroupRows
import QueryShapes.Proofs.Selection
import QueryShapes.Proofs.WindowConditions

/-!
# Names of answered rows

What holds between the names of any two stored rows of a relation holds between those of any two rows of
an answer, be it that they are the same set or that they stand in the same order. Where single columns are
selected, it holds of all answers.

- `NameRelation`: a relation that rows inherit from the pairs that they are made of.
- `Tuple.Related`: two tuples bind, in one order, rows whose names are related.
- `Shape.Relates`: a shape relates the names of all rows that it answers; the built-in shapes do.
- `read_eq_ok`, `execute_eq_rows`: what a read gives, and what a statement is answered with in rows.
- `execute_related`: so the rows of every answer are related.
-/

namespace QueryShapes

/-! ## Names of rows -/

namespace Row

theorem names_insertAll_congr {row row' : Row} {pairs pairs' : List (String × Value)}
    (same : row.names = row'.names) (h : pairs.map Prod.fst = pairs'.map Prod.fst) :
    (pairs.foldl (fun row pair => row.insert pair.1 pair.2) row).names =
      (pairs'.foldl (fun row pair => row.insert pair.1 pair.2) row').names := by
  induction pairs generalizing row row' pairs' with
  | nil =>
    obtain rfl := List.map_eq_nil_iff.mp h.symm
    exact same
  | cons pair pairs ih =>
    obtain ⟨pair', rest, rfl, named, others⟩ := List.map_eq_cons_iff.mp h.symm
    rw [List.foldl_cons, List.foldl_cons]
    refine ih ?_ others.symm
    rw [names_insert, names_insert, same, named]

/-- Which names a row lists, and in which order, is up to the names that are given. -/
theorem names_ofList_congr {pairs pairs' : List (String × Value)}
    (h : pairs.map Prod.fst = pairs'.map Prod.fst) : (ofList pairs).names = (ofList pairs').names :=
  names_insertAll_congr rfl h

theorem mem_names_insertAll {row : Row} {pairs : List (String × Value)} {name : String} :
    name ∈ (pairs.foldl (fun row pair => row.insert pair.1 pair.2) row).names ↔
      name ∈ row.names ∨ name ∈ pairs.map Prod.fst := by
  induction pairs generalizing row with
  | nil => simp
  | cons pair pairs ih =>
    rw [List.foldl_cons, ih, names_insert, List.map_cons, List.mem_cons, ← or_assoc]
    split
    · rename_i present
      have kept : name = pair.1 → name ∈ row.names := fun same => same ▸ present
      rw [or_iff_left_of_imp kept]
    · rw [List.mem_append, List.mem_singleton]

/-- A row made of pairs carries the names that are given. -/
theorem mem_names_ofList {pairs : List (String × Value)} {name : String} :
    name ∈ (ofList pairs).names ↔ name ∈ pairs.map Prod.fst :=
  mem_names_insertAll.trans (or_iff_right (by simp [empty, names]))

end Row

/-- A relation on lists of names that holds between rows when it holds between the pairs they are
made of. -/
structure NameRelation (r : List String → List String → Prop) : Prop where
  refl (names : List String) : r names names
  append {xs ys xs' ys' : List String} : r xs ys → r xs' ys' → r (xs ++ xs') (ys ++ ys')
  ofList {pairs pairs' : List (String × Value)} : r (pairs.map Prod.fst) (pairs'.map Prod.fst) →
    r (Row.ofList pairs).names (Row.ofList pairs').names

theorem NameRelation.sameSet : NameRelation fun xs ys => ∀ name, name ∈ xs ↔ name ∈ ys where
  refl _ _ := Iff.rfl
  append same same' name := by
    rw [List.mem_append, List.mem_append]
    exact or_congr (same name) (same' name)
  ofList same name := by
    rw [Row.mem_names_ofList, Row.mem_names_ofList]
    exact same name

theorem NameRelation.sameOrder : NameRelation (· = ·) where
  refl _ := rfl
  append same same' := congr (congrArg _ same) same'
  ofList := Row.names_ofList_congr

section
variable {r : List String → List String → Prop}

/-- The names of any two rows are related. -/
def RelatedRows (r : List String → List String → Prop) (rows : List Row) : Prop :=
  ∀ a ∈ rows, ∀ b ∈ rows, r a.names b.names

theorem RelatedRows.of_subset {rows rows' : List Row} (h : RelatedRows r rows)
    (within : ∀ row ∈ rows', row ∈ rows) : RelatedRows r rows' :=
  fun a ha b hb => h a (within a ha) b (within b hb)

/-- Rows that are made of pairs of the same names in the same order. -/
theorem NameRelation.of_pairs (kept : NameRelation r) {α : Type} {items : List α}
    {pairs : α → List (String × Value)}
    (same : ∀ x y, (pairs x).map Prod.fst = (pairs y).map Prod.fst) :
    RelatedRows r (items.map fun x => Row.ofList (pairs x)) := by
  intro a ha b hb
  obtain ⟨x, _, rfl⟩ := List.mem_map.mp ha
  obtain ⟨y, _, rfl⟩ := List.mem_map.mp hb
  exact kept.ofList (same x y ▸ kept.refl _)

/-- Rows that are put together item by item are related when all that an item gives is. -/
theorem NameRelation.of_mapM (kept : NameRelation r) {α : Type} {items : List α}
    {f g : α → Except Fault (List (String × Value))} {given given' : List (List (String × Value))}
    (hf : items.mapM f = .ok given) (hg : items.mapM g = .ok given')
    (each : ∀ item ∈ items, ∀ pairs pairs', f item = .ok pairs → g item = .ok pairs' →
      r (pairs.map Prod.fst) (pairs'.map Prod.fst)) :
    r (Row.ofList given.flatten).names (Row.ofList given'.flatten).names := by
  apply kept.ofList
  induction items generalizing given given' with
  | nil =>
    cases hf
    cases hg
    exact kept.refl _
  | cons item items ih =>
    rw [List.mapM_cons] at hf hg
    obtain ⟨pairs, here, hf⟩ := bind_eq_ok_iff.mp hf
    obtain ⟨more, later, hf⟩ := bind_eq_ok_iff.mp hf
    obtain rfl := Except.ok.inj hf
    obtain ⟨pairs', here', hg⟩ := bind_eq_ok_iff.mp hg
    obtain ⟨more', later', hg⟩ := bind_eq_ok_iff.mp hg
    obtain rfl := Except.ok.inj hg
    rw [List.flatten_cons, List.flatten_cons, List.map_append, List.map_append]
    exact kept.append (each item List.mem_cons_self pairs pairs' here here')
      (ih later later' fun i hi => each i (List.mem_cons_of_mem _ hi))

/-! ## Tuples of one product -/

namespace Tuple

/-- The tuples bind the same names in one order, to rows whose names are related. -/
def Related (r : List String → List String → Prop) (t u : Tuple) : Prop :=
  List.Forall₂ (fun x y => x.1 = y.1 ∧ r x.2.names y.2.names) t.entries u.entries

theorem Related.wildcard (kept : NameRelation r) {t u : Tuple} (related : t.Related r u)
    (qualifier : Option String) :
    r (((t.entries.filter fun entry => qualifier.all (· = entry.1)).flatMap
        (·.2.fields)).map Prod.fst)
      (((u.entries.filter fun entry => qualifier.all (· = entry.1)).flatMap
        (·.2.fields)).map Prod.fst) := by
  unfold Related at related
  generalize t.entries = xs, u.entries = ys at related ⊢
  induction related with
  | nil => exact kept.refl _
  | cons pair _ ih =>
    obtain ⟨binding, names⟩ := pair
    simp only [List.filter_cons, binding]
    split
    · rw [List.flatMap_cons, List.flatMap_cons, List.map_append, List.map_append]
      exact kept.append names ih
    · exact ih

theorem contribution_related (kept : NameRelation r) {t u : Tuple} {item : SelectItem}
    (alike : t.Related r u ∨ item.isWildcard = false) {pairs pairs' : List (String × Value)}
    (ht : t.contribution item = .ok pairs) (hu : u.contribution item = .ok pairs') :
    r (pairs.map Prod.fst) (pairs'.map Prod.fst) := by
  cases item with
  | wildcard qualifier =>
    obtain related | plain := alike
    · obtain rfl := Except.ok.inj ht
      obtain rfl := Except.ok.inj hu
      exact related.wildcard kept qualifier
    · cases plain
  | column c label =>
    obtain rfl := Except.ok.inj ht
    obtain rfl := Except.ok.inj hu
    exact kept.refl _
  | aggregate call label => cases ht

theorem project_related (kept : NameRelation r) {t u : Tuple} {items : List SelectItem}
    (alike : t.Related r u ∨ ∀ item ∈ items, item.isWildcard = false) {a b : Row}
    (ht : t.project items = .ok a) (hu : u.project items = .ok b) : r a.names b.names := by
  obtain ⟨given, hgiven, ht⟩ := bind_eq_ok_iff.mp ht
  obtain ⟨given', hgiven', hu⟩ := bind_eq_ok_iff.mp hu
  obtain rfl := Except.ok.inj ht
  obtain rfl := Except.ok.inj hu
  exact kept.of_mapM hgiven hgiven' fun item hitem _ _ here there =>
    contribution_related kept (alike.imp_right (· item hitem)) here there

end Tuple

/-- In every relation of the store the names of any two rows are related. -/
def Store.Related (r : List String → List String → Prop) (store : Store) : Prop :=
  ∀ name relation, store.relation? name = some relation → RelatedRows r relation.rows

/-- The stored rows are related, or the select list does not take rows as they are. -/
def Query.Inherits (r : List String → List String → Prop) (query : Query) (store : Store) : Prop :=
  store.Related r ∨ ∀ item ∈ query.items, item.isWildcard = false

variable {query : Query} {store : Store} {rows : List Row}

theorem Query.related_of_mem_product (related : store.Related r) {sources : List Source}
    {tuples : List Tuple} (h : product? store sources = some tuples) {t u : Tuple}
    (ht : t ∈ tuples) (hu : u ∈ tuples) : t.Related r u := by
  induction sources generalizing tuples t u with
  | nil =>
    obtain rfl := Option.some_inj.mp h
    obtain rfl := List.mem_singleton.mp ht
    obtain rfl := List.mem_singleton.mp hu
    exact .nil
  | cons source rest ih =>
    obtain ⟨relation, row, tails, t', found, hrow, htails, ht', rfl⟩ := mem_product_cons h ht
    obtain ⟨relation', row', tails', u', found', hrow', htails', hu', rfl⟩ := mem_product_cons h hu
    obtain rfl := Option.some_inj.mp (found.symm.trans found')
    obtain rfl := Option.some_inj.mp (htails.symm.trans htails')
    exact .cons ⟨rfl, related _ _ found row hrow row' hrow'⟩ (ih htails ht' hu')

/-! ## Answers of shapes -/

theorem Selects.related (kept : NameRelation r) {pairs : List (Tuple × Row)}
    (selects : Selects query query.conjuncts store pairs) (inherits : query.Inherits r store) :
    RelatedRows r (pairs.map Prod.snd) := by
  obtain ⟨all, product, within⟩ := Query.mem_product_of_mem_tuples selects.tuples
  intro a ha b hb
  obtain ⟨p, hp, rfl⟩ := List.mem_map.mp ha
  obtain ⟨q, hq, rfl⟩ := List.mem_map.mp hb
  have alike := inherits.imp_left fun related => Query.related_of_mem_product related product
    (within _ (List.mem_map_of_mem hp)).1 (within _ (List.mem_map_of_mem hq)).1
  exact Tuple.project_related kept alike (selects.rows p hp) (selects.rows q hq)

theorem SortedSelection.related (kept : NameRelation r) {key : Tuple → Row → Value}
    (selection : SortedSelection query query.conjuncts store key rows) (inherits : query.Inherits r store) :
    RelatedRows r rows := by
  obtain ⟨pairs, ordered, selects, descends, rfl⟩ := selection
  exact (selects.related kept inherits).of_subset fun _ => (descends.perm.map _).mem_iff.mp

/-- The rows of each answer are related, as far as they inherit that. -/
def Shape.Relates (r : List String → List String → Prop) (shape : Shape) : Prop :=
  ∀ query store rows, query.Inherits r store → shape.answer? query store = .ok (some rows) →
    RelatedRows r rows

theorem Threshold.relates (kept : NameRelation r) : shape.Relates r := by
  intro query store rows inherits answered
  obtain ⟨pairs, selects, rfl⟩ := answer_selects answered
  exact (selects.related kept inherits).of_subset fun _ => Query.mem_of_mem_cut

theorem DateRange.relates (kept : NameRelation r) : shape.Relates r := by
  intro query store rows inherits answered
  obtain ⟨_, _, _, _, _, sorted, selection, rfl⟩ := answer_selects answered
  exact (selection.related kept inherits).of_subset fun _ => Query.mem_of_mem_cut

theorem JoinSort.relates (kept : NameRelation r) : shape.Relates r := by
  intro query store rows inherits answered
  obtain ⟨_, _, sorted, selection, rfl⟩ := answer_selects answered
  exact (selection.related kept inherits).of_subset fun _ => Query.mem_of_mem_cut

theorem Adjacency.relates (kept : NameRelation r) : shape.Relates r := by
  intro query store rows _ answered
  simp only [shape, answer?] at answered
  split at answered
  · rename_i table field output _
    obtain ⟨relation, _, rfl⟩ := Option.map_eq_some_iff.mp (Except.ok.inj answered)
    have single : RelatedRows r
        ((runs field relation.rows).map fun value => .ofList [(output, value)]) :=
      kept.of_pairs fun _ _ => rfl
    exact single.of_subset fun _ => Query.mem_of_mem_cut
  · cases answered

/-- The rows of two groups carry the output names of the select list. -/
theorem GroupAverage.related_groupRow (kept : NameRelation r) {mean : Aggregate}
    {group group' : List Tuple} {average average' : Value} {a b : Row}
    (plain : ∀ item ∈ query.items, item.isWildcard = false)
    (ha : groupRow query mean group = .ok (some (average, a)))
    (hb : groupRow query mean group' = .ok (some (average', b))) : r a.names b.names := by
  obtain ⟨_, _, _, fields, _, given, rfl⟩ := groupRow_eq_some ha
  obtain ⟨_, _, _, fields', _, given', rfl⟩ := groupRow_eq_some hb
  apply kept.of_mapM given given'
  intro item hitem pairs pairs' here there
  obtain ⟨_, rfl, _⟩ := groupItem_eq_ok (plain item hitem) here
  obtain ⟨_, rfl, _⟩ := groupItem_eq_ok (plain item hitem) there
  exact kept.refl _

theorem GroupAverage.relates (kept : NameRelation r) : shape.Relates r := by
  intro query store rows _ answered
  obtain ⟨join, mean, parents, tuples, e, grouped, ordered, _, evaluated, descends, rfl⟩ :=
    answer_grouped answered
  have plain := (recognize?_eq_some e.recognized).2.2.2
  have whole : RelatedRows r (ordered.map Grouped.row) := by
    intro a ha b hb
    obtain ⟨g, hg, rfl⟩ := List.mem_map.mp ha
    obtain ⟨g', hg', rfl⟩ := List.mem_map.mp hb
    exact related_groupRow kept plain (evaluated g (descends.perm.mem_iff.mp hg))
      (evaluated g' (descends.perm.mem_iff.mp hg'))
  exact whole.of_subset fun _ => Query.mem_of_mem_cut

namespace Engine

theorem builtInShapes_relate (kept : NameRelation r) :
    ∀ shape ∈ builtInShapes, shape.Relates r := by
  refine forall_builtInShapes_iff.mpr ⟨?_, ?_, ?_, ?_, ?_⟩
  · exact JoinSort.relates kept
  · exact Adjacency.relates kept
  · exact DateRange.relates kept
  · exact Threshold.relates kept
  · exact GroupAverage.relates kept

/-! ## Reads -/

theorem firstAnswer?_eq_some {shapes : List Shape}
    (h : firstAnswer? query store shapes = .ok (some rows)) :
    ∃ shape ∈ shapes, shape.answer? query store = .ok (some rows) := by
  induction shapes with
  | nil => cases h
  | cons shape rest ih =>
    rw [firstAnswer?] at h
    obtain ⟨answer, here, h⟩ := bind_eq_ok_iff.mp h
    cases answer with
    | some found =>
      obtain rfl := Option.some_inj.mp (Except.ok.inj h)
      exact ⟨shape, List.mem_cons_self, here⟩
    | none =>
      obtain ⟨other, hother, answers⟩ := ih h
      exact ⟨other, List.mem_cons_of_mem _ hother, answers⟩

theorem scan_cases (store : Store) (text : String) : Scan.rows store text = [] ∨
    ∃ name relation, store.relation? name = some relation ∧ Scan.rows store text = relation.rows := by
  unfold Scan.rows
  cases found : (Scan.relation? text).bind store.rows? with
  | none => exact .inl rfl
  | some held =>
    obtain ⟨name, _, stored⟩ := Option.bind_eq_some_iff.mp found
    obtain ⟨relation, known, rfl⟩ := Option.map_eq_some_iff.mp stored
    exact .inr ⟨name, relation, known, rfl⟩

/-- A read gives no rows, the rows of a relation, or what a shape answers to the query. -/
theorem read_eq_ok {text : String} (h : (ofStore store).read text = .ok rows) :
    rows = [] ∨ (∃ name relation, store.relation? name = some relation ∧ rows = relation.rows) ∨
      ∃ query, Query.ofText? text = .ok query ∧
        ∃ shape ∈ builtInShapes, shape.answer? query store = .ok (some rows) := by
  unfold read at h
  cases parsed : Query.ofText? text with
  | error rejection =>
    rw [parsed] at h
    obtain rfl := Except.ok.inj h
    exact (scan_cases store text).imp_right .inl
  | ok query =>
    rw [parsed] at h
    obtain ⟨answer, answered, h⟩ := bind_eq_ok_iff.mp h
    obtain rfl := Except.ok.inj h
    cases answer with
    | none => exact (scan_cases store text).imp_right .inl
    | some found => exact .inr (.inr ⟨query, rfl, firstAnswer?_eq_some answered⟩)

/-- A shape answers the query of the text, and its select list does not take rows as they are. -/
def SelectsColumns (store : Store) (text : String) : Prop :=
  ∃ query, Query.ofText? text = .ok query ∧ (∀ item ∈ query.items, item.isWildcard = false) ∧
    ∃ found, firstAnswer? query store builtInShapes = .ok (some found)

theorem read_related (kept : NameRelation r) {text : String}
    (inherits : store.Related r ∨ SelectsColumns store text)
    (h : (ofStore store).read text = .ok rows) : RelatedRows r rows := by
  obtain related | ⟨query, parsed, columns, found, answered⟩ := inherits
  · obtain rfl | ⟨name, relation, found, rfl⟩ | ⟨query, _, shape, hshape, answers⟩ := read_eq_ok h
    · nofun
    · exact related name relation found
    · exact builtInShapes_relate kept shape hshape query store rows (.inl related) answers
  · obtain ⟨shape, hshape, answers⟩ := firstAnswer?_eq_some answered
    have same : (ofStore store).read text = .ok found := by
      rw [read, parsed]
      exact bind_eq_ok_iff.mpr ⟨some found, answered, rfl⟩
    obtain rfl := Except.ok.inj (same.symm.trans h)
    exact builtInShapes_relate kept shape hshape query store found (.inr columns) answers

/-! ## Statements -/

/-- What a statement is answered with in rows. -/
theorem execute_eq_rows {newId text : String} {parameters : List Value}
    (h : (ofStore store).execute newId text parameters = .ok (.rows rows)) :
    rows = [.ofList [("test", .integer 1)]] ∨
      (StatementKind.ofText text = .listing ∧ rows = (ofStore store).listing) ∨
      (∃ relation, rows = (store.schemaOf relation).toRows) ∨
      StatementKind.ofText text = .read ∧ (ofStore store).read text = .ok rows := by
  unfold execute at h
  generalize StatementKind.ofText text = kind at h
  cases kind with
  | liveness => exact .inl (Envelope.rows.inj (Except.ok.inj h)).symm
  | listing => exact .inr (.inl ⟨rfl, (Envelope.rows.inj (Except.ok.inj h)).symm⟩)
  | description relation =>
    exact .inr (.inr (.inl ⟨relation, (Envelope.rows.inj (Except.ok.inj h)).symm⟩))
  | read =>
    obtain ⟨found, given, same⟩ := map_eq_ok_iff.mp h
    exact .inr (.inr (.inr ⟨rfl, Envelope.rows.inj same ▸ given⟩))
  | mutation => cases Except.ok.inj h

/-- What is answered without a read lists the same names in the same order in every row. -/
theorem execute_related (kept : NameRelation r) {newId text : String} {parameters : List Value}
    (inherits : StatementKind.ofText text = .read → store.Related r ∨ SelectsColumns store text)
    (answered : (ofStore store).execute newId text parameters = .ok (.rows rows)) :
    RelatedRows r rows := by
  obtain rfl | ⟨_, rfl⟩ | ⟨relation, rfl⟩ | ⟨kind, given⟩ := execute_eq_rows answered
  · intro a ha b hb
    rw [List.mem_singleton.mp ha, List.mem_singleton.mp hb]
    exact kept.refl _
  · exact kept.of_pairs fun _ _ => rfl
  · exact kept.of_pairs fun _ _ => rfl
  · exact read_related kept (inherits kind) given

end Engine

end

end QueryShapes

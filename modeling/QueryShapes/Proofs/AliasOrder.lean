import QueryShapes.Proofs.CommonFront
import QueryShapes.Proofs.Faults
import QueryShapes.Proofs.Resolution
import QueryShapes.Proofs.ShapePriority

/-!
# Ordering by an alias

A key join is ordered by a column of its tuples or else by an output field. An alias is kept as it is
written in the output, but in lower case as an ordering.

- `key_alias`: a lower-case alias leads to the output field, and so to the column that it stands for.
- `key_unknown`: an ordering that is neither a field nor an output name leads nowhere.
- `ByOutput`: an ordering by a column that some tuple lacks can be by another item's output.
- `answers_by_alias`: where the alias is in lower case, and the column is no such one, ordering by the
  alias is ordering by the column. An alias with capitals leaves the key join to a scan.
-/

namespace QueryShapes

/-! ## Fields of projected rows -/

namespace Row

theorem mem_of_get?_ofList {pairs : List (String × Value)} {name : String} {value : Value}
    (h : (ofList pairs).get? name = some value) : (name, value) ∈ pairs :=
  mem_fields_ofList (mem_fields_of_get? h)

theorem get?_ofList_of_only {pairs : List (String × Value)} {name : String} {value : Value}
    (h : (name, value) ∈ pairs) (only : ∀ v, (name, v) ∈ pairs → v = value) :
    (ofList pairs).get? name = some value := by
  cases found : (ofList pairs).get? name with
  | some v => rw [only v (mem_of_get?_ofList found)]
  | none =>
    rw [get?_ofList, List.lookup_eq_none_iff] at found
    simpa using found _ (List.mem_reverse.mpr h)

end Row

namespace Tuple

/-- No row of the tuple has a field of that name. -/
def Lacks (tuple : Tuple) (name : String) : Prop :=
  ∀ entry ∈ tuple.entries, entry.2.get? name = none

theorem Lacks.resolve? {tuple : Tuple} {name : String} (lacks : tuple.Lacks name) :
    tuple.resolve? ⟨none, name⟩ = none :=
  List.findSome?_eq_none_iff.mpr lacks

theorem Lacks.not_mem_fields {tuple : Tuple} {name : String} (lacks : tuple.Lacks name)
    {entry : String × Row} (bound : entry ∈ tuple.entries) (value : Value) :
    (name, value) ∉ entry.2.fields := by
  intro member
  have absent := lacks entry bound
  rw [Row.get?, List.lookup_eq_none_iff] at absent
  simpa using absent _ member

/-- What a tuple contributes under a name that its rows lack is a column of that output name. -/
theorem Lacks.contribution {tuple : Tuple} {name : String} (lacks : tuple.Lacks name)
    {item : SelectItem} {pairs : List (String × Value)} {value : Value}
    (contributed : tuple.contribution item = .ok pairs) (member : (name, value) ∈ pairs) :
    ∃ column label, item = .column column label ∧ item.outputName? = some name ∧
      value = (tuple.resolve? column).getD .null := by
  cases item with
  | wildcard qualifier =>
    obtain rfl := Except.ok.inj contributed
    obtain ⟨entry, kept, member⟩ := List.mem_flatMap.mp member
    exact absurd member (lacks.not_mem_fields (List.mem_of_mem_filter kept) value)
  | column c label =>
    obtain rfl := Except.ok.inj contributed
    obtain ⟨rfl, rfl⟩ := Prod.mk.inj (List.mem_singleton.mp member)
    exact ⟨c, label, rfl, rfl, rfl⟩
  | aggregate => cases contributed

theorem exists_pairs_of_project {tuple : Tuple} {items : List SelectItem} {row : Row}
    (projected : tuple.project items = .ok row) : ∃ pairs, row = .ofList pairs ∧
      ∀ pair, pair ∈ pairs ↔ ∃ item ∈ items, ∃ contributed,
        tuple.contribution item = .ok contributed ∧ pair ∈ contributed := by
  obtain ⟨contributions, contributed, made⟩ := bind_eq_ok_iff.mp projected
  obtain rfl := Except.ok.inj made
  obtain ⟨couples, rfl, rfl, each⟩ := exists_pairs_of_mapM contributed
  refine ⟨_, rfl, fun pair => ?_⟩
  simp only [List.mem_flatten, List.mem_map]
  constructor
  · rintro ⟨_, ⟨couple, listed, rfl⟩, member⟩
    exact ⟨couple.1, ⟨couple, listed, rfl⟩, couple.2, each couple listed, member⟩
  · rintro ⟨_, ⟨couple, listed, rfl⟩, contributed, same, member⟩
    obtain rfl := Except.ok.inj ((each couple listed).symm.trans same)
    exact ⟨couple.2, ⟨couple, listed, rfl⟩, member⟩

end Tuple

/-! ## Keys -/

namespace JoinSort

variable {tuple : Tuple} {items : List SelectItem} {row : Row} {name : String}

/-- Ordering by an alias that is the only output of its name is ordering by what it stands for. -/
theorem key_alias {column : Column} (lacks : tuple.Lacks name)
    (listed : .column column (some name) ∈ items)
    (unique : ∀ item ∈ items, item.outputName? = some name → item = .column column (some name))
    (projected : tuple.project items = .ok row) :
    key ⟨⟨none, name⟩, true⟩ tuple row = (tuple.resolve? column).getD .null := by
  obtain ⟨pairs, rfl, mem_pairs⟩ := Tuple.exists_pairs_of_project projected
  have held : (name, (tuple.resolve? column).getD .null) ∈ pairs :=
    (mem_pairs _).mpr ⟨_, listed, _, rfl, List.mem_singleton.mpr rfl⟩
  have only : ∀ v, (name, v) ∈ pairs → v = (tuple.resolve? column).getD .null := by
    intro v member
    obtain ⟨item, listed, contributed, made, member⟩ := (mem_pairs _).mp member
    obtain ⟨column', label, rfl, named, rfl⟩ := lacks.contribution made member
    obtain ⟨rfl, _⟩ := SelectItem.column.inj (unique _ listed named)
    rfl
  rw [key, lacks.resolve?, Row.get?_ofList_of_only held only]
  rfl

/-- An ordering that is neither a field nor the name of an output leads nowhere. -/
theorem key_unknown {descending : Bool} (lacks : tuple.Lacks name)
    (absent : ∀ item ∈ items, item.outputName? ≠ some name)
    (projected : tuple.project items = .ok row) :
    key ⟨⟨none, name⟩, descending⟩ tuple row = .null := by
  obtain ⟨pairs, rfl, mem_pairs⟩ := Tuple.exists_pairs_of_project projected
  have nothing : (Row.ofList pairs).get? name = none := by
    rw [Option.eq_none_iff_forall_not_mem]
    intro v held
    obtain ⟨item, listed, contributed, made, member⟩ :=
      (mem_pairs _).mp (Row.mem_of_get?_ofList held)
    obtain ⟨_, _, _, named, _⟩ := lacks.contribution made member
    exact absent item listed named
  rw [key, lacks.resolve?, nothing]
  rfl

end JoinSort

/-! ## Answers -/

/-- The query with this column, or output field, to be ordered by. -/
def Query.orderedBy (query : Query) (column : Column) : Query :=
  { query with orderBy := [⟨column, true⟩] }

/-- No row of a relation that the query reads has a field of that name. -/
def Query.Fresh (query : Query) (store : Store) (name : String) : Prop :=
  ∀ source ∈ query.sources, ∀ relation ∈ store.relation? source.table,
    ∀ row ∈ relation.rows, row.get? name = none

theorem Query.lacks_of_mem_product {store : Store} {name : String} {sources : List Source}
    {tuples : List Tuple} (h : product? store sources = some tuples)
    (fresh : ∀ source ∈ sources, ∀ relation ∈ store.relation? source.table,
      ∀ row ∈ relation.rows, row.get? name = none) :
    ∀ tuple ∈ tuples, tuple.Lacks name := by
  induction sources generalizing tuples with
  | nil =>
    obtain rfl := Option.some_inj.mp h
    simp [Tuple.Lacks]
  | cons source rest ih =>
    obtain ⟨here, later⟩ := List.forall_mem_cons.mp fresh
    intro tuple member
    obtain ⟨relation, row, tails, tail, found, stored, htails, htail, rfl⟩ :=
      mem_product_cons h member
    exact List.forall_mem_cons.mpr ⟨here relation found row stored, ih htails later tail htail⟩

namespace JoinSort

variable {query : Query} {store : Store} {tuples : List Tuple} {column : Column} {order : SortKey}

theorem tuples?_eq_selected? (recognized : recognize? query = some order) :
    query.tuples? store = query.selected? store := by
  obtain ⟨_, join, hjoin⟩ := recognize?_eq_some recognized
  obtain ⟨_, _, _, _, reads⟩ := KeyJoin.ofQuery?_reads hjoin
  exact reads.tuples?_eq store

theorem lacks_of_mem_tuples (recognized : recognize? query = some order)
    (bound : query.tuples? store = some tuples) {name : String} (fresh : query.Fresh store name) :
    ∀ tuple ∈ tuples, tuple.Lacks name := by
  rw [tuples?_eq_selected? recognized] at bound
  obtain ⟨all, product, members⟩ := Query.mem_product_of_mem_tuples bound
  exact fun tuple member => Query.lacks_of_mem_product product fresh tuple (members tuple member).1

theorem recognize?_orderedBy (recognized : recognize? query = some order) (column : Column) :
    recognize? (query.orderedBy column) = some ⟨column, true⟩ := by
  unfold recognize? at recognized
  split at recognized
  · rename_i plain
    have plain' : (query.orderedBy column).isPlain ∧
        (KeyJoin.ofQuery? (query.orderedBy column)).isSome := plain
    rw [recognize?, if_pos plain']
    rfl
  · cases recognized

theorem answer?_of_keyed {keyed : List (Value × Row)} (recognized : recognize? query = some order)
    (bound : query.tuples? store = some tuples)
    (projected : query.projectKeyed (key order) tuples = .ok keyed) :
    answer? query store =
      .ok (if keyed.any (!·.1.isNumeric) then none else some (query.cut (sortDescending keyed))) := by
  simp only [answer?, recognized, bound, projected, bind, Except.bind]
  split <;> rfl

/-- A key join is left to others exactly if some tuple has no number to be ordered by. -/
theorem answer?_eq_none_iff (recognized : recognize? query = some order)
    (bound : query.tuples? store = some tuples) : answer? query store = .ok none ↔
      ∃ tuple ∈ tuples, ∃ row, tuple.project query.items = .ok row ∧
        (key order tuple row).isNumeric = false := by
  obtain ⟨keyed, projected⟩ :=
    Query.projectKeyed_succeeds (isPlain_of_recognized recognized) (key order) tuples
  rw [answer?_of_keyed recognized bound projected]
  rw [tuples?_eq_selected? recognized] at bound
  obtain ⟨pairs, selects, rfl⟩ := Query.selects_of_projectKeyed bound projected
  obtain rfl := Option.some_inj.mp (bound.symm.trans selects.tuples)
  rw [Except.ok.injEq, ite_eq_left_iff, imp_iff_not (Option.some_ne_none _), not_not, List.any_map,
    List.any_eq_true]
  constructor
  · rintro ⟨pair, listed, nonNumber⟩
    exact ⟨pair.1, List.mem_map_of_mem listed, pair.2, selects.rows pair listed,
      by simpa using nonNumber⟩
  · rintro ⟨_, member, row, made, nonNumber⟩
    obtain ⟨pair, listed, rfl⟩ := List.mem_map.mp member
    obtain rfl := Except.ok.inj (made.symm.trans (selects.rows pair listed))
    exact ⟨pair, listed, by simpa using nonNumber⟩

/-- Keys decide the answer, whatever they are read from. -/
theorem answer?_orderedBy_congr {column' : Column} (recognized : recognize? query = some order)
    (bound : query.tuples? store = some tuples)
    (same : ∀ tuple ∈ tuples, ∀ row, tuple.project query.items = .ok row →
      key ⟨column, true⟩ tuple row = key ⟨column', true⟩ tuple row) :
    answer? (query.orderedBy column) store = answer? (query.orderedBy column') store := by
  obtain ⟨keyed, projected⟩ := Query.projectKeyed_succeeds (isPlain_of_recognized recognized)
    (key ⟨column, true⟩) tuples
  have projected' : query.projectKeyed (key ⟨column', true⟩) tuples = .ok keyed := by
    rw [← projected]
    apply mapM_congr
    intro tuple member
    cases made : tuple.project query.items with
    | error fault => rfl
    | ok row =>
      have swapped := same tuple member row made
      simp only [bind, Except.bind, swapped]
  exact (answer?_of_keyed (recognize?_orderedBy recognized column) bound projected).trans
    (answer?_of_keyed (recognize?_orderedBy recognized column') bound projected').symm

/-- Some tuple lacks the column, and still ordering by it finds a number in each: the output field of the
column's name. -/
def ByOutput (query : Query) (store : Store) (column : Column) : Prop :=
  ∃ tuples, query.tuples? store = some tuples ∧
    (∃ tuple ∈ tuples, tuple.resolve? column = none) ∧
    ∀ tuple ∈ tuples, ∀ row, tuple.project query.items = .ok row →
      (key ⟨column, true⟩ tuple row).isNumeric = true

section
variable {name : String} (recognized : recognize? query = some order) (fresh : query.Fresh store name)
  (listed : .column column (some name) ∈ query.items)
  (unique : ∀ item ∈ query.items, item.outputName? = some name →
    item = .column column (some name))
include recognized fresh listed unique

/-- A key join is left to others where it is ordered by an alias of a column that some tuple lacks. -/
theorem answer?_alias_of_missing (bound : query.tuples? store = some tuples) {tuple : Tuple}
    (member : tuple ∈ tuples) (missing : tuple.resolve? column = none) :
    answer? (query.orderedBy ⟨none, name⟩) store = .ok none := by
  have plain := isPlain_of_recognized recognized
  obtain ⟨row, projected⟩ := Query.project_succeeds plain tuple
  refine (answer?_eq_none_iff (recognize?_orderedBy recognized _) bound).mpr
    ⟨tuple, member, row, projected, ?_⟩
  have lacks := lacks_of_mem_tuples recognized bound fresh tuple member
  rw [key_alias lacks listed unique projected, missing]
  rfl

theorem answer?_alias_iff : answer? (query.orderedBy ⟨none, name⟩) store =
    answer? (query.orderedBy column) store ↔ ¬ ByOutput query store column := by
  have byColumn := recognize?_orderedBy recognized column
  constructor
  · rintro same ⟨tuples, bound, ⟨tuple, member, missing⟩, numbers⟩
    rw [answer?_alias_of_missing recognized fresh listed unique bound member missing] at same
    obtain ⟨tuple', member', row, projected, nonNumber⟩ :=
      (answer?_eq_none_iff byColumn bound).mp same.symm
    exact Bool.false_ne_true (nonNumber.symm.trans (numbers tuple' member' row projected))
  · intro direct
    cases bound : query.tuples? store with
    | none =>
      have unbound (column : Column) : answer? (query.orderedBy column) store = .ok none := by
        have bound' : (query.orderedBy column).tuples? store = none := bound
        rw [answer?, bound', recognize?_orderedBy recognized]
      rw [unbound, unbound]
    | some tuples =>
      by_cases held : ∀ tuple ∈ tuples, (tuple.resolve? column).isSome
      · refine answer?_orderedBy_congr recognized bound fun tuple member row projected => ?_
        have lacks := lacks_of_mem_tuples recognized bound fresh tuple member
        obtain ⟨value, found⟩ := Option.isSome_iff_exists.mp (held tuple member)
        rw [key_alias lacks listed unique projected, key, found]
        rfl
      · obtain ⟨tuple, member, missing⟩ : ∃ tuple ∈ tuples, tuple.resolve? column = none := by
          simpa using held
        -- A tuple lacks the column, so not every tuple can have a number.
        have unnumbered : ∃ tuple ∈ tuples, ∃ row, tuple.project query.items = .ok row ∧
            (key ⟨column, true⟩ tuple row).isNumeric = false := by
          by_contra all
          refine direct ⟨tuples, bound, ⟨tuple, member, missing⟩, ?_⟩
          intro tuple' member' row projected
          by_contra nonNumber
          exact all ⟨tuple', member', row, projected, by simpa using nonNumber⟩
        rw [answer?_alias_of_missing recognized fresh listed unique bound member missing]
        exact ((answer?_eq_none_iff byColumn bound).mpr unnumbered).symm

end

/-- An ordering that is neither a field nor the name of an output leaves a key join to others. -/
theorem answer?_unknown {name : String} (recognized : recognize? query = some order)
    (bound : query.tuples? store = some tuples) (joined : tuples ≠ [])
    (fresh : query.Fresh store name) (absent : ∀ item ∈ query.items, item.outputName? ≠ some name) :
    answer? (query.orderedBy ⟨none, name⟩) store = .ok none := by
  obtain ⟨tuple, rest, rfl⟩ := List.exists_cons_of_ne_nil joined
  obtain ⟨row, projected⟩ := Query.project_succeeds (isPlain_of_recognized recognized) tuple
  have lacks := lacks_of_mem_tuples recognized bound fresh tuple List.mem_cons_self
  refine (answer?_eq_none_iff (recognize?_orderedBy recognized _) bound).mpr
    ⟨tuple, List.mem_cons_self, row, projected, ?_⟩
  rw [key_unknown lacks absent projected]
  rfl

end JoinSort

/-! ## Statements -/

namespace Engine

variable {query : Query} {store : Store}

/-- A query that is recognized as a key join is answered as one or not at all. -/
theorem firstAnswer?_of_joinSort {order : SortKey}
    (recognized : JoinSort.recognize? query = some order) (store : Store) :
    firstAnswer? query store builtInShapes = JoinSort.answer? query store := by
  obtain ⟨_, join, hjoin⟩ := JoinSort.recognize?_eq_some recognized
  have two := KeyJoin.length_sources hjoin
  have apart {shape : Shape} {count : Nat} (counts : shape.Counts count) (other : count ≠ 2) :
      shape.Passes query store :=
    (counts query store).resolve_right fun counted => other (counted.symm.trans two)
  have ungrouped : query.groupBy.isEmpty = true := by
    have plain := JoinSort.isPlain_of_recognized recognized
    rw [Query.isPlain, Bool.and_eq_true] at plain
    exact plain.1
  have grouped : GroupAverage.shape.Passes query store := by
    simp [Shape.Passes, GroupAverage.shape, GroupAverage.answer?, GroupAverage.recognize?, ungrouped]
  have others : firstAnswer? query store [Adjacency.shape, DateRange.shape, Threshold.shape,
      GroupAverage.shape] = .ok none := by
    rw [firstAnswer?_of_passes (apart Adjacency.counts (by decide)),
      firstAnswer?_of_passes (apart DateRange.counts (by decide)),
      firstAnswer?_of_passes (apart Threshold.counts (by decide)), firstAnswer?_of_passes grouped]
    rfl
  rw [builtInShapes, firstAnswer?, others]
  have asked : JoinSort.shape.answer? query store = JoinSort.answer? query store := rfl
  rw [asked]
  cases JoinSort.answer? query store with
  | error fault => rfl
  | ok answer => cases answer <;> rfl

theorem read_ofStore {text : String} (read : Query.ofText? text = .ok query) :
    (ofStore store).read text =
      (firstAnswer? query store builtInShapes).map (·.getD (Scan.rows store text)) := by
  unfold Engine.read
  rw [read]
  change (firstAnswer? query store builtInShapes >>= _) = _
  cases firstAnswer? query store builtInShapes <;> rfl

/-- Two texts that are alike are answered alike if their queries are. -/
theorem execute_eq_of_alike {text text' : String} {query' : Query} (alike : TextsAlike text text')
    (read : Query.ofText? text = .ok query) (read' : Query.ofText? text' = .ok query')
    (same : firstAnswer? query store builtInShapes = firstAnswer? query' store builtInShapes)
    (newId : String) (parameters : List Value) :
    (ofStore store).execute newId text parameters =
      (ofStore store).execute newId text' parameters := by
  have rows : (ofStore store).read text = (ofStore store).read text' := by
    rw [read_ofStore read, read_ofStore read', same, Scan.rows, Scan.rows, alike.scanned]
  rw [execute, execute, alike.kind, rows]

end Engine

/-! ## Texts -/

open Sql in
/-- `text` orders by an alias that the select list gives to an expression, `text'` by that expression,
and in all else the two say the same. -/
structure SpelledByAlias (text text' : String) (label : Name) (column : Column) : Prop where
  spelled : ∃ q select c nulls, q.body = .select select ∧ .expr c (some label) ∈ select.items ∧
    c.column? = .ok column ∧ q.orderBy = [⟨.name label, some true, nulls⟩] ∧
    statements? text = some [.query q] ∧
    statements? text' = some [.query { q with orderBy := [⟨c, some true, nulls⟩] }]
  bare : label.quote = none

namespace Sql

/-- An expression that is a column is an item of that column. -/
theorem Expr.item?_of_column {c : Expr} {column : Column} (named : c.column? = .ok column)
    (label : Option String) : c.item? label = .ok (.column column label) := by
  cases c with
  | call => cases named
  | _ => simp [Expr.item?, named, bind, Except.bind, pure, Except.pure]

end Sql

namespace SpelledByAlias

variable {text text' : String} {label : Sql.Name} {column : Column} {query : Query}
  (spelled : SpelledByAlias text text' label column) (read : Query.ofText? text = .ok query)
include spelled read

theorem orderBy : query.orderBy = [⟨⟨none, Text.lowercase label.text⟩, true⟩] := by
  obtain ⟨⟨q, _, _, nulls, _, _, _, orderBy, told, _⟩, bare⟩ := spelled
  obtain ⟨_, told', parsed⟩ := Query.ofText?_eq_ok_iff.mp read
  cases told.symm.trans told'
  obtain ⟨_, parts⟩ := Sql.QueryText.query?_eq_ok_iff.mp parsed
  have keys := parts.orderBy
  have byName : label.column = Text.lowercase label.text := by simp [Sql.Name.column, bare]
  rw [orderBy] at keys
  rw [← byName]
  exact (Except.ok.inj keys).symm

theorem listed : .column column (some label.text) ∈ query.items := by
  obtain ⟨⟨q, select, c, _, body, item, named, _, told, _⟩, _⟩ := spelled
  obtain ⟨_, told', parsed⟩ := Query.ofText?_eq_ok_iff.mp read
  cases told.symm.trans told'
  obtain ⟨pairs, terms, items, each⟩ :=
    exists_pairs_of_mapM (Sql.QueryText.reads_of_query? body parsed).items
  rw [← terms] at item
  obtain ⟨⟨term, made⟩, member, rfl⟩ := List.mem_map.mp item
  have same : made = .column column (some label.text) :=
    Except.ok.inj ((each _ member).symm.trans (Sql.Expr.item?_of_column named _))
  rw [← items, ← same]
  exact List.mem_map_of_mem member

theorem ofText?_orderedBy : Query.ofText? text' = .ok (query.orderedBy column) := by
  obtain ⟨⟨q, _, c, nulls, _, _, named, _, told, told₂⟩, _⟩ := spelled
  obtain ⟨_, told', parsed⟩ := Query.ofText?_eq_ok_iff.mp read
  cases told.symm.trans told'
  obtain ⟨select, parts⟩ := Sql.QueryText.query?_eq_ok_iff.mp parsed
  refine Query.ofText?_eq_ok_iff.mpr ⟨_, told₂, Sql.QueryText.query?_eq_ok_iff.mpr ⟨select, ?_⟩⟩
  have key : (Sql.OrderTerm.mk c (some true) nulls).sortKey? = .ok ⟨column, true⟩ := by
    simp [Sql.OrderTerm.sortKey?, named, bind, Except.bind, pure, Except.pure]
  have keys : [Sql.OrderTerm.mk c (some true) nulls].mapM Sql.OrderTerm.sortKey? =
      .ok [⟨column, true⟩] := by
    simp [key, bind, Except.bind, pure, Except.pure]
  exact { parts with orderBy := keys }

end SpelledByAlias

/-- A key join that is ordered by an alias, which is unique among the outputs and no field, against the
same one ordered by what the alias stands for. If the alias is in lower case, the two are answered alike
unless some tuple lacks the column and an output of its name is found in its place. If it has capitals,
the ordering in lower case is not found at all, and the statement is left to a scan. -/
theorem Engine.ordered_by_alias {text text' : String} {label : Sql.Name} {column : Column}
    {query : Query} {store : Store} (spelled : SpelledByAlias text text' label column)
    (read : Query.ofText? text = .ok query) (recognized : (JoinSort.recognize? query).isSome)
    (unique : ∀ item ∈ query.items, item.outputName? = some label.text →
      item = .column column (some label.text))
    (fresh : query.Fresh store label.text) :
    Query.ofText? text' = .ok (query.orderedBy column) ∧
    (Text.lowercase label.text = label.text →
      (JoinSort.answer? query store = JoinSort.answer? (query.orderedBy column) store ↔
        ¬ JoinSort.ByOutput query store column) ∧
      (¬ JoinSort.ByOutput query store column → TextsAlike text text' → ∀ newId parameters,
        (ofStore store).execute newId text parameters =
          (ofStore store).execute newId text' parameters)) ∧
    (Text.lowercase label.text ≠ label.text → query.Fresh store (Text.lowercase label.text) →
      (∀ item ∈ query.items, item.outputName? ≠ some (Text.lowercase label.text)) →
      ∀ tuples, query.tuples? store = some tuples → tuples ≠ [] →
        JoinSort.answer? query store = .ok none ∧
          (ofStore store).read text = .ok (Scan.rows store text)) ∧
    ∀ front name, Scan.Settles front name → front <+: text.toList → front <+: text'.toList →
      TextsAlike text text' := by
  obtain ⟨order, recognized⟩ := Option.isSome_iff_exists.mp recognized
  have read' := spelled.ofText?_orderedBy read
  have byAlias : query = query.orderedBy ⟨none, Text.lowercase label.text⟩ := by
    rw [Query.orderedBy, ← spelled.orderBy read]
  have joinSort : firstAnswer? query store builtInShapes = JoinSort.answer? query store :=
    firstAnswer?_of_joinSort recognized store
  have joinSort' : firstAnswer? (query.orderedBy column) store builtInShapes =
      JoinSort.answer? (query.orderedBy column) store :=
    firstAnswer?_of_joinSort (JoinSort.recognize?_orderedBy recognized column) store
  refine ⟨read', fun lower => ?_, fun _ freshLower absent tuples bound joined => ?_,
    fun front name settles begins begins' => .of_front read read' settles begins begins'⟩
  · have decided : JoinSort.answer? query store =
        JoinSort.answer? (query.orderedBy column) store ↔ ¬ JoinSort.ByOutput query store column := by
      have iff := JoinSort.answer?_alias_iff recognized fresh (spelled.listed read) unique
      rwa [← lower, ← byAlias] at iff
    refine ⟨decided, fun direct alike => execute_eq_of_alike alike read read' ?_⟩
    rw [joinSort, joinSort', decided.mpr direct]
  · have left : JoinSort.answer? query store = .ok none := by
      rw [byAlias]
      exact JoinSort.answer?_unknown recognized bound joined freshLower absent
    refine ⟨left, ?_⟩
    rw [read_ofStore read, joinSort, left]
    rfl

/-- A key join with the salary under an alias, and the ordering of that join. -/
def payrollText (label order : String) : String :=
  "SELECT salary AS " ++ label ++ " FROM employees JOIN departments d ON department_id = d.id" ++
    " ORDER BY " ++ order ++ " DESC"

/-- What `payrollText` is read as. -/
def payroll (label order : String) : Sql.QueryText where
  commonTables := none
  body := .select ⟨none, [.expr (.name ⟨"salary", none⟩) (some ⟨label, none⟩)],
    [⟨.table [⟨"employees", none⟩] "" none "",
      [⟨.inner, .table [⟨"departments", none⟩] "" (some ⟨"d", none⟩) "",
        .condition (.binary (.name ⟨"department_id", none⟩) (.compare .eq)
          (.path [⟨"d", none⟩, ⟨"id", none⟩])), false, ""⟩]⟩],
    none, .columns [], none, {}⟩
  orderBy := [⟨.name ⟨order, none⟩, some true, ""⟩]
  limit := none
  offset := none
  after := ""

/-- The query of `payrollText`, ordered by the alias. -/
def payrollQuery (label : String) : Query where
  distinct := false
  items := [.column ⟨none, "salary"⟩ (some label)]
  sources := [⟨"employees", none, .base, []⟩, ⟨"departments", some "d", .inner,
    [⟨.column ⟨none, "department_id"⟩, .eq, .column ⟨some "d", "id"⟩⟩]⟩]
  filter := []
  groupBy := []
  orderBy := [⟨⟨none, Text.lowercase label⟩, true⟩]
  limit := none

/-- Two employees of one department. -/
def Sample.wages : Store := ⟨[
  relation "departments" ["id", "name"] [[int 1, .text "Sales"]],
  relation "employees" ["id", "name", "department_id", "salary"] [
    [int 1, .text "Alice", int 1, int 100], [int 2, .text "Bob", int 1, int 200]]]⟩

theorem payroll_spelled : ∀ label ∈ ["pay", "Pay"], SpelledByAlias (payrollText label label)
    (payrollText label "salary") ⟨label, none⟩ ⟨none, "salary"⟩ := by
  have spelled (label : String)
      (reads : Sql.statements? (payrollText label label) = some [.query (payroll label label)])
      (reads' : Sql.statements? (payrollText label "salary") =
        some [.query (payroll label "salary")]) : SpelledByAlias (payrollText label label)
        (payrollText label "salary") ⟨label, none⟩ ⟨none, "salary"⟩ :=
    ⟨⟨payroll label label, _, _, "", rfl, List.mem_singleton_self _, rfl, rfl, reads, reads'⟩, rfl⟩
  simp only [List.forall_mem_cons, List.not_mem_nil, false_implies, implies_true, and_true]
  exact ⟨spelled "pay" (by rfl) (by rfl), spelled "Pay" (by rfl) (by rfl)⟩

theorem payroll_fresh : ∀ name ∈ ["pay", "Pay"], ∀ label,
    (payrollQuery label).Fresh Sample.wages name := by
  have absent : ∀ name ∈ ["pay", "Pay"], (payrollQuery "").Fresh Sample.wages name := by
    unfold Query.Fresh
    decide +kernel
  exact fun name listed _ => absent name listed

namespace Engine

/-- With `pay` as the alias both orderings are one, with `Pay` the relation of employees is scanned. -/
theorem ordered_by_alias_payroll :
    (∀ newId parameters,
      (ofStore Sample.wages).execute newId (payrollText "pay" "pay") parameters =
        (ofStore Sample.wages).execute newId (payrollText "pay" "salary") parameters) ∧
    (ofStore Sample.wages).read (payrollText "Pay" "Pay") =
      .ok (Scan.rows Sample.wages (payrollText "Pay" "Pay")) := by
  obtain ⟨_, lower, _, alike⟩ := ordered_by_alias (payroll_spelled "pay" (by decide))
    (ok_of_toOption (a := payrollQuery "pay") (by decide +kernel)) (by decide +kernel)
    (by decide +kernel) (payroll_fresh "pay" (by decide) "pay")
  obtain ⟨_, _, capital, _⟩ := ordered_by_alias (payroll_spelled "Pay" (by decide))
    (ok_of_toOption (a := payrollQuery "Pay") (by decide +kernel)) (by decide +kernel)
    (by decide +kernel) (payroll_fresh "Pay" (by decide) "Pay")
  constructor
  · have direct : ¬ JoinSort.ByOutput (payrollQuery "pay") Sample.wages ⟨none, "salary"⟩ := by
      rintro ⟨tuples, bound, ⟨tuple, member, missing⟩, _⟩
      have held : ((payrollQuery "pay").tuples? Sample.wages).all
          (·.all fun tuple => (tuple.resolve? ⟨none, "salary"⟩).isSome) = true := by decide +kernel
      rw [bound, Option.all_some, List.all_eq_true] at held
      have found := held tuple member
      rw [missing] at found
      cases found
    have common := alike "SELECT salary AS pay FROM employees ".toList "employees".toList
      ⟨by decide +kernel, by decide +kernel⟩ (by decide +kernel) (by decide +kernel)
    exact (lower (by decide +kernel)).2 direct common
  · have lowered : Text.lowercase "Pay" = "pay" := by decide +kernel
    obtain ⟨tuples, bound⟩ : ∃ tuples, (payrollQuery "Pay").tuples? Sample.wages = some tuples :=
      Option.isSome_iff_exists.mp (by decide +kernel)
    have joined : tuples ≠ [] := by
      have some_tuple : ((payrollQuery "Pay").tuples? Sample.wages).all (!·.isEmpty) = true := by
        decide +kernel
      simpa [bound] using some_tuple
    rw [lowered] at capital
    exact (capital (by decide) (payroll_fresh "pay" (by decide) "Pay") (by decide) tuples bound
      joined).2

end Engine

/-- The row of a salary under an alias with a capital. -/
def Sample.paid (salary : Nat) : Row := ⟨[("Pay", int salary)], by simp⟩

set_option maxRecDepth 8000 in
/-- Ordering by `Pay` gives the employees as they are stored, ordering by their salary the salaries. -/
theorem Engine.alias_with_capitals :
    SpelledByAlias (payrollText "Pay" "Pay") (payrollText "Pay" "salary") ⟨"Pay", none⟩
      ⟨none, "salary"⟩ ∧
    Query.ofText? (payrollText "Pay" "Pay") = .ok (payrollQuery "Pay") ∧
    (JoinSort.recognize? (payrollQuery "Pay")).isSome = true ∧
    (payrollQuery "Pay").items.filterMap SelectItem.outputName? = ["Pay"] ∧
    (payrollQuery "Pay").Fresh Sample.wages "Pay" ∧
    ∃ stored, Sample.wages.rows? "employees" = some stored ∧
      stored ≠ [Sample.paid 200, Sample.paid 100] ∧
      ∀ newId parameters,
        (ofStore Sample.wages).execute newId (payrollText "Pay" "Pay") parameters =
          .ok (.rows stored) ∧
        (ofStore Sample.wages).execute newId (payrollText "Pay" "salary") parameters =
          .ok (.rows [Sample.paid 200, Sample.paid 100]) := by
  have spelled := payroll_spelled "Pay" (by decide)
  have read : Query.ofText? (payrollText "Pay" "Pay") = .ok (payrollQuery "Pay") :=
    ok_of_toOption (by decide +kernel)
  obtain ⟨order, recognized⟩ : ∃ order, JoinSort.recognize? (payrollQuery "Pay") = some order :=
    Option.isSome_iff_exists.mp (by decide +kernel)
  obtain ⟨stored, found⟩ : ∃ stored, Sample.wages.rows? "employees" = some stored :=
    Option.isSome_iff_exists.mp (by decide +kernel)
  have other : stored ≠ [Sample.paid 200, Sample.paid 100] := by
    have differs : (Sample.wages.rows? "employees").all (· ≠ [Sample.paid 200, Sample.paid 100]) := by
      decide +kernel
    simpa [found] using differs
  refine ⟨spelled, read, by rw [recognized]; rfl, by decide, payroll_fresh "Pay" (by decide) "Pay",
    stored, found, other, fun newId parameters => ⟨?_, ?_⟩⟩
  · have kind : StatementKind.ofText (payrollText "Pay" "Pay") = .read := by decide +kernel
    have scanned : Scan.relation? (payrollText "Pay" "Pay") = some "employees" := by decide +kernel
    have left : JoinSort.answer? (payrollQuery "Pay") Sample.wages = .ok none :=
      ok_of_toOption (by decide +kernel)
    rw [execute, kind, read_ofStore read, firstAnswer?_of_joinSort recognized, left, Scan.rows,
      scanned]
    simp [Except.map, found]
  · have kind : StatementKind.ofText (payrollText "Pay" "salary") = .read := by decide +kernel
    have descends : (Sample.int 200).sortOrder (Sample.int 100) = .gt := by
      decide +kernel
    have sorted : [Sample.paid 200, Sample.paid 100] = sortDescending
        [(Sample.int 100, Sample.paid 100), (Sample.int 200, Sample.paid 200)] := by
      simp [sortDescending, List.mergeSort, List.MergeSort.Internal.splitInTwo, descends]
    have answered : JoinSort.answer? ((payrollQuery "Pay").orderedBy ⟨none, "salary"⟩)
        Sample.wages = .ok (some [Sample.paid 200, Sample.paid 100]) := by
      rw [sorted]
      rfl
    rw [execute, kind, read_ofStore (spelled.ofText?_orderedBy read),
      firstAnswer?_of_joinSort (JoinSort.recognize?_orderedBy recognized _), answered]
    rfl

end QueryShapes

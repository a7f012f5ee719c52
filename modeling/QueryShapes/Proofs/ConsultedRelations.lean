import QueryShapes.Proofs.ShapePriority
import QueryShapes.Proofs.WindowConditions

/-!
# The relations that an answer depends on

- `Store.AgreeAt`: two stores hold the same rows under a name, or both have no relation of it.
- `Shape.ReadsSources`: a shape that looks at nothing of a store but the relations of the sources.
- `builtInShapes_readSources`: all built-in shapes are of that kind.
- `Consults`: the names under which a statement looks for relations.
- `execute_congr`: stores that agree at those names answer the statement alike, unless it asks for all
  relations.
-/

namespace QueryShapes

/-! ## Stores that agree -/

namespace Store

/-- The same rows are found under the name in both stores, or none in either. -/
def AgreeAt (store store' : Store) (name : String) : Prop := store.rows? name = store'.rows? name

theorem name_of_relation? {store : Store} {name : String} {relation : Relation}
    (found : store.relation? name = some relation) : relation.name = name := by
  simpa using List.find?_some found

/-- A relation is known by its name and its rows. -/
theorem AgreeAt.relation?_eq {store store' : Store} {name : String} (agree : AgreeAt store store' name) :
    store.relation? name = store'.relation? name := by
  unfold AgreeAt rows? at agree
  cases here : store.relation? name with
  | none =>
    cases there : store'.relation? name with
    | none => rfl
    | some relation' => simp [here, there] at agree
  | some relation =>
    cases there : store'.relation? name with
    | none => simp [here, there] at agree
    | some relation' =>
      have sameName := (name_of_relation? here).trans (name_of_relation? there).symm
      have sameRows : relation.rows = relation'.rows := by simpa [here, there] using agree
      cases relation
      cases relation'
      cases sameName
      cases sameRows
      rfl

end Store

/-! ## Shapes -/

variable {query : Query} {store store' : Store}

/-- The relations of all sources are the same in both stores. -/
def Query.SourcesAgree (query : Query) (store store' : Store) : Prop :=
  ∀ source ∈ query.sources, store.relation? source.table = store'.relation? source.table

theorem Query.foldlM_joinSource?_congr {rest : List Source}
    (agree : ∀ source ∈ rest, store.relation? source.table = store'.relation? source.table)
    (tuples : List Tuple) :
    rest.foldlM (joinSource? store) tuples = rest.foldlM (joinSource? store') tuples := by
  induction rest generalizing tuples with
  | nil => rfl
  | cons source rest ih =>
    have here : joinSource? store tuples source = joinSource? store' tuples source := by
      rw [joinSource?, joinSource?, agree source List.mem_cons_self]
    rw [List.foldlM_cons, List.foldlM_cons, here]
    congr 1
    funext joined
    exact ih (fun s hs => agree s (List.mem_cons_of_mem _ hs)) joined

theorem Query.tuples?_congr (agree : query.SourcesAgree store store') :
    query.tuples? store = query.tuples? store' := by
  unfold SourcesAgree at agree
  unfold tuples?
  cases sources : query.sources with
  | nil => rfl
  | cons first rest =>
    rw [sources] at agree
    have joined := foldlM_joinSource?_congr fun s hs => agree s (List.mem_cons_of_mem _ hs)
    simp only [agree first List.mem_cons_self, joined]

/-- What the shape says of a query depends on the relations of the query's sources only. -/
def Shape.ReadsSources (shape : Shape) : Prop :=
  ∀ query store store', Query.SourcesAgree query store store' →
    shape.answer? query store = shape.answer? query store'

theorem JoinSort.readsSources : shape.ReadsSources := by
  intro query store store' agree
  simp only [shape, answer?, Query.tuples?_congr agree]

theorem DateRange.readsSources : shape.ReadsSources := by
  intro query store store' agree
  simp only [shape, answer?, Query.tuples?_congr agree]

theorem Threshold.readsSources : shape.ReadsSources := by
  intro query store store' agree
  simp only [shape, answer?, Query.tuples?_congr agree]

theorem Adjacency.readsSources : shape.ReadsSources := by
  intro query store store' agree
  simp only [shape, answer?]
  cases recognized : recognize? query with
  | none => rfl
  | some found =>
    obtain ⟨table, field, output⟩ := found
    obtain ⟨_, _, _, _, _, three, tables⟩ := recognize?_eq_some recognized
    obtain ⟨source, hsource⟩ := List.exists_mem_of_length_pos (by omega : 0 < query.sources.length)
    have same := agree source hsource
    rw [tables source hsource] at same
    simp only [same]

theorem GroupAverage.readsSources : shape.ReadsSources := by
  intro query store store' agree
  simp only [shape, answer?]
  cases recognized : recognize? query with
  | none => rfl
  | some found =>
    obtain ⟨join, mean⟩ := found
    obtain ⟨_, _, _, _, reads⟩ := KeyJoin.ofQuery?_reads (recognize?_eq_some recognized).1
    have parents := agree join.parent (Query.mem_sources_of_sourceOf reads.parent)
    simp only [parents, Query.tuples?_congr agree]

namespace Engine

theorem builtInShapes_readSources : ∀ shape ∈ builtInShapes, shape.ReadsSources := by
  refine forall_builtInShapes_iff.mpr ⟨?_, ?_, ?_, ?_, ?_⟩
  · exact JoinSort.readsSources
  · exact Adjacency.readsSources
  · exact DateRange.readsSources
  · exact Threshold.readsSources
  · exact GroupAverage.readsSources

theorem firstAnswer?_congr {shapes : List Shape} (reads : ∀ shape ∈ shapes, shape.ReadsSources)
    (agree : query.SourcesAgree store store') :
    firstAnswer? query store shapes = firstAnswer? query store' shapes := by
  induction shapes with
  | nil => rfl
  | cons shape rest ih =>
    have here := reads shape List.mem_cons_self query store store' agree
    have later := ih fun s hs => reads s (List.mem_cons_of_mem _ hs)
    rw [firstAnswer?, firstAnswer?, here, later]

/-! ## Statements -/

/-- The statement looks for a relation of that name: it inspects it, or it is a read whose query has it
as a source or whose text names it to the scan. -/
inductive Consults (text : String) : String → Prop
  | inspected {name : String} : StatementKind.ofText text = .description name → Consults text name
  | source {query : Query} {source : Source} : StatementKind.ofText text = .read →
    Query.ofText? text = .ok query → source ∈ query.sources → Consults text source.table
  | scanned {name : String} : StatementKind.ofText text = .read →
    Scan.relation? text = some name → Consults text name

section
variable {text : String} (agree : ∀ name, Consults text name → store.AgreeAt store' name)
include agree

theorem rows_congr (kind : StatementKind.ofText text = .read) :
    Scan.rows store text = Scan.rows store' text := by
  unfold Scan.rows
  cases named : Scan.relation? text with
  | none => rfl
  | some name => exact congrArg (·.getD []) (agree name (.scanned kind named))

theorem read_congr (kind : StatementKind.ofText text = .read) :
    (ofStore store).read text = (ofStore store').read text := by
  have scanned := rows_congr agree kind
  unfold read
  cases parsed : Query.ofText? text with
  | error rejection => simp only [ofStore, scanned]
  | ok query =>
    have sources : query.SourcesAgree store store' := fun source hsource =>
      (agree _ (.source kind parsed hsource)).relation?_eq
    have answered := firstAnswer?_congr builtInShapes_readSources sources
    simp only [ofStore, scanned, answered]

/-- Two stores that agree at all names under which a statement looks for relations answer it alike, with
the same rows or the same fault. Only a listing depends on more. -/
theorem execute_congr (kind : StatementKind.ofText text ≠ .listing) (newId : String)
    (parameters : List Value) :
    (ofStore store).execute newId text parameters =
      (ofStore store').execute newId text parameters := by
  unfold execute
  cases here : StatementKind.ofText text with
  | listing => exact absurd here kind
  | liveness => rfl
  | mutation => rfl
  | description name =>
    have same := (agree name (.inspected here)).relation?_eq
    simp only [ofStore, Store.schemaOf, same]
  | read => exact congrArg (Except.map Envelope.rows) (read_congr agree here)

end

end Engine

/-- A part of the sample, in another order. -/
def Sample.staff : Store := ⟨[employees, departments]⟩

def Sample.salaries : String :=
  "SELECT e.name, d.name AS department FROM employees e
    JOIN departments d ON e.department_id = d.id ORDER BY e.salary DESC"

open Engine in
theorem Engine.execute_congr_salaries :
    (∀ name, Consults Sample.salaries name → Sample.store.AgreeAt Sample.staff name) ∧
    StatementKind.ofText Sample.salaries ≠ .listing ∧
    ∀ newId, (ofStore Sample.store).execute newId Sample.salaries [] =
      (ofStore Sample.staff).execute newId Sample.salaries [] := by
  have read : StatementKind.ofText Sample.salaries = .read := by decide +kernel
  have tables : (Query.ofText? Sample.salaries).toOption.map (·.sources.map Source.table) =
      some ["employees", "departments"] := by decide +kernel
  have scanned : Scan.relation? Sample.salaries = some "employees" := by decide +kernel
  have held : ∀ name ∈ ["employees", "departments"], Sample.store.AgreeAt Sample.staff name := by
    simp only [List.forall_mem_cons]
    exact ⟨rfl, rfl, by simp⟩
  have agree : ∀ name, Consults Sample.salaries name → Sample.store.AgreeAt Sample.staff name := by
    rintro name (inspected | ⟨_, parsed, hsource⟩ | ⟨_, named⟩)
    · cases inspected.symm.trans read
    · rw [parsed] at tables
      exact held _ (Option.some_inj.mp tables ▸ List.mem_map_of_mem hsource)
    · exact held name (by simp [Option.some_inj.mp (named.symm.trans scanned)])
  have kind : StatementKind.ofText Sample.salaries ≠ .listing := by simp [read]
  exact ⟨agree, kind, fun newId => execute_congr agree kind newId []⟩

end QueryShapes

import Mathlib.SetTheory.Cardinal.Arithmetic
import QueryShapes.Evaluation.Aggregate

/-!
# Renaming bindings

- `Query.rename`: the query with every source bound under another name and every qualifier renamed in
  the same way.
- `Query.bindings`: all names that are renamed.
- `exists_injective_rename`: only what becomes of these names matters, so a renaming that keeps them
  apart may as well keep all names apart.
- `tuples?_rename`: then the joined tuples are the same up to the names of their rows.
-/

namespace QueryShapes

/-! ## Renamed query trees -/

def Column.rename (f : String → String) (column : Column) : Column :=
  { column with qualifier := column.qualifier.map f }

def Operand.rename (f : String → String) : Operand → Operand
  | .column c => .column (c.rename f)
  | .literal v => .literal v
  | .shifted c offset => .shifted (c.rename f) offset

def Predicate.rename (f : String → String) (p : Predicate) : Predicate :=
  ⟨p.left.rename f, p.op, p.right.rename f⟩

/-- The source reads the same relation, which is labelled with the renamed binding. -/
def Source.rename (f : String → String) (source : Source) : Source :=
  { source with
    label := some (f source.binding)
    conditions := source.conditions.map (Predicate.rename f) }

def Aggregate.rename (f : String → String) (call : Aggregate) : Aggregate :=
  { call with argument := call.argument.map (Column.rename f) }

def SelectItem.rename (f : String → String) : SelectItem → SelectItem
  | .wildcard qualifier => .wildcard (qualifier.map f)
  | .column c label => .column (c.rename f) label
  | .aggregate call label => .aggregate (call.rename f) label

def SortKey.rename (f : String → String) (key : SortKey) : SortKey :=
  { key with target := key.target.rename f }

def Query.rename (f : String → String) (query : Query) : Query :=
  { query with
    items := query.items.map (SelectItem.rename f)
    sources := query.sources.map (Source.rename f)
    filter := query.filter.map (Predicate.rename f)
    groupBy := query.groupBy.map (Column.rename f)
    orderBy := query.orderBy.map (SortKey.rename f) }

/-! ## The names that are renamed -/

def Column.bindings (column : Column) : List String := column.qualifier.toList

def Operand.bindings : Operand → List String
  | .column c => c.bindings
  | .literal _ => []
  | .shifted c _ => c.bindings

def Predicate.bindings (p : Predicate) : List String := p.left.bindings ++ p.right.bindings

def Source.bindings (source : Source) : List String :=
  source.binding :: source.conditions.flatMap Predicate.bindings

def SelectItem.bindings : SelectItem → List String
  | .wildcard qualifier => qualifier.toList
  | .column c _ => c.bindings
  | .aggregate call _ => call.argument.toList.flatMap Column.bindings

/-- The names that sources are bound to, and all qualifiers. -/
def Query.bindings (query : Query) : List String :=
  query.items.flatMap SelectItem.bindings ++ query.sources.flatMap Source.bindings ++
    query.filter.flatMap Predicate.bindings ++ query.groupBy.flatMap Column.bindings ++
    query.orderBy.flatMap fun key => key.target.bindings

section
variable {f g : String → String}

theorem Column.rename_congr {column : Column} (h : ∀ a ∈ column.bindings, f a = g a) :
    column.rename f = column.rename g := by
  have qualifier : column.qualifier.map f = column.qualifier.map g :=
    Option.map_congr fun a ha => h a (Option.mem_toList.mpr ha)
  rw [rename, rename, qualifier]

theorem Operand.rename_congr {operand : Operand} (h : ∀ a ∈ operand.bindings, f a = g a) :
    operand.rename f = operand.rename g := by
  cases operand with
  | column c => exact congrArg column (Column.rename_congr h)
  | literal v => rfl
  | shifted c offset => exact congrArg (shifted · offset) (Column.rename_congr h)

theorem Predicate.rename_congr {p : Predicate} (h : ∀ a ∈ p.bindings, f a = g a) :
    p.rename f = p.rename g := by
  have left := Operand.rename_congr fun a ha => h a (List.mem_append_left _ ha)
  have right := Operand.rename_congr fun a ha => h a (List.mem_append_right _ ha)
  rw [rename, rename, left, right]

/-- Items are renamed alike when the names in each of them are. -/
theorem map_rename_congr {α : Type} {rename : (String → String) → α → α} {names : α → List String}
    (each : ∀ a, (∀ name ∈ names a, f name = g name) → rename f a = rename g a) {items : List α}
    (h : ∀ name ∈ items.flatMap names, f name = g name) :
    items.map (rename f) = items.map (rename g) :=
  List.map_congr_left fun a ha => each a fun name hname =>
    h name (List.mem_flatMap.mpr ⟨a, ha, hname⟩)

theorem Source.rename_congr {source : Source} (h : ∀ a ∈ source.bindings, f a = g a) :
    source.rename f = source.rename g := by
  have binding := h source.binding List.mem_cons_self
  have conditions := map_rename_congr (fun _ => Predicate.rename_congr)
    fun a ha => h a (List.mem_cons_of_mem _ ha)
  rw [rename, rename, binding, conditions]

theorem SelectItem.rename_congr {item : SelectItem} (h : ∀ a ∈ item.bindings, f a = g a) :
    item.rename f = item.rename g := by
  cases item with
  | wildcard qualifier =>
    exact congrArg wildcard (Option.map_congr fun a ha => h a (Option.mem_toList.mpr ha))
  | column c label => exact congrArg (column · label) (Column.rename_congr h)
  | aggregate call label =>
    have argument : call.argument.map (Column.rename f) = call.argument.map (Column.rename g) :=
      Option.map_congr fun c hc => Column.rename_congr fun a ha =>
        h a (List.mem_flatMap.mpr ⟨c, Option.mem_toList.mpr hc, ha⟩)
    rw [rename, rename, Aggregate.rename, Aggregate.rename, argument]

theorem Query.rename_congr {query : Query} (h : ∀ a ∈ query.bindings, f a = g a) :
    query.rename f = query.rename g := by
  simp only [bindings, List.mem_append, or_imp, forall_and] at h
  obtain ⟨⟨⟨⟨items, sources⟩, filter⟩, groupBy⟩, orderBy⟩ := h
  have keys : query.orderBy.map (SortKey.rename f) = query.orderBy.map (SortKey.rename g) :=
    map_rename_congr (fun key same => by rw [SortKey.rename, Column.rename_congr same]; rfl) orderBy
  rw [rename, rename, map_rename_congr (fun _ => SelectItem.rename_congr) items,
    map_rename_congr (fun _ => Source.rename_congr) sources,
    map_rename_congr (fun _ => Predicate.rename_congr) filter,
    map_rename_congr (fun _ => Column.rename_congr) groupBy, keys]

/-- A renaming that keeps the query's names apart does to the query what some renaming does that keeps
all names apart. -/
theorem Query.exists_injective_rename (query : Query)
    (apart : ∀ a ∈ query.bindings, ∀ b ∈ query.bindings, f a = f b → a = b) :
    ∃ g : String → String, Function.Injective g ∧ query.rename f = query.rename g := by
  let names : Set String := { a | a ∈ query.bindings }
  have finite : names.Finite := List.finite_toSet query.bindings
  let embedding : names ↪ String :=
    ⟨fun a => f a, fun a b same => Subtype.ext (apart a a.2 b b.2 same)⟩
  have few : Cardinal.mk names < Cardinal.mk String :=
    (Cardinal.lt_aleph0_iff_set_finite.mpr finite).trans_le (Cardinal.aleph0_le_mk String)
  obtain ⟨g, agrees⟩ := Cardinal.extend_function_of_lt embedding few ⟨Equiv.refl String⟩
  exact ⟨g, g.injective, rename_congr fun a ha => (agrees ⟨a, ha⟩).symm⟩

end

/-! ## Evaluation of renamed queries -/

/-- The tuple with its rows under other names. -/
def Tuple.rename (f : String → String) (t : Tuple) : Tuple := ⟨t.entries.map (Prod.map f id)⟩

section
variable {f : String → String} (injective : Function.Injective f)

namespace Tuple

theorem rename_extend (t : Tuple) (binding : String) (row : Row) :
    (t.extend binding row).rename f = (t.rename f).extend (f binding) row := by
  simp [rename, extend]

include injective

theorem row?_rename (t : Tuple) (binding : String) :
    (t.rename f).row? (f binding) = t.row? binding := by
  have named : (fun entry : String × Row => decide (entry.1 = f binding)) ∘ Prod.map f id =
      fun entry => decide (entry.1 = binding) :=
    funext fun _ => decide_eq_decide.mpr injective.eq_iff
  simp only [row?, rename, List.find?_map, Option.map_map, named]
  rfl

theorem resolve?_rename (t : Tuple) (column : Column) :
    (t.rename f).resolve? (column.rename f) = t.resolve? column := by
  obtain ⟨qualifier, name⟩ := column
  cases qualifier with
  | none => simp only [resolve?, rename, Column.rename, Option.map_none, List.findSome?_map]; rfl
  | some qualifier =>
    simp only [resolve?, Column.rename, Option.map_some, row?_rename injective]

theorem evaluate?_rename (t : Tuple) (operand : Operand) :
    (t.rename f).evaluate? (operand.rename f) = t.evaluate? operand := by
  cases operand with
  | column c => exact resolve?_rename injective t c
  | literal v => rfl
  | shifted c offset => simp only [Operand.rename, evaluate?, resolve?_rename injective]

theorem satisfies_rename (t : Tuple) (p : Predicate) :
    (t.rename f).satisfies (p.rename f) = t.satisfies p := by
  simp only [satisfies, Predicate.rename, evaluate?_rename injective]

theorem satisfiesAll_rename (ps : List Predicate) (t : Tuple) :
    satisfiesAll (ps.map (Predicate.rename f)) (t.rename f) = satisfiesAll ps t := by
  simp only [satisfiesAll, List.all_map, Function.comp_def, satisfies_rename injective]

theorem filter_rename (ps : List Predicate) (tuples : List Tuple) :
    (tuples.map (rename f)).filter (satisfiesAll (ps.map (Predicate.rename f))) =
      (tuples.filter (satisfiesAll ps)).map (rename f) := by
  simp only [List.filter_map, Function.comp_def, satisfiesAll_rename injective]

theorem contribution_rename (t : Tuple) (item : SelectItem) :
    (t.rename f).contribution (item.rename f) = t.contribution item := by
  cases item with
  | wildcard qualifier =>
    have kept (entry : String × Row) :
        (qualifier.map f).all (fun name => decide (name = f entry.1)) =
          qualifier.all fun name => decide (name = entry.1) := by
      cases qualifier with
      | none => rfl
      | some name => exact decide_eq_decide.mpr injective.eq_iff
    simp only [contribution, rename, SelectItem.rename, List.filter_map, List.flatMap_map,
      Function.comp_def, Prod.map_fst, Prod.map_snd, id_eq, kept]
  | column c label => simp only [contribution, SelectItem.rename, resolve?_rename injective]; rfl
  | aggregate call label => rfl

theorem project_rename (items : List SelectItem) (t : Tuple) :
    project (items.map (SelectItem.rename f)) (t.rename f) = project items t := by
  simp only [project, List.mapM_map, Function.comp_def, contribution_rename injective]

end Tuple

/-! ### Aggregates -/

namespace Aggregate

include injective

theorem values_rename (call : Aggregate) (group : List Tuple) :
    (call.rename f).values (group.map (Tuple.rename f)) = call.values group := by
  unfold values rename
  cases call.argument with
  | none => rfl
  | some column =>
    simp only [Option.map_some, List.filterMap_map, Function.comp_def,
      Tuple.resolve?_rename injective]

theorem evaluate_rename (call : Aggregate) (group : List Tuple) :
    (call.rename f).evaluate (group.map (Tuple.rename f)) = call.evaluate group := by
  have asked : (call.rename f).argument.isSome = call.argument.isSome := Option.isSome_map
  have size : (call.rename f).size (group.map (Tuple.rename f)) = call.size group := by
    rw [Aggregate.size, Aggregate.size, asked, values_rename injective, List.length_map]
  have unrounded : (call.rename f).unrounded (group.map (Tuple.rename f)) = call.unrounded group := by
    simp only [Aggregate.unrounded, values_rename injective, size]
    rfl
  rw [evaluate, evaluate, unrounded]
  rfl

end Aggregate

/-! ### Joined tuples -/

namespace Query

theorem scan_rename (relation : Relation) (binding : String) :
    scan relation (f binding) = (scan relation binding).map (Tuple.rename f) := by
  simp only [scan, List.map_map]
  rfl

include injective

theorem join_rename (tuples : List Tuple) (relation : Relation) (binding : String)
    (conditions : List Predicate) :
    join (tuples.map (Tuple.rename f)) relation (f binding) (conditions.map (Predicate.rename f)) =
      (join tuples relation binding conditions).map (Tuple.rename f) := by
  simp only [join, ← Tuple.filter_rename injective, List.flatMap_map, List.map_flatMap, List.map_map]
  congr 2
  funext t
  congr 1
  funext row
  exact (Tuple.rename_extend t binding row).symm

theorem joinSource?_rename (store : Store) (tuples : List Tuple) (source : Source) :
    joinSource? store (tuples.map (Tuple.rename f)) (source.rename f) =
      (joinSource? store tuples source).map (List.map (Tuple.rename f)) := by
  unfold joinSource?
  by_cases outer : source.kind = .left
  · simp [outer, Source.rename]
  · have joined (relation : Relation) := join_rename injective tuples relation source.binding
      source.conditions
    simp only [Source.rename, outer, if_false, Option.map_map, Function.comp_def, ← joined]
    rfl

theorem foldlM_joinSource?_rename (store : Store) (sources : List Source) (tuples : List Tuple) :
    (sources.map (Source.rename f)).foldlM (joinSource? store) (tuples.map (Tuple.rename f)) =
      (sources.foldlM (joinSource? store) tuples).map (List.map (Tuple.rename f)) := by
  induction sources generalizing tuples with
  | nil => rfl
  | cons source sources ih =>
    rw [List.map_cons, List.foldlM_cons, List.foldlM_cons, joinSource?_rename injective]
    cases joinSource? store tuples source with
    | none => rfl
    | some joined => exact ih joined

/-- The joined tuples of the renamed query are the renamed ones of the query. -/
theorem tuples?_rename (query : Query) (store : Store) :
    (query.rename f).tuples? store = (query.tuples? store).map (List.map (Tuple.rename f)) := by
  simp only [tuples?, rename]
  cases query.sources with
  | nil => rfl
  | cons first rest =>
    have read : (first.rename f).table = first.table := rfl
    have bound : (first.rename f).binding = f first.binding := rfl
    simp only [List.map_cons, read, bound]
    cases store.relation? first.table with
    | none => rfl
    | some relation =>
      simp only [Option.bind_eq_bind, Option.bind_some, scan_rename,
        foldlM_joinSource?_rename injective]
      cases rest.foldlM (joinSource? store) (scan relation first.binding) with
      | none => rfl
      | some tuples => exact congrArg some (Tuple.filter_rename injective query.filter tuples)

end Query

end

end QueryShapes

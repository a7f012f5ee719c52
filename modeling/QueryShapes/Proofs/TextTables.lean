import QueryShapes.Output
import QueryShapes.Proofs.CellTexts
import QueryShapes.Proofs.FieldSources
import QueryShapes.Proofs.UniformAnswers

/-!
# Answers as tables of text

- `IsTable`: a text shows rows under a header, each value under its name.
- `render_isTable_iff`: an answer is printed as a table where its names and values are cells and every
  row lists its values in the order of the first one.
- `render_execute_isTable_iff`: which answers of an engine that concerns.
-/

namespace QueryShapes

/-! ## Tables -/

/-- The text of the value under a name. -/
def Row.cellUnder (row : Row) (name : String) : String :=
  ((row.get? name).map Value.display).getD ""

open Envelope in
/-- A line with the names of the rows, a line for each row with its values under those names, and a line
with their number. No name and no value breaks out of its place. -/
structure IsTable (rows : List Row) (header : List String) (text : String) : Prop where
  names : ∀ row ∈ rows, header.Perm row.names
  headerCells : ∀ name ∈ header, IsCell name
  cells : ∀ row ∈ rows, ∀ name ∈ header, IsCell (row.cellUnder name)
  lines : text = "\n".intercalate (tabbed header ::
    rows.map (fun row => tabbed (header.map row.cellUnder)) ++
      ["(" ++ toString rows.length ++ " rows)"])

/-- All names and values are cells. -/
def AllCells (rows : List Row) : Prop :=
  ∀ row ∈ rows, ∀ field ∈ row.fields, IsCell field.1 ∧ IsCell field.2.display

/-- Every row lists its values in the order of the header. -/
def InOrderOf (header : List String) (rows : List Row) : Prop :=
  ∀ row ∈ rows, row.values.map Value.display = header.map row.cellUnder

instance (rows : List Row) : Decidable (AllCells rows) :=
  inferInstanceAs (Decidable
    (∀ row ∈ rows, ∀ field ∈ row.fields, IsCell field.1 ∧ IsCell field.2.display))

instance (header : List String) (rows : List Row) : Decidable (InOrderOf header rows) :=
  inferInstanceAs (Decidable
    (∀ row ∈ rows, row.values.map Value.display = header.map row.cellUnder))

namespace Row

theorem cellUnder_of_mem {row : Row} {field : String × Value} (h : field ∈ row.fields) :
    row.cellUnder field.1 = field.2.display := by
  rw [cellUnder, get?, lookup_of_mem row.nodup h]
  rfl

theorem display_values (row : Row) : row.values.map Value.display = row.names.map row.cellUnder := by
  rw [values, names, List.map_map, List.map_map]
  exact List.map_congr_left fun field hfield => (cellUnder_of_mem hfield).symm

end Row

namespace Envelope

theorem tabbed_free {cells : List String} (each : ∀ cell ∈ cells, IsCell cell) :
    '\n' ∉ (tabbed cells).toList := by
  intro h
  rw [tabbed, String.toList_intercalate] at h
  obtain joint | ⟨chars, hchars, found⟩ := mem_intercalate h
  · exact absurd joint (by decide)
  · obtain ⟨cell, hcell, rfl⟩ := List.mem_map.mp hchars
    exact (each cell hcell '\n' found).2 rfl

/-- As many cells in a line, of which the ones have no tabs. -/
theorem tabbed_inj {a b : List String} (length : a.length = b.length) (each : ∀ cell ∈ a, IsCell cell)
    (h : tabbed a = tabbed b) : a = b :=
  joined_inj rfl length (fun cell hcell found => (each cell hcell '\t' found).1 rfl) h

/-- The lines of a table can be read back from its text, and the cells from a line. -/
theorem isTable_read {first : Row} {rest : List Row} {pretty : Bool} {header : List String}
    (table : IsTable (first :: rest) header (render .text pretty (rows (first :: rest)))) :
    header = first.names ∧ InOrderOf header (first :: rest) := by
  have count : IsCell ("(" ++ toString (first :: rest).length ++ " rows)") :=
    (IsCell.append (by decide) (.nat _)).append (by decide)
  have free : ∀ line ∈ tabbed header :: (first :: rest).map
      (fun row => tabbed (header.map row.cellUnder)) ++
        ["(" ++ toString (first :: rest).length ++ " rows)"], '\n' ∉ line.toList := by
    intro line hline
    obtain hline | last := List.mem_append.mp hline
    · obtain rfl | hline := List.mem_cons.mp hline
      · exact tabbed_free table.headerCells
      · obtain ⟨row, hrow, rfl⟩ := List.mem_map.mp hline
        exact tabbed_free (List.forall_mem_map.mpr (table.cells row hrow))
    · obtain rfl := List.mem_singleton.mp last
      exact fun found => (count '\n' found).2 rfl
  have lines : tabbed header :: (first :: rest).map (fun row => tabbed (header.map row.cellUnder)) ++
      ["(" ++ toString (first :: rest).length ++ " rows)"] = rowLines (first :: rest) :=
    joined_inj rfl (by simp [rowLines]) free table.lines.symm
  obtain ⟨headers, values⟩ := List.cons.inj (List.append_cancel_right lines)
  constructor
  · exact tabbed_inj (table.names first List.mem_cons_self).length_eq table.headerCells headers
  · intro row hrow
    have cells : header.map row.cellUnder = row.values.map Value.display := by
      refine tabbed_inj ?_ (List.forall_mem_map.mpr (table.cells row hrow))
        (List.map_inj_left.mp values row hrow)
      rw [row.display_values, List.length_map, List.length_map, (table.names row hrow).length_eq]
    exact cells.symm

theorem render_isTable_iff {first : Row} {rest : List Row} (same : SameNames (first :: rest))
    (pretty : Bool) :
    (∃ header, IsTable (first :: rest) header (render .text pretty (rows (first :: rest)))) ↔
      AllCells (first :: rest) ∧ InOrderOf first.names (first :: rest) := by
  constructor
  · rintro ⟨header, table⟩
    obtain ⟨rfl, inOrder⟩ := isTable_read table
    refine ⟨fun row hrow field hfield => ?_, inOrder⟩
    have named : field.1 ∈ first.names :=
      (table.names row hrow).mem_iff.mpr (List.mem_map_of_mem hfield)
    exact ⟨table.headerCells _ named, Row.cellUnder_of_mem hfield ▸ table.cells row hrow _ named⟩
  · rintro ⟨cells, inOrder⟩
    refine ⟨first.names, fun row hrow => ?_, ?_, ?_, ?_⟩
    · exact (List.perm_ext_iff_of_nodup first.nodup row.nodup).mpr
        (same first List.mem_cons_self row hrow)
    · intro name hname
      obtain ⟨field, hfield, rfl⟩ := List.mem_map.mp hname
      exact (cells first List.mem_cons_self field hfield).1
    · intro row hrow name hname
      obtain ⟨field, hfield, rfl⟩ :=
        List.mem_map.mp ((same first List.mem_cons_self row hrow name).mp hname)
      rw [Row.cellUnder_of_mem hfield]
      exact (cells row hrow field hfield).2
    · have lines := List.map_congr_left fun row hrow => congrArg tabbed (inOrder row hrow)
      rw [render, textLines, rowLines, ← lines]

end Envelope

/-! ## Answers of an engine -/

namespace Store

/-- The names and the texts of all stored fields are cells. -/
structure IsPlain (store : Store) : Prop where
  names : ∀ field, store.HasField field → IsCell field.1
  texts : ∀ field, store.HasField field → ∀ text, field.2.text? = some text → IsCell text

/-- In every relation all rows list their fields in one order. -/
def InOneOrder (store : Store) : Prop := store.Related (· = ·)

variable {store : Store}

theorem hasField_of_relation? {name : String} {relation : Relation}
    (found : store.relation? name = some relation) {row : Row} (hrow : row ∈ relation.rows)
    {field : String × Value} (hfield : field ∈ row.fields) : store.HasField field :=
  ⟨relation, mem_of_relation? found, row, hrow, hfield⟩

theorem IsPlain.value (plain : store.IsPlain) {name : String} {value : Value}
    (held : store.HasField (name, value)) : IsCell value.display :=
  IsCell.display (plain.texts (name, value) held)

/-- Only texts break out of cells, and all texts of an answer are stored ones. -/
theorem IsPlain.supplied (plain : store.IsPlain) {query : Query}
    (labels : ∀ item ∈ query.items, ∀ name, item.outputName? = some name → IsCell name)
    {field : String × Value} (supplied : query.Supplies store field) :
    IsCell field.1 ∧ IsCell field.2.display := by
  obtain ⟨named, valued⟩ := supplied
  constructor
  · obtain ⟨value, held⟩ | ⟨item, hitem, named⟩ := named
    · exact plain.names (field.1, value) held
    · exact labels item hitem _ named
  · obtain ⟨name, held⟩ | none | numeric := valued
    · exact plain.value held
    · rw [none]
      exact IsCell.display nofun
    · apply IsCell.display
      intro text isText
      cases value : field.2 <;> simp_all [Value.text?, Value.isNumeric, Value.number?]

theorem IsPlain.schema (plain : store.IsPlain) (relation : String) :
    ∀ field ∈ (store.schemaOf relation).fields, IsCell field.name := by
  intro field hfield
  unfold schemaOf at hfield
  cases found : store.relation? relation with
  | none =>
    rw [found] at hfield
    cases hfield
  | some held =>
    rw [found] at hfield
    obtain ⟨name, _ | ⟨first, rest⟩⟩ := held
    · cases hfield
    · obtain ⟨pair, hpair, rfl⟩ := List.mem_map.mp hfield
      exact plain.names pair (hasField_of_relation? found List.mem_cons_self hpair)

end Store

theorem InOrderOf.of_sameOrder {first : Row} {rest : List Row}
    (same : RelatedRows (· = ·) (first :: rest)) : InOrderOf first.names (first :: rest) := by
  intro row hrow
  rw [row.display_values, same row hrow first List.mem_cons_self]

namespace Engine

variable {store : Store} {rows : List Row}

theorem read_allCells (plain : store.IsPlain) {text : String}
    (labels : ∀ query, Query.ofText? text = .ok query → ∀ item ∈ query.items, ∀ name,
      item.outputName? = some name → IsCell name)
    (h : (ofStore store).read text = .ok rows) : AllCells rows := by
  intro row hrow field hfield
  obtain rfl | ⟨name, relation, found, rfl⟩ | ⟨query, parsed, shape, hshape, answers⟩ := read_eq_ok h
  · cases hrow
  · have held := Store.hasField_of_relation? found hrow hfield
    exact ⟨plain.names field held, plain.value held⟩
  · exact plain.supplied (labels query parsed)
      (builtInShapes_trace shape hshape query store rows answers row hrow field hfield)

theorem listing_allCells (names : ∀ name ∈ store.names, IsCell name) :
    AllCells (ofStore store).listing := by
  have tableName : IsCell "table_name" := by decide
  intro row hrow field hfield
  obtain ⟨name, hname, rfl⟩ := List.mem_map.mp hrow
  obtain rfl := List.mem_singleton.mp (Row.mem_fields_ofList hfield)
  exact ⟨tableName, names name hname⟩

theorem description_allCells (plain : store.IsPlain) (relation : String) :
    AllCells (store.schemaOf relation).toRows := by
  have titles : ∀ title ∈ ["Field", "Type", "Null", "Key"], IsCell title := by decide
  intro row hrow field hfield
  obtain ⟨described, hdescribed, rfl⟩ := List.mem_map.mp hrow
  have pair := Row.mem_fields_ofList hfield
  have title : field.1 ∈ ["Field", "Type", "Null", "Key"] := List.mem_map_of_mem pair
  refine ⟨titles _ title, ?_⟩
  simp only [List.mem_cons, List.not_mem_nil, or_false] at pair
  obtain rfl | rfl | rfl | rfl := pair
  · exact plain.schema relation described hdescribed
  · cases described.type <;> decide
  · cases described.nullable <;> decide
  · cases described.key <;> decide

theorem execute_allCells (plain : store.IsPlain) {newId text : String} {parameters : List Value}
    (listed : StatementKind.ofText text = .listing → ∀ name ∈ store.names, IsCell name)
    (labels : StatementKind.ofText text = .read → ∀ query, Query.ofText? text = .ok query →
      ∀ item ∈ query.items, ∀ name, item.outputName? = some name → IsCell name)
    (answered : (ofStore store).execute newId text parameters = .ok (.rows rows)) : AllCells rows := by
  obtain rfl | ⟨kind, rfl⟩ | ⟨relation, rfl⟩ | ⟨kind, given⟩ := execute_eq_rows answered
  · decide
  · exact listing_allCells (listed kind)
  · exact description_allCells plain relation
  · exact read_allCells plain (labels kind) given

/-- The rows of an answer are shown as a table exactly if their names and values are cells and every row
lists its values in the order of the first one. Names and values are cells where the names that a listing
shows and those that a read selects are. The order is kept where a read finds the rows of every relation
in one order, or a shape answers it with selected columns. -/
theorem render_execute_isTable_iff {relations : List Relation}
    (accepted : Store.ofRelations relations = .ok store) (plain : store.IsPlain)
    {newId text : String} {parameters : List Value} {first : Row} {rest : List Row}
    (answered : (ofStore store).execute newId text parameters = .ok (.rows (first :: rest)))
    (pretty : Bool) :
    ((∃ header, IsTable (first :: rest) header
        (Envelope.render .text pretty (.rows (first :: rest)))) ↔
      AllCells (first :: rest) ∧ InOrderOf first.names (first :: rest)) ∧
    ((StatementKind.ofText text = .listing → ∀ name ∈ store.names, IsCell name) →
      (StatementKind.ofText text = .read → ∀ query, Query.ofText? text = .ok query →
        ∀ item ∈ query.items, ∀ name, item.outputName? = some name → IsCell name) →
      AllCells (first :: rest)) ∧
    ((StatementKind.ofText text = .read → store.InOneOrder ∨ SelectsColumns store text) →
      InOrderOf first.names (first :: rest)) := by
  have same : SameNames (first :: rest) := execute_related .sameSet
    (fun _ => .inl fun _ _ found => (Store.uniform_of_accepted accepted found).sameNames) answered
  refine ⟨Envelope.render_isTable_iff same pretty, ?_, ?_⟩
  · intro listed labels
    exact execute_allCells plain listed labels answered
  · intro inherits
    exact .of_sameOrder (execute_related .sameOrder inherits answered)

end Engine

/-- A store whose fields can be checked one by one. -/
theorem Store.isPlain_of_forall {store : Store}
    (each : ∀ relation ∈ store.relations, ∀ row ∈ relation.rows, ∀ field ∈ row.fields,
      IsCell field.1 ∧ ∀ text ∈ field.2.text?, IsCell text) : store.IsPlain where
  names := fun field ⟨relation, hrelation, row, hrow, hfield⟩ =>
    (each relation hrelation row hrow field hfield).1
  texts := fun field ⟨relation, hrelation, row, hrow, hfield⟩ =>
    (each relation hrelation row hrow field hfield).2

def Sample.journal : Store := ⟨[Sample.logs]⟩

/-- The logs list their fields in one order, and the wildcard takes their names. -/
theorem Engine.render_execute_isTable_iff_logs :
    Store.ofRelations [Sample.logs] = .ok Sample.journal ∧ Sample.journal.IsPlain ∧
    Sample.journal.InOneOrder ∧
    ∃ first rest, (ofStore Sample.journal).execute "" "SELECT * FROM logs" [] =
        .ok (.rows (first :: rest)) ∧ rest.length = 6 ∧
      ∃ header, IsTable (first :: rest) header
        (Envelope.render .text false (.rows (first :: rest))) := by
  have accepted : Store.ofRelations [Sample.logs] = .ok Sample.journal := rfl
  have plain : Sample.journal.IsPlain := Store.isPlain_of_forall (by decide)
  have inOneOrder : Sample.journal.InOneOrder := by
    have all : ∀ row ∈ Sample.logs.rows, row.names = ["id", "num"] := by decide
    intro name relation found
    obtain rfl := List.mem_singleton.mp (Store.mem_of_relation? found)
    exact fun a ha b hb => (all a ha).trans (all b hb).symm
  have kind : StatementKind.ofText "SELECT * FROM logs" = .read := by decide +kernel
  have selected : (Query.ofText? "SELECT * FROM logs").toOption.map Query.items =
      some [.wildcard none] := by decide +kernel
  have size : ((ofStore Sample.journal).read "SELECT * FROM logs").toOption.map List.length =
      some 7 := by decide +kernel
  obtain ⟨_ | ⟨first, rest⟩, given, length⟩ := Option.map_eq_some_iff.mp size
  · cases length
  have answered : (ofStore Sample.journal).execute "" "SELECT * FROM logs" [] =
      .ok (.rows (first :: rest)) := by
    simp [execute, kind, ok_of_toOption given, Except.map]
  obtain ⟨shown, cells, inOrder⟩ := render_execute_isTable_iff accepted plain answered false
  refine ⟨accepted, plain, inOneOrder, first, rest, answered, Nat.succ.inj length,
    shown.mpr ⟨cells ?_ ?_, inOrder fun _ => .inl inOneOrder⟩⟩
  · intro listing
    rw [kind] at listing
    cases listing
  · intro _ query parsed item hitem name named
    rw [parsed] at selected
    rw [Option.some_inj.mp selected] at hitem
    obtain rfl := List.mem_singleton.mp hitem
    cases named

/-- Two rooms, whose fields are listed in different orders. -/
def Sample.rooms : Relation :=
  ⟨"rooms", [.ofList [("id", int 1), ("floor", int 2)], .ofList [("floor", int 3), ("id", int 4)]]⟩

def Sample.hotel : Store := ⟨[Sample.rooms]⟩

/-- The rooms of a plain store are not shown as a table: the floor of the second one stands under its
id. -/
theorem Engine.rooms_misaligned :
    Store.ofRelations [Sample.rooms] = .ok Sample.hotel ∧ Sample.hotel.IsPlain ∧
    (ofStore Sample.hotel).execute "" "SELECT * FROM rooms" [] = .ok (.rows Sample.rooms.rows) ∧
    Envelope.render .text false (.rows Sample.rooms.rows) = "id\tfloor\n1\t2\n3\t4\n(2 rows)" ∧
    ¬∃ header, IsTable Sample.rooms.rows header
      (Envelope.render .text false (.rows Sample.rooms.rows)) := by
  have kind : StatementKind.ofText "SELECT * FROM rooms" = .read := by decide +kernel
  have scanned : ((ofStore Sample.hotel).read "SELECT * FROM rooms").toOption =
      some Sample.rooms.rows := by decide +kernel
  refine ⟨rfl, Store.isPlain_of_forall (by decide), ?_, by decide, ?_⟩
  · simp [execute, kind, ok_of_toOption scanned, Except.map]
  · rintro ⟨header, table⟩
    obtain ⟨rfl, inOrder⟩ := Envelope.isTable_read table
    exact absurd inOrder (by decide)

end QueryShapes

import Mathlib.Data.List.Forall2
import Mathlib.Data.List.Nodup
import Mathlib.Data.List.Perm.Basic
import QueryShapes.Output
import QueryShapes.Proofs.JsonValues

/-!
# Rows in printed JSON

- `Row.byName`: the fields of a row in the order of their names.
- `sorted_rowJson`: sorting the members of a row object brings its fields into that order.
- `Envelope.printed_inj`: the text of an answer shows in which order its rows list their fields.
- `render_json_rows`: rows are printed with their fields by name, and so in their own order only
  where their names ascend.
-/

namespace QueryShapes

/-! ## Sorted members -/

namespace Json

theorem insertMember_perm (member : String × Json) (members : List (String × Json)) :
    (insertMember member members).Perm (member :: members) := by
  induction members with
  | nil => rfl
  | cons first rest ih =>
    rw [insertMember]
    split
    · exact (ih.cons first).trans (List.Perm.swap member first rest)
    · rfl

theorem sortMembers_perm (members : List (String × Json)) : (sortMembers members).Perm members := by
  induction members with
  | nil => rfl
  | cons first rest ih => exact (insertMember_perm first _).trans (ih.cons first)

theorem insertMember_ascending {member : String × Json} {members : List (String × Json)}
    (ascending : members.Pairwise (·.1 ≤ ·.1)) :
    (insertMember member members).Pairwise (·.1 ≤ ·.1) := by
  induction members with
  | nil => exact List.pairwise_singleton _ _
  | cons first rest ih =>
    obtain ⟨least, others⟩ := List.pairwise_cons.mp ascending
    rw [insertMember]
    split
    · rename_i before
      refine List.pairwise_cons.mpr ⟨fun other mem => ?_, ih others⟩
      obtain rfl | mem := List.mem_cons.mp ((insertMember_perm member rest).mem_iff.mp mem)
      · exact before
      · exact least other mem
    · rename_i after
      have before : member.1 ≤ first.1 := (String.le_total first.1 member.1).resolve_left after
      refine List.pairwise_cons.mpr ⟨fun other mem => ?_, ascending⟩
      obtain rfl | mem := List.mem_cons.mp mem
      · exact before
      · exact String.le_trans before (least other mem)

theorem sortMembers_ascending (members : List (String × Json)) :
    (sortMembers members).Pairwise (·.1 ≤ ·.1) := by
  induction members with
  | nil => exact List.Pairwise.nil
  | cons first rest ih => exact insertMember_ascending ih

/-- Members of different names ascend in one order only. -/
theorem sortMembers_eq {members sorted : List (String × Json)} (distinct : (members.map Prod.fst).Nodup)
    (same : sorted.Perm members) (ascending : sorted.Pairwise (·.1 ≤ ·.1)) :
    sortMembers members = sorted := by
  have perm := sortMembers_perm members
  refine (perm.trans same.symm).eq_of_pairwise ?_ (sortMembers_ascending members) ascending
  intro a b ha hb hab hba
  exact List.inj_on_of_nodup_map distinct (perm.subset ha) (same.subset hb) (String.le_antisymm hab hba)

/-- The object whose members are these fields, in their order. -/
def ofFields (fields : List (String × Value)) : Json :=
  object (fields.map fun field => (field.1, field.2.toJson))

end Json

/-- The fields in the order of their names. -/
def Row.byName (row : Row) : List (String × Value) :=
  row.fields.mergeSort (·.1 ≤ ·.1)

theorem Row.byName_perm (row : Row) : row.byName.Perm row.fields :=
  List.mergeSort_perm _ _

theorem Row.byName_ascending (row : Row) : row.byName.Pairwise (·.1 ≤ ·.1) := by
  refine (List.pairwise_mergeSort ?_ ?_ row.fields).imp of_decide_eq_true
  · intro a b c hab hbc
    exact decide_eq_true (String.le_trans (of_decide_eq_true hab) (of_decide_eq_true hbc))
  · intro a b
    simpa using String.le_total a.1 b.1

theorem Value.sorted_toJson (value : Value) : value.toJson.sorted = value.toJson := by
  cases value with
  | decimal x =>
    rw [toJson, Double.toJson]
    split <;> rfl
  | null | integer | text | date | boolean => rfl

theorem Json.sortedMembers_fields (fields : List (String × Value)) :
    sortedMembers (fields.map fun field => (field.1, field.2.toJson)) =
      fields.map fun field => (field.1, field.2.toJson) := by
  rw [sortedMembers_eq, List.map_map]
  apply List.map_congr_left
  intro field _
  rw [Function.comp_apply, Value.sorted_toJson]

theorem Row.sorted_toJson (row : Row) : row.toJson.sorted = Json.ofFields row.byName := by
  have distinct : ((row.fields.map fun field => (field.1, field.2.toJson)).map Prod.fst).Nodup := by
    rw [List.map_map]
    exact row.nodup
  have ascending : (row.byName.map fun field => (field.1, field.2.toJson)).Pairwise (·.1 ≤ ·.1) :=
    List.pairwise_map.mpr row.byName_ascending
  rw [toJson, Json.sorted, Json.sortedMembers_fields,
    Json.sortMembers_eq distinct (row.byName_perm.map _) ascending, Json.ofFields]

/-! ## Printed fields -/

/-- Texts that tell where they end do so with separators between them, too. -/
theorem intercalate_cancel {α : Type} {related : α → α → Prop} {sep : List Char} {shown : α → List Char}
    (cancel : ∀ x y r s, related x y → shown x ++ r = shown y ++ s → x = y ∧ r = s)
    {xs ys : List α} (each : List.Forall₂ related xs ys) {r s : List Char}
    (h : sep.intercalate (xs.map shown) ++ r = sep.intercalate (ys.map shown) ++ s) :
    xs = ys ∧ r = s := by
  induction each with
  | nil => exact ⟨rfl, h⟩
  | @cons x y xs ys pair rest ih =>
    cases rest with
    | nil =>
      simp only [List.map_cons, List.map_nil, List.intercalate_singleton] at h
      obtain ⟨rfl, after⟩ := cancel x y r s pair h
      exact ⟨rfl, after⟩
    | cons =>
      simp only [List.map_cons, List.intercalate_cons_cons, List.append_assoc] at h ih
      obtain ⟨rfl, after⟩ := cancel _ _ _ _ pair h
      obtain ⟨others, ends⟩ := ih (List.append_cancel_left after)
      exact ⟨congrArg _ others, ends⟩

namespace Json

/-- A field after its lead, with a mark behind the name. -/
def fieldChars (lead mark : List Char) (field : String × Value) : List Char :=
  lead ++ (quote field.1 ++ (mark ++ field.2.toJson.compactChars))

/-- Both lists have the same fields, each name once. -/
structure SameFields (a b : List (String × Value)) : Prop where
  perm : a.Perm b
  distinct : (b.map Prod.fst).Nodup

/-- A printed name tells which of the fields follows. -/
theorem fieldChars_cancel {a b : List (String × Value)} (same : SameFields a b)
    {lead mark r s : List Char}
    (h : [','].intercalate (a.map (fieldChars lead mark)) ++ r =
      [','].intercalate (b.map (fieldChars lead mark)) ++ s) : a = b ∧ r = s := by
  have byName : List.Forall₂ (fun x y => x.1 = y.1 → x = y) a b := by
    refine List.forall₂_of_length_eq_of_get same.perm.length_eq fun i ha hb named => ?_
    exact List.inj_on_of_nodup_map same.distinct (same.perm.subset (List.get_mem a ⟨i, ha⟩))
      (List.get_mem b ⟨i, hb⟩) named
  refine intercalate_cancel (fun x y r s pair equal => ?_) byName h
  simp only [fieldChars, List.append_assoc] at equal
  obtain ⟨named, after⟩ := quote_cancel (List.append_cancel_left equal)
  cases pair named
  exact ⟨rfl, List.append_cancel_left (List.append_cancel_left after)⟩

theorem prettyMembers_eq (depth : Nat) (members : List (String × Json)) :
    prettyMembers depth members =
      [','].intercalate (members.map fun member =>
        newLine depth ++ (quote member.1 ++ ':' :: ' ' :: member.2.prettyChars depth)) := by
  induction members with
  | nil => rfl
  | cons first rest ih =>
    cases rest with
    | nil => simp [prettyMembers]
    | cons => simp_all [prettyMembers, List.intercalate_cons_cons]

theorem prettyElements_eq (depth : Nat) (elements : List Json) :
    prettyElements depth elements =
      [','].intercalate (elements.map fun element => newLine depth ++ element.prettyChars depth) := by
  induction elements with
  | nil => rfl
  | cons first rest ih =>
    cases rest with
    | nil => simp [prettyElements]
    | cons => simp_all [prettyElements, List.intercalate_cons_cons]

theorem prettyChars_toJson (value : Value) (depth : Nat) :
    value.toJson.prettyChars depth = value.toJson.compactChars := by
  cases value with
  | decimal x =>
    rw [Value.toJson, Double.toJson]
    split <;> rfl
  | null | integer | text | date | boolean => rfl

/-- The text of a row object tells the order of its fields. -/
theorem compactChars_cancel {a b : List (String × Value)} (same : SameFields a b) {r s : List Char}
    (h : (ofFields a).compactChars ++ r = (ofFields b).compactChars ++ s) : a = b ∧ r = s := by
  have shown (fields : List (String × Value)) : (ofFields fields).compactChars =
      '{' :: ([','].intercalate (fields.map (fieldChars [] [':'])) ++ ['}']) := by
    rw [ofFields, compactChars, memberChars_eq, List.map_map]
    rfl
  simp only [shown, List.cons_append, List.append_assoc, List.nil_append, List.cons.injEq,
    true_and] at h
  obtain ⟨rfl, after⟩ := fieldChars_cancel same h
  exact ⟨rfl, (List.cons.inj after).2⟩

theorem prettyChars_cancel {a b : List (String × Value)} (same : SameFields a b) {depth : Nat}
    {r s : List Char}
    (h : (ofFields a).prettyChars depth ++ r = (ofFields b).prettyChars depth ++ s) :
    a = b ∧ r = s := by
  have members (fields : List (String × Value)) :
      prettyMembers (depth + 1) (fields.map fun field => (field.1, field.2.toJson)) =
        [','].intercalate (fields.map (fieldChars (newLine (depth + 1)) [':', ' '])) := by
    rw [prettyMembers_eq, List.map_map]
    simp only [Function.comp_def, prettyChars_toJson]
    rfl
  have shown {fields : List (String × Value)} (some : fields ≠ []) :
      (ofFields fields).prettyChars depth =
        '{' :: ([','].intercalate (fields.map (fieldChars (newLine (depth + 1)) [':', ' '])) ++
          (newLine depth ++ ['}'])) := by
    obtain ⟨field, rest, rfl⟩ := List.exists_cons_of_ne_nil some
    rw [← members, ← List.append_assoc]
    rfl
  by_cases empty : b = []
  · subst empty
    cases same.perm.eq_nil
    exact ⟨rfl, List.append_cancel_left h⟩
  · have other : a ≠ [] := fun none => empty (none ▸ same.perm).nil_eq.symm
    simp only [shown empty, shown other, List.cons_append, List.append_assoc, List.nil_append,
      List.cons.injEq, true_and] at h
    obtain ⟨equal, after⟩ := fieldChars_cancel same h
    exact ⟨equal, (List.cons.inj (List.append_cancel_left after)).2⟩

theorem prettyChars_rows (first : List (String × Value)) (rest : List (List (String × Value))) :
    (array [array ((first :: rest).map ofFields)]).prettyChars 0 =
      '[' :: (newLine 1 ++ '[' :: ([','].intercalate ((first :: rest).map fun fields =>
        newLine 2 ++ (ofFields fields).prettyChars 2) ++ (newLine 1 ++ ']' :: (newLine 0 ++ [']'])))) := by
  have elements : prettyElements 2 ((first :: rest).map ofFields) =
      [','].intercalate ((first :: rest).map fun fields =>
        newLine 2 ++ (ofFields fields).prettyChars 2) := by
    rw [prettyElements_eq, List.map_map]
    rfl
  rw [← elements, List.map_cons]
  simp [prettyChars, prettyElements]

end Json

/-! ## Printed answers -/

namespace Envelope

/-- The text of an answer whose row objects list these fields. -/
def printed (pretty : Bool) (listed : List (List (String × Value))) : String :=
  let answer := Json.array [.array (listed.map Json.ofFields)]
  if pretty then answer.pretty else answer.compact

/-- The text of an answer in which nothing is sorted. -/
def serialized (pretty : Bool) (envelope : Envelope) : String :=
  if pretty then envelope.toJson.pretty else envelope.toJson.compact

theorem serialized_rows (pretty : Bool) (answered : List Row) :
    serialized pretty (rows answered) = printed pretty (answered.map Row.fields) := by
  have objects : answered.map Row.toJson = (answered.map Row.fields).map Json.ofFields := by
    rw [List.map_map]
    rfl
  rw [serialized, printed, toJson, objects]

theorem render_rows_byName (pretty : Bool) (answered : List Row) :
    render .json pretty (rows answered) = printed pretty (answered.map Row.byName) := by
  have objects : Json.sortedElements (answered.map Row.toJson) =
      (answered.map Row.byName).map Json.ofFields := by
    rw [Json.sortedElements_eq, List.map_map, List.map_map]
    apply List.map_congr_left
    intro row _
    exact row.sorted_toJson
  rw [render, printed, toJson, Json.sorted, Json.sortedElements, Json.sorted, objects]
  rfl

/-- The printed text shows in which order each row lists its fields. -/
theorem printed_inj {pretty : Bool} {a b : List (List (String × Value))}
    (same : List.Forall₂ Json.SameFields a b) : printed pretty a = printed pretty b ↔ a = b := by
  refine ⟨fun h => ?_, fun h => h ▸ rfl⟩
  cases pretty with
  | false =>
    have chars := String.ofList_inj.mp h
    simp only [Json.compactChars, Json.elementChars, Json.elementChars_eq, List.map_map,
      List.cons.injEq, true_and, List.append_assoc, List.cons_append] at chars
    exact (intercalate_cancel (fun _ _ _ _ pair => Json.compactChars_cancel pair) same chars).1
  | true =>
    have chars := String.ofList_inj.mp h
    cases same with
    | nil => rfl
    | cons pair rest =>
      rw [Json.prettyChars_rows, Json.prettyChars_rows] at chars
      have elements := List.append_cancel_left (List.cons.inj chars).2
      refine (intercalate_cancel ?_ (.cons pair rest) (List.cons.inj elements).2).1
      intro x y r s pair equal
      rw [List.append_assoc, List.append_assoc] at equal
      exact Json.prettyChars_cancel pair (List.append_cancel_left equal)

/-- Rows are printed with their fields in the order of the names, while their own serialization keeps the
order of the fields. Both texts are the same exactly where the names of every row ascend. -/
theorem render_json_rows (pretty : Bool) (answered : List Row) :
    render .json pretty (rows answered) = printed pretty (answered.map Row.byName) ∧
    serialized pretty (rows answered) = printed pretty (answered.map Row.fields) ∧
    (render .json pretty (rows answered) = serialized pretty (rows answered) ↔
      ∀ row ∈ answered, row.names.Pairwise (· ≤ ·)) := by
  have printedByName := render_rows_byName pretty answered
  have kept := serialized_rows pretty answered
  refine ⟨printedByName, kept, ?_⟩
  have same : List.Forall₂ Json.SameFields (answered.map Row.byName) (answered.map Row.fields) := by
    rw [List.forall₂_map_left_iff, List.forall₂_map_right_iff, List.forall₂_same]
    exact fun row _ => ⟨row.byName_perm, row.nodup⟩
  have byName (row : Row) : row.byName = row.fields ↔ row.names.Pairwise (· ≤ ·) := by
    rw [Row.names, List.pairwise_map]
    constructor
    · intro equal
      exact equal ▸ row.byName_ascending
    · intro ascending
      exact List.mergeSort_of_pairwise (ascending.imp decide_eq_true)
  rw [printedByName, kept, printed_inj same, List.map_inj_left]
  exact forall₂_congr fun row _ => byName row

/-- A row that lists `b` before `a` is printed with `a` before `b`. -/
theorem render_json_reorders :
    let answer := rows [.ofList [("b", .integer 1), ("a", .text "x")]]
    serialized false answer = "[[\x7b\"b\":1,\"a\":\"x\"\x7d]]" ∧
    render .json false answer = "[[\x7b\"a\":\"x\",\"b\":1\x7d]]" := by
  decide

end Envelope

end QueryShapes

import QueryShapes.Value

/-!
# Rows

A row is a list of named values in field order, each name once.

- `names_insert`: setting a field keeps its place, or adds it at the end.
- `get?_insert`: a look-up finds what was set last.
-/

namespace QueryShapes

structure Row where
  fields : List (String × Value)
  nodup : (fields.map Prod.fst).Nodup := by simp

namespace Row

def empty : Row := ⟨[], by simp⟩

def names (row : Row) : List String := row.fields.map Prod.fst

def values (row : Row) : List Value := row.fields.map Prod.snd

def get? (row : Row) (name : String) : Option Value := row.fields.lookup name

def contains (row : Row) (name : String) : Bool := (row.get? name).isSome

def size (row : Row) : Nat := row.fields.length

def isEmpty (row : Row) : Bool := row.fields.isEmpty

/-- The fields with `name` set to `value`, in place or at the end. -/
def setField (name : String) (value : Value) : List (String × Value) → List (String × Value)
  | [] => [(name, value)]
  | (n, v) :: rest => if n = name then (n, value) :: rest else (n, v) :: setField name value rest

theorem names_setField (name : String) (value : Value) (fields : List (String × Value)) :
    (setField name value fields).map Prod.fst =
      if name ∈ fields.map Prod.fst then fields.map Prod.fst
      else fields.map Prod.fst ++ [name] := by
  induction fields with
  | nil => simp [setField]
  | cons field rest ih =>
    obtain ⟨n, v⟩ := field
    by_cases h : n = name
    · simp [setField, h]
    · have h' : ¬ name = n := fun e => h e.symm
      by_cases hm : name ∈ rest.map Prod.fst
      · simp only [setField, h, ↓reduceIte, List.map_cons, ih, hm, List.mem_cons, h', or_true]
      · simp only [setField, h, ↓reduceIte, List.map_cons, ih, hm, List.mem_cons, h', or_self,
          List.cons_append]

theorem nodup_setField (name : String) (value : Value) {fields : List (String × Value)}
    (h : (fields.map Prod.fst).Nodup) : ((setField name value fields).map Prod.fst).Nodup := by
  rw [names_setField]
  split
  · exact h
  · rename_i hn
    exact List.nodup_append.mpr ⟨h, by simp, by
      intro a ha b hb hab
      exact hn (by simpa [List.mem_singleton.mp hb, hab] using ha)⟩

/-- Sets a field; a field of that name keeps its place. -/
def insert (row : Row) (name : String) (value : Value) : Row :=
  ⟨setField name value row.fields, nodup_setField name value row.nodup⟩

/-- The row that inserting the pairs one after another gives. -/
def ofList (pairs : List (String × Value)) : Row :=
  pairs.foldl (fun row pair => row.insert pair.1 pair.2) empty

/-- Both rows carry the same set of names. -/
def sameFields (a b : Row) : Bool := a.size == b.size && a.names.all b.contains

/-- Equal names in equal order, with equal values. -/
def equals (a b : Row) : Bool :=
  a.names = b.names && (a.values.zip b.values).all fun pair => pair.1.equals pair.2

theorem names_insert (row : Row) (name : String) (value : Value) :
    (row.insert name value).names =
      if name ∈ row.names then row.names else row.names ++ [name] :=
  names_setField name value row.fields

theorem lookup_field (name n : String) (v : Value) (rest : List (String × Value)) :
    List.lookup name ((n, v) :: rest) = if name = n then some v else rest.lookup name := by
  rw [List.lookup_cons]
  cases h : name == n <;> simp_all

theorem get?_insert (row : Row) (name other : String) (value : Value) :
    (row.insert name value).get? other =
      if other = name then some value else row.get? other := by
  suffices h : ∀ fields : List (String × Value),
      (setField name value fields).lookup other =
        if other = name then some value else fields.lookup other from h row.fields
  intro fields
  induction fields with
  | nil => simp [setField, lookup_field]
  | cons field rest ih =>
    obtain ⟨n, v⟩ := field
    by_cases h : n = name <;> by_cases ho : other = n <;> by_cases hn : other = name <;>
      simp_all [setField, lookup_field]

end Row

end QueryShapes

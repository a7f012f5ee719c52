import QueryShapes.Proofs.FromClause
import QueryShapes.Proofs.ShapePriority

/-!
# Queries of one bare table

- `Rule.select_lone`: a selection with at most one token behind its `FROM` reads one table, joins it to
  nothing and has no condition.
- `ofText?_lone`: so does the query that is read from its text.
- `passes_lone`: no built-in shape answers such a query.
-/

namespace QueryShapes

namespace Sql

open Reading

namespace Rule

variable {tokens rest : List Token}

/-- A path takes a token, so that nothing is left of a single one. -/
theorem path_lone {path : List Name} (h : Rule.path.run? tokens = some (path, rest))
    (short : tokens.length ≤ 1) : rest = [] := by
  change (separatedWithin (symbol ".") name (tokens.length + 1)).run? tokens = _ at h
  obtain ⟨n, middle, named, h⟩ := run?_bind_eq_some.mp h
  obtain ⟨token, after, taken, named⟩ := run?_bind_eq_some.mp named
  have left : rest <:+ after := (leaves_suffix _ h).trans (leaves_suffix _ named)
  cases tokens with
  | nil => cases taken
  | cons first others =>
    cases taken
    have nothing : after.length = 0 := Nat.le_zero.mp (Nat.le_of_succ_le_succ short)
    rw [List.length_eq_zero_iff.mp nothing] at left
    exact List.suffix_nil.mp left

theorem joined_lone {g : Nesting} {term : FromTerm} {path : List Name} {arguments : String}
    {label : Option Name} {hints : String} (table : term.table = .table path arguments label hints)
    (h : (joined g).run? tokens = some (term, rest)) (short : tokens.length ≤ 1) :
    term.joins = [] ∧ rest = [] := by
  obtain ⟨first, middle, taken, h⟩ := run?_bind_eq_some.mp h
  obtain ⟨joins, _, repeats, h⟩ := run?_bind_eq_some.mp h
  cases h
  obtain rfl : first = .table path arguments label hints := table
  obtain ⟨after, pathRead, left⟩ := tableTerm_path taken
  obtain rfl := path_lone pathRead short
  obtain rfl := List.suffix_nil.mp left
  -- Where nothing is left no join begins.
  cases repeats
  exact ⟨rfl, rfl⟩

theorem commas_lone {α : Type} {item : Rule α} {as : List α}
    (h : (commas item).run? tokens = some (as, rest)) :
    ∃ first middle, as.head? = some first ∧ item.run? tokens = some (first, middle) ∧
      (middle = [] → as = [first] ∧ rest = []) := by
  change (separatedWithin (symbol ",") item (tokens.length + 1)).run? tokens = some (as, rest) at h
  obtain ⟨first, middle, taken, h⟩ := run?_bind_eq_some.mp h
  refine ⟨first, middle, ?_, taken, ?_⟩
  · obtain ⟨_, _, _, _, h⟩ | h := run?_if_eq_some h
    · obtain ⟨_, _, _, h⟩ := run?_bind_eq_some.mp h
      cases h
      rfl
    · cases h
      rfl
  · rintro rfl
    cases h
    exact ⟨rfl, rfl⟩

end Rule

theorem sources?_lone {term : FromTerm} (joins : term.joins = []) {sources : List Source}
    (h : sources? [term] = .ok sources) : ∃ source, sources = [source] := by
  obtain ⟨base, hbase, h⟩ := bind_eq_ok_iff.mp h
  cases h
  obtain ⟨source, _, hbase⟩ := bind_eq_ok_iff.mp hbase
  rw [joins] at hbase
  cases hbase
  exact ⟨source, rfl⟩

theorem Rule.select_lone {count : Nat} {select : SelectText} {sources : List Source}
    {tokens rest : List Token}
    (h : (Rule.select (grammarWithin count)).run? tokens = some (select, rest))
    (told : sources? select.tables = .ok sources)
    (short : ∀ word after, word :: after <:+ tokens → word.keyword = "FROM" → after.length ≤ 1) :
    (∃ source, sources = [source]) ∧ select.filter = none := by
  obtain ⟨middle, tables?, left, before, read, tables, later, _, views, filter⟩ := select_tables h
  rw [tables] at told
  cases tables? with
  | none => cases told
  | some terms =>
    obtain ⟨after, marked, listed⟩ := after?_eq_some read
    obtain ⟨_, word, rfl, isFrom⟩ | ⟨⟨⟩, _⟩ := takeIf_eq_some marked
    have few := short word after (leaves_suffix _ before) (by simpa using isFrom)
    obtain ⟨term, ends, head, taken, alone⟩ := commas_lone listed
    obtain ⟨others, rfl⟩ := List.head?_eq_some_iff.mp head
    obtain ⟨path, _, _, _, first, more, table, _, _⟩ := sources?_first told
    obtain ⟨_, joined⟩ := joined_nested taken
    obtain ⟨joins, rfl⟩ := joined_lone table joined few
    obtain ⟨single, rfl⟩ := alone rfl
    obtain rfl := (List.cons.inj single).2
    obtain rfl := List.suffix_nil.mp views
    exact ⟨sources?_lone joins told, (Prod.mk.inj (Option.some_inj.mp filter)).1.symm⟩

end Sql

/-- A query with at most one token behind its `FROM` has one source and no condition. -/
theorem Query.ofText?_lone {text : String} {query : Query} (h : Query.ofText? text = .ok query)
    (short : ∀ tokens word after, Sql.tokens? text = some tokens → word :: after <:+ tokens →
      word.keyword = "FROM" → after.length ≤ 1) :
    (∃ source, query.sources = [source]) ∧ query.filter = [] := by
  obtain ⟨tokens, _, start, select, _, lexed, separated, selected, sources, filter⟩ :=
    ofText?_selection h
  have within : start <:+ tokens := Reading.leaves_suffix _ separated
  obtain ⟨single, unfiltered⟩ := Sql.Rule.select_lone selected sources fun word after place =>
    short tokens word after lexed (place.trans within)
  rw [unfiltered] at filter
  exact ⟨single, (Except.ok.inj filter).symm⟩

/-! ## No shape answers -/

namespace Engine

variable {query : Query} {source : Source}

/-- Key joins and runs have more sources, date ranges and thresholds have a condition. -/
theorem passes_lone (sources : query.sources = [source]) (unfiltered : query.filter = [])
    (store : Store) : ∀ shape ∈ builtInShapes, shape.Passes query store := by
  have fewer (shape : Shape) (count : Nat) (counts : shape.Counts count) (more : count ≠ 1) :
      shape.Passes query store :=
    (counts query store).resolve_right fun counted => more (by rw [← counted, sources]; rfl)
  have none : query.filter.length ≠ 1 := by simp [unfiltered]
  refine forall_builtInShapes_iff.mpr ⟨?_, ?_, ?_, ?_, ?_⟩
  · exact fewer _ 2 JoinSort.counts (by decide)
  · exact fewer _ 3 Adjacency.counts (by decide)
  · refine (DateRange.passes_or_recognized query store).resolve_right ?_
    simp [DateRange.recognize?_eq_none none]
  · refine (Threshold.passes_or_recognized query store).resolve_right ?_
    simp [Threshold.recognizes_eq_false none]
  · exact fewer _ 2 GroupAverage.counts (by decide)

theorem firstAnswer?_of_all_pass {store : Store} {shapes : List Shape}
    (passes : ∀ shape ∈ shapes, shape.Passes query store) :
    firstAnswer? query store shapes = .ok none := by
  induction shapes with
  | nil => rfl
  | cons shape shapes ih =>
    rw [firstAnswer?_of_passes (passes shape List.mem_cons_self)]
    exact ih fun other hother => passes other (List.mem_cons_of_mem _ hother)

end Engine

end QueryShapes

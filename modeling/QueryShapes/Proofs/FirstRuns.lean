import QueryShapes.Proofs.ConsecutiveRows

/-!
# Values found in three consecutive rows

Windows overlap, values of different kinds can be loosely equal, and nulls are not even so to
themselves. The answer to a query over consecutive rows is found window by window.

- `RunAt`: the places from which three rows on share a value.
- `FoundBefore`: what is known of the values found in the windows before a place.
- `FoundBefore.step` and `FoundBefore.steps`: one more window keeps it so, hence all of them do.
- `answers_are_first_runs`: the answer has one value for each class of loosely equal windows, that of
  the first of them, in the order of these.
-/

namespace QueryShapes.Adjacency

/-- The value of the field in the row at a place. -/
def valueAt? (field : String) (rows : List Row) (place : Nat) : Option Value :=
  rows[place]?.bind (·.get? field)

/-- The rows from a place on have three values of the field that are pairwise loosely equal, and this
is the first. -/
def RunAt (field : String) (rows : List Row) (place : Nat) (value : Value) : Prop :=
  valueAt? field rows place = some value ∧ ∃ second third,
    valueAt? field rows (place + 1) = some second ∧
    valueAt? field rows (place + 2) = some third ∧
    value.looselyEquals second ∧ second.looselyEquals third ∧ value.looselyEquals third

section
variable {field : String} {rows : List Row} {place : Nat} {value other : Value}

theorem RunAt.self (run : RunAt field rows place value) : value.looselyEquals value := by
  obtain ⟨_, second, _, _, _, equal, _, _⟩ := run
  exact Value.looselyEquals_trans equal (Value.looselyEquals_symm equal)

theorem RunAt.unique (run : RunAt field rows place value) (run' : RunAt field rows place other) :
    value = other :=
  Option.some_inj.mp (run.1.symm.trans run'.1)

theorem valueAt?_eq_some_iff : valueAt? field rows place = some value ↔
    ∃ row, rows[place]? = some row ∧ row.get? field = some value :=
  Option.bind_eq_some_iff

theorem runAt_iff : RunAt field rows place value ↔
    ∃ w, (windows rows)[place]? = some w ∧ shared? field w = some value := by
  constructor
  · rintro ⟨first, second, third, later, last, equal, equal', _⟩
    obtain ⟨a, ha, va⟩ := valueAt?_eq_some_iff.mp first
    obtain ⟨b, hb, vb⟩ := valueAt?_eq_some_iff.mp later
    obtain ⟨c, hc, vc⟩ := valueAt?_eq_some_iff.mp last
    exact ⟨(a, b, c), getElem?_windows.mpr ⟨ha, hb, hc⟩,
      shared?_eq_some_iff.mpr ⟨va, second, third, vb, vc, equal, equal'⟩⟩
  · rintro ⟨⟨a, b, c⟩, window, shared⟩
    obtain ⟨ha, hb, hc⟩ := getElem?_windows.mp window
    obtain ⟨va, second, third, vb, vc, equal, equal'⟩ := shared?_eq_some_iff.mp shared
    exact ⟨valueAt?_eq_some_iff.mpr ⟨a, ha, va⟩, second, third,
      valueAt?_eq_some_iff.mpr ⟨b, hb, vb⟩, valueAt?_eq_some_iff.mpr ⟨c, hc, vc⟩, equal, equal',
      Value.looselyEquals_trans equal equal'⟩

theorem RunAt.lt_length (run : RunAt field rows place value) : place < (windows rows).length := by
  obtain ⟨w, window, _⟩ := runAt_iff.mp run
  exact (List.getElem?_eq_some_iff.mp window).1

end

/-! ## Window by window -/

/-- What has been found in the windows before a place: values with the places of their windows. -/
structure FoundBefore (field : String) (rows : List Row) (limit : Nat) (found : List (Nat × Value)) :
    Prop where
  /-- No value is loosely equal to another. -/
  apart : found.Pairwise fun p q => ¬p.2.looselyEquals q.2
  /-- The values stand in the order of their windows. -/
  inOrder : found.Pairwise fun p q => p.1 < q.1
  /-- No window before that of a value is one of the same value. -/
  first : ∀ p ∈ found, p.1 < limit ∧ RunAt field rows p.1 p.2 ∧
    ∀ place < p.1, ∀ value, RunAt field rows place value → ¬p.2.looselyEquals value
  /-- The value of every window is known. -/
  complete : ∀ place < limit, ∀ value, RunAt field rows place value →
    ∃ p ∈ found, p.2.looselyEquals value

namespace FoundBefore

variable {field : String} {rows : List Row} {limit : Nat} {found : List (Nat × Value)}

protected theorem empty (field : String) (rows : List Row) : FoundBefore field rows 0 [] where
  apart := List.Pairwise.nil
  inOrder := List.Pairwise.nil
  first _ hp := absurd hp List.not_mem_nil
  complete _ below := absurd below (Nat.not_lt_zero _)

/-- The next window has no value, or one that is known. -/
theorem skip (h : FoundBefore field rows limit found)
    (known : ∀ value, RunAt field rows limit value → ∃ p ∈ found, p.2.looselyEquals value) :
    FoundBefore field rows (limit + 1) found where
  apart := h.apart
  inOrder := h.inOrder
  first p hp := by
    obtain ⟨below, rest⟩ := h.first p hp
    exact ⟨Nat.lt_succ_of_lt below, rest⟩
  complete place below value run := by
    obtain earlier | rfl := Nat.lt_succ_iff_lt_or_eq.mp below
    · exact h.complete place earlier value run
    · exact known value run

/-- The next window has a new value. -/
theorem add (h : FoundBefore field rows limit found) {value : Value}
    (run : RunAt field rows limit value) (fresh : ∀ p ∈ found, ¬p.2.looselyEquals value) :
    FoundBefore field rows (limit + 1) (found ++ [(limit, value)]) where
  apart := by
    refine List.pairwise_append.mpr ⟨h.apart, List.pairwise_singleton _ _, fun p hp q hq => ?_⟩
    obtain rfl := List.mem_singleton.mp hq
    exact fresh p hp
  inOrder := by
    refine List.pairwise_append.mpr ⟨h.inOrder, List.pairwise_singleton _ _, fun p hp q hq => ?_⟩
    obtain rfl := List.mem_singleton.mp hq
    exact (h.first p hp).1
  first p hp := by
    obtain old | new := List.mem_append.mp hp
    · obtain ⟨below, rest⟩ := h.first p old
      exact ⟨Nat.lt_succ_of_lt below, rest⟩
    · obtain rfl := List.mem_singleton.mp new
      refine ⟨Nat.lt_succ_self _, run, fun place below other earlier equal => ?_⟩
      obtain ⟨p, hp, known⟩ := h.complete place below other earlier
      exact fresh p hp (Value.looselyEquals_trans known (Value.looselyEquals_symm equal))
  complete place below other run' := by
    obtain earlier | rfl := Nat.lt_succ_iff_lt_or_eq.mp below
    · obtain ⟨p, hp, known⟩ := h.complete place earlier other run'
      exact ⟨p, List.mem_append_left _ hp, known⟩
    · obtain rfl := run.unique run'
      exact ⟨_, List.mem_append_right _ (List.mem_singleton_self _), run.self⟩

theorem step (h : FoundBefore field rows limit found) {w : Row × Row × Row}
    (window : (windows rows)[limit]? = some w) :
    ∃ more, FoundBefore field rows (limit + 1) more ∧
      more.map Prod.snd = (shared? field w).toList.foldl addNew (found.map Prod.snd) := by
  have shared_of_run : ∀ value, RunAt field rows limit value → shared? field w = some value := by
    intro value run
    obtain ⟨w', window', shared⟩ := runAt_iff.mp run
    rwa [Option.some_inj.mp (window.symm.trans window')]
  cases shared : shared? field w with
  | none =>
    refine ⟨found, h.skip fun value run => ?_, rfl⟩
    cases shared.symm.trans (shared_of_run value run)
  | some value =>
    have run : RunAt field rows limit value := runAt_iff.mpr ⟨w, window, shared⟩
    have any_iff : (found.map Prod.snd).any (·.looselyEquals value) ↔
        ∃ p ∈ found, p.2.looselyEquals value := by simp
    rw [Option.toList_some, List.foldl_cons, List.foldl_nil, addNew]
    by_cases known : ∃ p ∈ found, p.2.looselyEquals value
    · rw [if_pos (any_iff.mpr known)]
      exact ⟨found, h.skip fun other run' => run.unique run' ▸ known, rfl⟩
    · have fresh : ∀ p ∈ found, ¬p.2.looselyEquals value := fun p hp equal => known ⟨p, hp, equal⟩
      rw [if_neg (mt any_iff.mp known)]
      exact ⟨_, h.add run fresh, List.map_append⟩

theorem steps (h : FoundBefore field rows limit found) {later : List (Row × Row × Row)}
    (rest : (windows rows).drop limit = later) :
    ∃ more, FoundBefore field rows (limit + later.length) more ∧
      more.map Prod.snd = (later.filterMap (shared? field)).foldl addNew (found.map Prod.snd) := by
  induction later generalizing limit found with
  | nil => exact ⟨found, h, rfl⟩
  | cons w later ih =>
    have window : (windows rows)[limit]? = some w := by
      rw [← List.head?_drop, rest]
      rfl
    have rest' : (windows rows).drop (limit + 1) = later := by
      rw [← List.tail_drop, rest]
      rfl
    obtain ⟨next, before, values⟩ := h.step window
    obtain ⟨more, after, values'⟩ := ih before rest'
    have split : (w :: later).filterMap (shared? field) =
        (shared? field w).toList ++ later.filterMap (shared? field) := by
      cases shared : shared? field w <;> simp [shared]
    rw [split, List.foldl_append, ← values]
    rw [Nat.add_right_comm] at after
    exact ⟨more, after, values'⟩

/-- The value of a window is found once, since two values that are loosely equal to it would be so to
each other. -/
theorem countP_eq_one (h : FoundBefore field rows limit found) {place : Nat} (below : place < limit)
    {value : Value} (run : RunAt field rows place value) :
    found.countP (fun p => p.2.looselyEquals value) = 1 := by
  obtain ⟨p, hp, equal⟩ := h.complete place below value run
  have apart := h.apart.filter fun p => p.2.looselyEquals value
  have alike : ∀ q ∈ found.filter fun p => p.2.looselyEquals value, q.2.looselyEquals value :=
    fun q hq => (List.mem_filter.mp hq).2
  have member : p ∈ found.filter fun p => p.2.looselyEquals value :=
    List.mem_filter.mpr ⟨hp, equal⟩
  obtain ⟨q, others, split⟩ := List.exists_cons_of_ne_nil (List.ne_nil_of_mem member)
  rw [split] at apart alike
  rw [List.countP_eq_length_filter, split]
  cases others with
  | nil => rfl
  | cons r others =>
    have different : ¬q.2.looselyEquals r.2 := List.rel_of_pairwise_cons apart List.mem_cons_self
    have first : q.2.looselyEquals value := alike q List.mem_cons_self
    have second : r.2.looselyEquals value := alike r (List.mem_cons_of_mem _ List.mem_cons_self)
    exact absurd (Value.looselyEquals_trans first (Value.looselyEquals_symm second)) different

end FoundBefore

/-- All windows start before the end of the rows. -/
theorem runs_found (field : String) (rows : List Row) :
    ∃ found, FoundBefore field rows (windows rows).length found ∧
      found.map Prod.snd = runs field rows := by
  have start : (windows rows).drop 0 = windows rows := rfl
  obtain ⟨found, all, values⟩ := (FoundBefore.empty field rows).steps start
  rw [Nat.zero_add] at all
  exact ⟨found, all, values⟩

/-- The answer to a query without a limit, with the place of the first window of each value. No two
values are loosely equal. Each is the first value of a run of three consecutive rows, and no earlier run
has a value that is loosely equal to it; so the values stand in the order of their first windows. Of the
values, the value of each run is loosely equal to exactly one. -/
theorem answers_are_first_runs {query : Query} {store : Store} {answer : List Row}
    (answered : answer? query store = .ok (some answer)) (unlimited : query.limit = none) :
    ∃ table field output relation, recognize? query = some (table, field, output) ∧
      store.relation? table = some relation ∧
      ∃ found : List (Nat × Value), answer = found.map (fun p => .ofList [(output, p.2)]) ∧
        (found.Pairwise fun p q => ¬p.2.looselyEquals q.2) ∧
        (found.Pairwise fun p q => p.1 < q.1) ∧
        (∀ p ∈ found, RunAt field relation.rows p.1 p.2 ∧
          ∀ place < p.1, ∀ value, RunAt field relation.rows place value →
            ¬p.2.looselyEquals value) ∧
        ∀ place value, RunAt field relation.rows place value →
          found.countP (fun p => p.2.looselyEquals value) = 1 := by
  unfold answer? at answered
  split at answered
  · rename_i table field output recognized
    obtain ⟨relation, known, rfl⟩ := Option.map_eq_some_iff.mp (Except.ok.inj answered)
    obtain ⟨found, all, values⟩ := runs_found field relation.rows
    refine ⟨table, field, output, relation, recognized, known, found, ?_, all.apart, all.inOrder,
      fun p hp => (all.first p hp).2, fun place value run => all.countP_eq_one run.lt_length run⟩
    rw [Query.cut_of_unlimited unlimited, ← values, List.map_map]
    rfl
  · cases Except.ok.inj answered

end QueryShapes.Adjacency

namespace QueryShapes

/-- Tags that are written as texts or as dates; the last three are missing. -/
def Sample.tags : Relation :=
  Sample.relation "tags" ["id", "tag"] [
    [int 1, .text "a"], [int 2, .date "a"], [int 3, .text "a"], [int 4, .text "a"],
    [int 5, .date "b"], [int 6, .text "b"], [int 7, .text "b"],
    [int 8, .date "a"], [int 9, .date "a"], [int 10, .date "a"],
    [int 11, .null], [int 12, .null], [int 13, .null]]

namespace Adjacency

theorem answers_are_first_runs_tags :
    answer? (consecutive "tags" "tag" "a" "b" "c") ⟨[Sample.tags]⟩ =
      .ok (some [.ofList [("tag", .text "a")], .ofList [("tag", .date "b")]]) ∧
    (consecutive "tags" "tag" "a" "b" "c").limit = none ∧
    ∃ found : List (Nat × Value),
      [Row.ofList [("tag", .text "a")], Row.ofList [("tag", .date "b")]] =
        found.map (fun p => .ofList [("tag", p.2)]) ∧
      (found.Pairwise fun p q => p.1 < q.1) ∧
      ∀ place value, RunAt "tag" Sample.tags.rows place value →
        found.countP (fun p => p.2.looselyEquals value) = 1 := by
  have answered : answer? (consecutive "tags" "tag" "a" "b" "c") ⟨[Sample.tags]⟩ =
      .ok (some [.ofList [("tag", .text "a")], .ofList [("tag", .date "b")]]) := by rfl
  obtain ⟨table, field, output, relation, recognized, known, found, rows, _, inOrder, _, once⟩ :=
    answers_are_first_runs answered rfl
  rw [recognize?_consecutive (by decide)] at recognized
  obtain ⟨rfl, rfl, rfl⟩ : "tags" = table ∧ "tag" = field ∧ "tag" = output := by simpa using recognized
  obtain rfl : Sample.tags = relation := Option.some_inj.mp known
  exact ⟨answered, rfl, found, rows, inOrder, once⟩

end Adjacency

end QueryShapes

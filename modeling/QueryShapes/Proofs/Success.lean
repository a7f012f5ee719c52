/-!
# Computations that succeed or fail

- `bind_eq_ok_iff`: two steps succeed when the first does and the second does on its value.
- `exists_pairs_of_mapM`: a computation that succeeds on every item couples items with values.
- `error_of_mapM` and `mapM_fails`: a computation over items fails when it does on one of them.
-/

namespace QueryShapes

variable {ε α β : Type}

theorem bind_eq_ok_iff {x : Except ε α} {f : α → Except ε β} {b : β} :
    x >>= f = .ok b ↔ ∃ a, x = .ok a ∧ f a = .ok b := by
  cases x <;> simp [bind, Except.bind]

theorem map_eq_ok_iff {x : Except ε α} {f : α → β} {b : β} :
    x.map f = .ok b ↔ ∃ a, x = .ok a ∧ f a = b := by
  cases x <;> simp [Except.map]

theorem ok_of_mapError {ε' : Type} {x : Except ε α} {f : ε → ε'} {a : α}
    (h : x.mapError f = .ok a) : x = .ok a := by
  cases x with
  | error e => cases h
  | ok b => exact congrArg Except.ok (Except.ok.inj h)

theorem ok_of_toOption {x : Except ε α} {a : α} (h : x.toOption = some a) : x = .ok a := by
  cases x with
  | error e => cases h
  | ok b => exact congrArg Except.ok (Option.some_inj.mp h)

theorem exists_ok_some (x : Except ε (Option α)) (h : x.toOption.join.isSome = true) :
    ∃ a, x = .ok (some a) := by
  match x, h with
  | .ok (some a), _ => exact ⟨a, rfl⟩

theorem exists_pairs_of_mapM {f : α → Except ε β} {items : List α} {values : List β}
    (h : items.mapM f = .ok values) :
    ∃ pairs : List (α × β), pairs.map Prod.fst = items ∧ pairs.map Prod.snd = values ∧
      ∀ pair ∈ pairs, f pair.1 = .ok pair.2 := by
  induction items generalizing values with
  | nil =>
    obtain rfl := Except.ok.inj h
    exact ⟨[], rfl, rfl, by simp⟩
  | cons a items ih =>
    rw [List.mapM_cons] at h
    obtain ⟨b, hb, h⟩ := bind_eq_ok_iff.mp h
    obtain ⟨bs, hbs, h⟩ := bind_eq_ok_iff.mp h
    obtain rfl := Except.ok.inj h
    obtain ⟨pairs, rfl, rfl, hpairs⟩ := ih hbs
    exact ⟨(a, b) :: pairs, rfl, rfl, by simpa [hb] using hpairs⟩

theorem mem_of_mapM {f : α → Except ε β} {items : List α} {values : List β} {b : β}
    (h : items.mapM f = .ok values) (hb : b ∈ values) : ∃ a ∈ items, f a = .ok b := by
  obtain ⟨pairs, rfl, rfl, each⟩ := exists_pairs_of_mapM h
  obtain ⟨pair, member, rfl⟩ := List.mem_map.mp hb
  exact ⟨pair.1, List.mem_map_of_mem member, each pair member⟩

theorem mapM_eq_ok {f : α → Except ε β} {g : α → β} {items : List α}
    (each : ∀ a ∈ items, f a = .ok (g a)) : items.mapM f = .ok (items.map g) := by
  induction items with
  | nil => rfl
  | cons a items ih =>
    have rest := ih fun b hb => each b (List.mem_cons_of_mem _ hb)
    rw [List.mapM_cons, each a List.mem_cons_self, rest]
    rfl

theorem mapM_congr {f g : α → Except ε β} {items : List α} (each : ∀ a ∈ items, f a = g a) :
    items.mapM f = items.mapM g := by
  induction items with
  | nil => rfl
  | cons a items ih =>
    have rest := ih fun b hb => each b (List.mem_cons_of_mem _ hb)
    rw [List.mapM_cons, List.mapM_cons, each a List.mem_cons_self, rest]

/-! ## Failing -/

theorem bind_eq_error_iff {x : Except ε α} {f : α → Except ε β} {e : ε} :
    x >>= f = .error e ↔ x = .error e ∨ ∃ a, x = .ok a ∧ f a = .error e := by
  cases x <;> simp [bind, Except.bind]

theorem map_eq_error_iff {x : Except ε α} {f : α → β} {e : ε} :
    x.map f = .error e ↔ x = .error e := by
  cases x <;> simp [Except.map]

theorem exists_error (x : Except ε α) (h : x.toOption.isSome = false) : ∃ e, x = .error e := by
  match x, h with
  | .error e, _ => exact ⟨e, rfl⟩

theorem error_of_mapM {f : α → Except ε β} {items : List α} {e : ε}
    (h : items.mapM f = .error e) : ∃ a ∈ items, f a = .error e := by
  induction items with
  | nil => cases h
  | cons a items ih =>
    rw [List.mapM_cons] at h
    obtain here | ⟨_, _, h⟩ := bind_eq_error_iff.mp h
    · exact ⟨a, List.mem_cons_self, here⟩
    · obtain later | ⟨_, _, h⟩ := bind_eq_error_iff.mp h
      · obtain ⟨b, hb, fails⟩ := ih later
        exact ⟨b, List.mem_cons_of_mem _ hb, fails⟩
      · cases h

theorem mapM_fails {f : α → Except ε β} {items : List α} {a : α} {e : ε} (ha : a ∈ items)
    (fails : f a = .error e) : ∃ e', items.mapM f = .error e' := by
  cases result : items.mapM f with
  | error e' => exact ⟨e', rfl⟩
  | ok values =>
    obtain ⟨pairs, rfl, _, each⟩ := exists_pairs_of_mapM result
    obtain ⟨pair, hpair, rfl⟩ := List.mem_map.mp ha
    cases fails.symm.trans (each pair hpair)

end QueryShapes

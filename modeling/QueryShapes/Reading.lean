/-!
# Reading rules

A rule takes something off the front of a list, or refuses it. Rules read tokens as well as
characters.

- `Reading`: a rule, which leaves an end of the list that it is given.
- `attempt`: a rule that may be refused, which then takes nothing.
- `separated`: one or more items with separators between them.
- `wholly?`: a rule for a whole list.
- `run?_bind_eq_some`: two rules in a row read what the first one takes and then what the second one
  takes of the rest.
-/

namespace QueryShapes

/-- What a rule makes of a list and what it leaves of it. -/
structure Reading (τ α : Type) where
  run? : List τ → Option (α × List τ)
  leaves_suffix : ∀ {items : List τ} {a : α} {rest : List τ},
    run? items = some (a, rest) → rest <:+ items

namespace Reading

variable {τ α β : Type}

instance : Monad (Reading τ) where
  pure a := {
    run? := fun items => some (a, items)
    leaves_suffix := by
      rintro items _ _ ⟨⟩
      exact List.suffix_refl items }
  bind rule next := {
    run? := fun items => (rule.run? items).bind fun (a, rest) => (next a).run? rest
    leaves_suffix := by
      intro items b rest h
      obtain ⟨⟨a, middle⟩, first, second⟩ := Option.bind_eq_some_iff.mp h
      exact ((next a).leaves_suffix second).trans (rule.leaves_suffix first) }

@[simp]
theorem run?_pure (a : α) (items : List τ) : (pure a : Reading τ α).run? items = some (a, items) :=
  rfl

theorem run?_bind (rule : Reading τ α) (next : α → Reading τ β) (items : List τ) :
    (rule >>= next).run? items = (rule.run? items).bind fun (a, rest) => (next a).run? rest :=
  rfl

theorem run?_bind_eq_some {rule : Reading τ α} {next : α → Reading τ β} {items rest : List τ}
    {b : β} : (rule >>= next).run? items = some (b, rest) ↔
      ∃ a middle, rule.run? items = some (a, middle) ∧ (next a).run? middle = some (b, rest) := by
  simp [run?_bind, Option.bind_eq_some_iff]

/-! ## Single items -/

def refuse : Reading τ α where
  run? _ := none
  leaves_suffix h := nomatch h

/-- A rule that takes nothing. -/
def look (view : List τ → α) : Reading τ α where
  run? items := some (view items, items)
  leaves_suffix := by
    rintro items _ _ ⟨⟩
    exact List.suffix_refl items

/-- The item at a distance, without taking it. -/
def ahead? (distance : Nat) : Reading τ (Option τ) := look (·[distance]?)

def peek? : Reading τ (Option τ) := ahead? 0

def next : Reading τ τ where
  run?
    | [] => none
    | first :: rest => some (first, rest)
  leaves_suffix {items _ _} h := by
    cases items with
    | nil => cases h
    | cons first rest =>
      cases h
      exact List.suffix_cons _ _

/-- Takes the item if it passes the test, and says whether it did. -/
def takeIf (test : τ → Bool) : Reading τ Bool where
  run?
    | [] => some (false, [])
    | first :: rest => if test first then some (true, rest) else some (false, first :: rest)
  leaves_suffix {items _ _} h := by
    cases items with
    | nil =>
      cases h
      exact List.suffix_refl []
    | cons first rest =>
      dsimp only at h
      split at h <;> cases h
      · exact List.suffix_cons _ _
      · exact List.suffix_refl _

/-- Takes the items up to the first that fails the test. -/
def takeWhile (test : τ → Bool) : Reading τ (List τ) where
  run? items := some (items.takeWhile test, items.dropWhile test)
  leaves_suffix := by
    rintro items _ _ ⟨⟩
    exact List.dropWhile_suffix test

/-! ## Rules made of rules -/

def attempt (rule : Reading τ α) : Reading τ (Option α) where
  run? items := match rule.run? items with
    | some (a, rest) => some (some a, rest)
    | none => some (none, items)
  leaves_suffix {items _ _} h := by
    split at h <;> cases h
    · rename_i taken
      exact rule.leaves_suffix taken
    · exact List.suffix_refl items

/-- What a rule makes of what lies ahead, without taking it. -/
def foresee (rule : Reading τ α) : Reading τ (Option α) :=
  look fun items => (rule.run? items).map Prod.fst

/-- A rule that depends on the number of items ahead. -/
def sized (rule : Nat → Reading τ α) : Reading τ α where
  run? items := (rule items.length).run? items
  leaves_suffix h := (rule _).leaves_suffix h

/-- A rule that is made when it is used. -/
def delayed (rule : Unit → Reading τ α) : Reading τ α where
  run? items := (rule ()).run? items
  leaves_suffix h := (rule ()).leaves_suffix h

/-- Refuses unless the rule says yes. -/
def require (rule : Reading τ Bool) : Reading τ Unit := do
  if ← rule then return () else refuse

/-- A rule that applies where a mark stands in front. -/
def after? (mark : Reading τ Bool) (rule : Reading τ α) : Reading τ (Option α) := do
  if ← mark then return some (← rule) else return none

/-- One or more items, at most `fuel` of them. -/
def separatedWithin (separator : Reading τ Bool) (item : Reading τ α) :
    Nat → Reading τ (List α)
  | 0 => refuse
  | fuel + 1 => do
    let first ← item
    if ← separator then
      let others ← separatedWithin separator item fuel
      return first :: others
    else return [first]

/-- One or more items with separators between them. -/
def separated (separator : Reading τ Bool) (item : Reading τ α) : Reading τ (List α) :=
  sized fun length => separatedWithin separator item (length + 1)

/-- Repeats a rule that takes something until it has nothing more to give. -/
def repeatWithin (rule : Reading τ (Option α)) : Nat → Reading τ (List α)
  | 0 => return []
  | fuel + 1 => do
    match ← rule with
    | some a => return a :: (← repeatWithin rule fuel)
    | none => return []

def repeated (rule : Reading τ (Option α)) : Reading τ (List α) :=
  sized fun length => repeatWithin rule (length + 1)

/-- What a rule makes of a list that it takes all of. -/
def wholly? (rule : Reading τ α) (items : List τ) : Option α :=
  match rule.run? items with
  | some (a, []) => some a
  | _ => none

end Reading

end QueryShapes

import QueryShapes.Value

/-!
# Texts of table cells

- `IsCell`: a text without tabs and line breaks; numbers are always written as such a text.
- `intercalate_inj`: as many texts, joined by a separator that the ones do not contain, are the same
  as the others.
-/

namespace QueryShapes

/-- The text has no tab and no line break. -/
def IsCell (text : String) : Prop := ∀ c ∈ text.toList, c ≠ '\t' ∧ c ≠ '\n'

instance (text : String) : Decidable (IsCell text) :=
  List.decidableBAll (fun c => c ≠ '\t' ∧ c ≠ '\n') text.toList

namespace IsCell

theorem append {a b : String} (ha : IsCell a) (hb : IsCell b) : IsCell (a ++ b) := by
  intro c hc
  rw [String.toList_append] at hc
  exact (List.mem_append.mp hc).elim (ha c) (hb c)

theorem ofList_append {a b : List Char} (ha : IsCell (String.ofList a)) (hb : IsCell (String.ofList b)) :
    IsCell (String.ofList (a ++ b)) := by
  rw [String.ofList_append]
  exact ha.append hb

theorem of_subset {a b : List Char} (h : IsCell (String.ofList b)) (within : a ⊆ b) :
    IsCell (String.ofList a) := by
  intro c hc
  rw [String.toList_ofList] at hc
  exact h c (String.toList_ofList ▸ within hc)

theorem replicate (n : Nat) {c : Char} (h : c ≠ '\t' ∧ c ≠ '\n') :
    IsCell (String.ofList (List.replicate n c)) := by
  intro d hd
  rw [String.toList_ofList] at hd
  exact List.eq_of_mem_replicate hd ▸ h

/-! ## Numbers -/

theorem toDigits (n : Nat) : IsCell (String.ofList (Nat.toDigits 10 n)) := by
  intro c hc
  rw [String.toList_ofList] at hc
  have digit : c.isDigit := Nat.isDigit_of_mem_toDigits (b := 10) (by decide) (by decide) hc
  constructor <;> rintro rfl <;> cases digit

theorem nat (n : Nat) : IsCell (toString n) := toDigits n

theorem int (n : Int) : IsCell (toString n) := by
  cases n with
  | ofNat n => exact nat n
  | negSucc n => exact append (a := "-") (by decide) (nat (n + 1))

theorem scientific (digits : Nat) (point : Int) :
    IsCell (Layout.scientific (Nat.toDigits 10 digits) point) := by
  have cell := toDigits digits
  refine append (append (append (append (cell.of_subset (List.take_subset _ _)) ?fraction) (b := "e")
    (by decide)) ?sign) (nat _)
  case fraction =>
    split
    · rename_i d rest shown
      exact append (a := ".") (by decide) (of_subset (b := _ :: d :: rest) (shown ▸ cell) (by simp))
    · decide
  case sign => split <;> decide

theorem positional {layout : Layout} (mark : IsCell layout.wholeMark) (digits : Nat) (point : Int) :
    IsCell (layout.positional (Nat.toDigits 10 digits) point) := by
  have cell := toDigits digits
  rw [Layout.positional]
  split
  · exact append (a := "0.") (by decide) (ofList_append (replicate _ (by decide)) cell)
  split
  · exact append (ofList_append cell (replicate _ (by decide))) mark
  · exact append (append (b := ".") (cell.of_subset (List.take_subset _ _)) (by decide))
      (cell.of_subset (List.drop_subset _ _))

/-- Besides the mark of a layout there are only signs, digits, a point and an exponent. -/
theorem write {layout : Layout} (mark : IsCell layout.wholeMark) (x : Double) :
    IsCell (layout.write x) := by
  have sign : IsCell (if x.negative then "-" else "") := by
    split <;> decide
  rw [Layout.write]
  dsimp only
  split
  · exact (sign.append (b := "0") (by decide)).append mark
  · refine sign.append ?_
    split
    · exact positional mark x.shortest.digits _
    · exact scientific x.shortest.digits _

theorem double (x : Double) : IsCell x.text := by
  unfold Double.text
  split
  · decide
  split
  · exact write (by decide) x
  split <;> decide

/-- Only texts and dates can bring tabs and line breaks into a table. -/
theorem display {value : Value} (plain : ∀ text, value.text? = some text → IsCell text) :
    IsCell value.display := by
  cases value with
  | null => decide
  | integer n => exact int n.toInt
  | decimal x => exact double x
  | text s | date s => exact plain s rfl
  | boolean b => cases b <;> decide

end IsCell

/-! ## Joined texts -/

theorem count_intercalate (sep : Char) (first : List Char) (rest : List (List Char)) :
    ([sep].intercalate (first :: rest)).count sep =
      rest.length + (first :: rest).flatten.count sep := by
  induction rest generalizing first with
  | nil => simp
  | cons second rest ih =>
    rw [List.intercalate_cons_cons, List.count_append, List.count_append, ih]
    simp only [List.flatten_cons, List.count_append, List.length_cons, List.count_singleton_self]
    omega

/-- As many texts, of which the ones do not contain the separator that joins them. -/
theorem intercalate_inj {sep : Char} {xs ys : List (List Char)} (length : xs.length = ys.length)
    (free : ∀ x ∈ xs, sep ∉ x) (h : [sep].intercalate xs = [sep].intercalate ys) : xs = ys := by
  cases ys with
  | nil => exact List.length_eq_zero_iff.mp length
  | cons y ys =>
    obtain ⟨x, xs, rfl⟩ := List.exists_cons_of_length_eq_add_one length
    -- The joints alone use up all separators.
    have none : (y :: ys).flatten.count sep = 0 := by
      have here : (x :: xs).flatten.count sep = 0 := List.count_eq_zero.mpr (by simpa using free)
      have total := congrArg (List.count sep) h
      rw [count_intercalate, count_intercalate, here] at total
      rw [List.length_cons, List.length_cons] at length
      omega
    have free' : ∀ y' ∈ y :: ys, sep ∉ y' := by
      intro y' hy' hsep
      exact List.count_eq_zero.mp none (List.mem_flatten.mpr ⟨y', hy', hsep⟩)
    rw [← List.splitOn_intercalate sep free (List.cons_ne_nil x xs), h,
      List.splitOn_intercalate sep free' (List.cons_ne_nil y ys)]

/-- The same for texts. -/
theorem joined_inj {mark : String} {sep : Char} (single : mark.toList = [sep]) {xs ys : List String}
    (length : xs.length = ys.length) (free : ∀ x ∈ xs, sep ∉ x.toList)
    (h : mark.intercalate xs = mark.intercalate ys) : xs = ys := by
  have chars := congrArg String.toList h
  rw [String.toList_intercalate, String.toList_intercalate, single] at chars
  have lists := intercalate_inj (by simpa using length) (by simpa using free) chars
  exact (List.map_inj_right fun _ _ => String.toList_inj.mp).mp lists

theorem mem_intercalate {c : Char} {sep : List Char} {xs : List (List Char)}
    (h : c ∈ sep.intercalate xs) : c ∈ sep ∨ ∃ x ∈ xs, c ∈ x := by
  induction xs with
  | nil => cases h
  | cons x xs ih =>
    cases xs with
    | nil => exact .inr ⟨x, List.mem_cons_self, by simpa using h⟩
    | cons =>
      rw [List.intercalate_cons_cons, List.mem_append, List.mem_append] at h
      obtain (here | joint) | later := h
      · exact .inr ⟨x, List.mem_cons_self, here⟩
      · exact .inl joint
      · exact (ih later).imp_right fun ⟨y, hy, found⟩ => ⟨y, List.mem_cons_of_mem _ hy, found⟩

end QueryShapes

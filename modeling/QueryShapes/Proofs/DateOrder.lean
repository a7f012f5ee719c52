import Mathlib.Data.List.Forall2
import Mathlib.Data.String.Basic
import QueryShapes.Evaluation.Tuple
import QueryShapes.Store.Sample

/-!
# The order of dates

Date texts are compared character by character, and their digits may be of any script.

- `number`, `dateNumbers?`: the numbers that digits write, and those of a date text.
- `compare_numbers`: numbers of equally many digits order as their digits do, one after another.
- `order_dateNumbers`: so dates order by year, month and day as all their digits do.
- `InStep`: where two texts first differ, the characters are ordered as the digits from there on.
- `comparesAs_dateNumbers_iff`: two dates are compared by year, month and day exactly if they are in
  step, as they are if all their digits are of one script.
-/

namespace QueryShapes

/-! ## Texts compare as lists of characters -/

theorem compare_chars_lt_iff {cs ds : List Char} : compare cs ds = .lt ↔ cs < ds := by
  induction cs generalizing ds with
  | nil => cases ds <;> simp
  | cons c cs ih =>
    cases ds with
    | nil => simp
    | cons d ds =>
      rw [List.compare_cons_cons, Ordering.then_eq_lt, List.cons_lt_cons_iff, ih, compare_lt_iff_lt,
        compare_eq_iff_eq]

theorem compare_toList (s t : String) : compare s t = compare s.toList t.toList := by
  have below (s t : String) : compare s t = .lt ↔ compare s.toList t.toList = .lt := by
    rw [compare_lt_iff_lt, compare_chars_lt_iff, String.lt_iff_toList_lt]
  cases order : compare s.toList t.toList with
  | lt => exact (below s t).mpr order
  | gt =>
    rw [Std.OrientedCmp.gt_iff_lt] at order ⊢
    exact (below t s).mpr order
  | eq => rw [String.toList_inj.mp (Std.LawfulEqCmp.eq_of_compare order), Std.compare_self]

/-- Characters before the first difference do not matter. -/
theorem compare_of_differ (before : List Char) {c d : Char} (differ : c ≠ d) (after after' : List Char) :
    compare (before ++ c :: after) (before ++ d :: after') = compare c d := by
  induction before with
  | nil =>
    rw [List.nil_append, List.nil_append, List.compare_cons_cons]
    cases order : compare c d with
    | lt => rfl
    | gt => rfl
    | eq => exact absurd (compare_eq_iff_eq.mp order) differ
  | cons b before ih =>
    rw [List.cons_append, List.cons_append, List.compare_cons_cons, ih, Std.compare_self]
    rfl

theorem exists_differ {cs ds : List Char} (size : cs.length = ds.length) (differ : cs ≠ ds) :
    ∃ before c d after after', cs = before ++ c :: after ∧ ds = before ++ d :: after' ∧ c ≠ d := by
  induction cs generalizing ds with
  | nil => exact absurd (List.length_eq_zero_iff.mp size.symm).symm differ
  | cons c cs ih =>
    obtain ⟨d, ds, rfl⟩ := List.exists_cons_of_length_eq_add_one size.symm
    by_cases same : c = d
    · subst same
      obtain ⟨before, x, y, after, after', rfl, rfl, apart⟩ :=
        ih (Nat.succ.inj size) fun equal => differ (congrArg _ equal)
      exact ⟨c :: before, x, y, after, after', rfl, rfl, apart⟩
    · exact ⟨[], c, d, cs, ds, rfl, rfl, same⟩

namespace Text

/-! ## Digits and the numbers they write -/

/-- The value of a digit of any script; other characters count as zero. -/
def digitValue (c : Char) : Nat := (digitValue? c).getD 0

theorem digitValue_lt (c : Char) : digitValue c < 10 := by
  unfold digitValue digitValue?
  cases digits.find? fun span => span.1 ≤ c.toNat && c.toNat ≤ span.2 with
  | none => exact Nat.zero_lt_succ 9
  | some span => exact Nat.mod_lt _ (by decide)

/-- The number that digits write, most significant first. -/
def number (digits : List Char) : Nat := digits.foldl (fun high c => 10 * high + digitValue c) 0

/-- The order of the digits of two texts, one after another. -/
def digitOrder (cs ds : List Char) : Ordering := compare (cs.map digitValue) (ds.map digitValue)

theorem digitOrder_cons (c d : Char) (cs ds : List Char) : digitOrder (c :: cs) (d :: ds) =
    (compare (digitValue c) (digitValue d)).then (digitOrder cs ds) :=
  List.compare_cons_cons

theorem digitOrder_append {cs ds : List Char} (size : cs.length = ds.length) (cs' ds' : List Char) :
    digitOrder (cs ++ cs') (ds ++ ds') = (digitOrder cs ds).then (digitOrder cs' ds') := by
  induction cs generalizing ds with
  | nil =>
    obtain rfl := List.length_eq_zero_iff.mp size.symm
    rfl
  | cons c cs ih =>
    obtain ⟨d, ds, rfl⟩ := List.exists_cons_of_length_eq_add_one size.symm
    rw [List.cons_append, List.cons_append, digitOrder_cons, digitOrder_cons,
      ih (Nat.succ.inj size), Ordering.then_assoc]

theorem digitOrder_self (cs : List Char) : digitOrder cs cs = .eq :=
  Std.compare_self

/-- The separators of dates are the same. -/
theorem digitOrder_hyphen (cs ds : List Char) :
    digitOrder ('-' :: cs) ('-' :: ds) = digitOrder cs ds := by
  rw [digitOrder_cons, Std.compare_self]
  rfl

theorem compare_tens {a b x y : Nat} (hx : x < 10) (hy : y < 10) :
    compare (10 * a + x) (10 * b + y) = (compare a b).then (compare x y) := by
  cases order : compare a b with
  | lt =>
    rw [Nat.compare_eq_lt] at order
    exact Nat.compare_eq_lt.mpr (by omega)
  | gt =>
    rw [Nat.compare_eq_gt] at order
    exact Nat.compare_eq_gt.mpr (by omega)
  | eq =>
    obtain rfl := Nat.compare_eq_eq.mp order
    simp [Nat.compare_eq_ite_lt]

/-- Numbers of equally many digits order as their digits, also behind digits that were read before. -/
theorem compare_numbers {cs ds : List Char} (size : cs.length = ds.length) :
    compare (number cs) (number ds) = digitOrder cs ds := by
  suffices behind : ∀ a b : Nat, compare (cs.foldl (fun high c => 10 * high + digitValue c) a)
      (ds.foldl (fun high c => 10 * high + digitValue c) b) = (compare a b).then (digitOrder cs ds) from
    behind 0 0
  induction cs generalizing ds with
  | nil =>
    obtain rfl := List.length_eq_zero_iff.mp size.symm
    intro a b
    rw [digitOrder_self]
    cases order : compare a b <;> exact order
  | cons c cs ih =>
    obtain ⟨d, ds, rfl⟩ := List.exists_cons_of_length_eq_add_one size.symm
    intro a b
    rw [List.foldl_cons, List.foldl_cons, ih (Nat.succ.inj size),
      compare_tens (digitValue_lt c) (digitValue_lt d), digitOrder_cons, Ordering.then_assoc]

/-! ## Dates -/

/-- Year, month and day. -/
structure DateNumbers where
  year : Nat
  month : Nat
  day : Nat
deriving DecidableEq

/-- By year, then by month, then by day. -/
def DateNumbers.order (a b : DateNumbers) : Ordering :=
  (compare a.year b.year).then ((compare a.month b.month).then (compare a.day b.day))

/-- The numbers that a date text writes. -/
def dateNumbers? (text : String) : Option DateNumbers :=
  (dateFields? text.toList).map fun (year, month, day) => ⟨number year, number month, number day⟩

/-- A date text is made of three fields of digits. -/
structure IsDate (text : String) (year month day : List Char) : Prop where
  characters : text.toList = year ++ '-' :: (month ++ '-' :: day)
  lengths : year.length = 4 ∧ month.length = 2 ∧ day.length = 2
  digits : ∀ field ∈ [year, month, day], ∀ c ∈ field, isDigit c
  numbers : dateNumbers? text = some ⟨number year, number month, number day⟩

theorem exists_isDate {text : String} (h : isDateText text) :
    ∃ year month day, IsDate text year month day := by
  unfold isDateText at h
  split at h
  · rename_i year month day fields
    have shape := fields
    unfold dateFields? at shape
    split at shape
    · rename_i characters
      cases shape
      refine ⟨[_, _, _, _], [_, _], [_, _], characters, ⟨rfl, rfl, rfl⟩, ?_, ?_⟩
      · simpa [and_assoc] using h
      · rw [dateNumbers?, fields]
        rfl
    · cases shape
  · cases h

section
variable {s t : String} {year month day year' month' day' : List Char}

/-- Dates order by year, month and day as all their digits do. -/
theorem order_dateNumbers (hs : IsDate s year month day) (ht : IsDate t year' month' day') :
    DateNumbers.order ⟨number year, number month, number day⟩
      ⟨number year', number month', number day'⟩ = digitOrder s.toList t.toList := by
  obtain ⟨years, months, days⟩ := hs.lengths
  obtain ⟨years', months', days'⟩ := ht.lengths
  rw [hs.characters, ht.characters, digitOrder_append (by omega), digitOrder_hyphen, digitOrder_append (by omega),
    digitOrder_hyphen, DateNumbers.order, compare_numbers (by omega), compare_numbers (by omega),
    compare_numbers (by omega)]

/-- The two are the same separator, or two digits. -/
def Opposite (c d : Char) : Prop := c = d ∨ isDigit c ∧ isDigit d

theorem opposite_of_digits {cs ds : List Char} (size : cs.length = ds.length) (hcs : ∀ c ∈ cs, isDigit c)
    (hds : ∀ d ∈ ds, isDigit d) : List.Forall₂ Opposite cs ds := by
  refine List.forall₂_iff_zip.mpr ⟨size, fun {c d} pair => .inr ⟨?_, ?_⟩⟩
  · exact hcs c (List.of_mem_zip pair).1
  · exact hds d (List.of_mem_zip pair).2

theorem opposite_dates (hs : IsDate s year month day) (ht : IsDate t year' month' day') :
    List.Forall₂ Opposite s.toList t.toList := by
  obtain ⟨years, months, days⟩ := hs.lengths
  obtain ⟨years', months', days'⟩ := ht.lengths
  have digits := hs.digits
  have digits' := ht.digits
  simp only [List.forall_mem_cons] at digits digits'
  rw [hs.characters, ht.characters]
  refine List.rel_append (opposite_of_digits (by omega) digits.1 digits'.1) (.cons (.inl rfl) ?_)
  refine List.rel_append (opposite_of_digits (by omega) digits.2.1 digits'.2.1) (.cons (.inl rfl) ?_)
  exact opposite_of_digits (by omega) digits.2.2.1 digits'.2.2.1

end

/-! ## Texts in step -/

/-- Where the texts first differ, the characters stand in the order of the digits from there on. -/
def InStep (s t : String) : Prop :=
  ∀ before c d after after', s.toList = before ++ c :: after → t.toList = before ++ d :: after' →
    c ≠ d → compare c d = digitOrder (c :: after) (d :: after')

/-- Every digit of the text is one of the ten from `first` on. -/
def WrittenFrom (first : Nat) (text : String) : Prop :=
  ∀ c ∈ text.toList, isDigit c → c.toNat = first + digitValue c

instance (first : Nat) (text : String) : Decidable (WrittenFrom first text) :=
  List.decidableBAll (fun c => isDigit c → c.toNat = first + digitValue c) text.toList

theorem compare_eq_digitOrder_iff {s t : String} (size : s.toList.length = t.toList.length) :
    compare s t = digitOrder s.toList t.toList ↔ InStep s t := by
  rw [compare_toList]
  have digits (before c d after after') :
      digitOrder (before ++ c :: after) (before ++ d :: after') = digitOrder (c :: after) (d :: after') := by
    rw [digitOrder_append rfl, digitOrder_self]
    rfl
  constructor
  · intro exact before c d after after' hs ht differ
    rwa [hs, ht, compare_of_differ before differ, digits] at exact
  · intro step
    by_cases same : s.toList = t.toList
    · rw [same, digitOrder_self, Std.compare_self]
    · obtain ⟨before, c, d, after, after', hs, ht, differ⟩ := exists_differ size same
      rw [hs, ht, compare_of_differ before differ, digits, step before c d after after' hs ht differ]

theorem compare_of_writtenFrom {first : Nat} {c d : Char} (hc : c.toNat = first + digitValue c)
    (hd : d.toNat = first + digitValue d) : compare c d = compare (digitValue c) (digitValue d) := by
  cases order : compare (digitValue c) (digitValue d) with
  | lt =>
    rw [Nat.compare_eq_lt] at order
    have below : c.toNat < d.toNat := by omega
    exact compare_lt_iff_lt.mpr below
  | gt =>
    rw [Nat.compare_eq_gt] at order
    have above : d.toNat < c.toNat := by omega
    exact compare_gt_iff_gt.mpr above
  | eq =>
    rw [Nat.compare_eq_eq] at order
    exact compare_eq_iff_eq.mpr (Char.toNat_inj.mp (by omega))

theorem inStep_of_writtenFrom {s t : String} (opposite : List.Forall₂ Opposite s.toList t.toList)
    {first : Nat} (hs : WrittenFrom first s) (ht : WrittenFrom first t) : InStep s t := by
  intro before c d after after' text text' differ
  have member : c ∈ s.toList := by simp [text]
  have member' : d ∈ t.toList := by simp [text']
  have both : Opposite c d := by
    refine (List.forall₂_iff_zip.mp opposite).2 ?_
    rw [text, text', List.zip_append rfl]
    exact List.mem_append_right _ List.mem_cons_self
  obtain ⟨digit, digit'⟩ := both.resolve_left differ
  have order := compare_of_writtenFrom (hs c member digit) (ht d member' digit')
  rw [digitOrder_cons, ← order]
  cases characters : compare c d with
  | lt => rfl
  | gt => rfl
  | eq => exact absurd (compare_eq_iff_eq.mp characters) differ

end Text

namespace Value

/-- Wherever the first value is compared with the second, the outcome is `o`: when they are compared or
sorted, and in a condition of a filter or a join. -/
structure ComparesAs (v w : Value) (o : Ordering) : Prop where
  compare? : v.compare? w = some o
  sortOrder : v.sortOrder w = o
  satisfies : ∀ (t : Tuple) (p : Predicate), t.evaluate? p.left = some v →
    t.evaluate? p.right = some w → t.satisfies p = p.op.holds o

theorem comparesAs_iff {v w : Value} {s t : String} (hv : v.text? = some s) (hw : w.text? = some t)
    {o : Ordering} : v.ComparesAs w o ↔ compare s t = o := by
  have numbers : v.number? = none ∧ w.number? = none := by
    cases v <;> cases w <;> simp_all [text?, number?]
  have compared : v.compare? w = some (compare s t) := by
    simp [Value.compare?, numbers, hv, hw]
  constructor
  · intro as
    exact Option.some_inj.mp (compared.symm.trans as.compare?)
  · rintro rfl
    refine ⟨compared, by simp [Value.sortOrder, numbers, compared], ?_⟩
    intro tuple p left right
    simp [Tuple.satisfies, left, right, compared]

/-- Two dates are compared by year, month and day exactly if their texts are in step. They are if all
digits of both are of one script. -/
theorem comparesAs_dateNumbers_iff {s t : String} (hs : Text.isDateText s) (ht : Text.isDateText t) :
    ∃ a b, Text.dateNumbers? s = some a ∧ Text.dateNumbers? t = some b ∧
      (∀ v w : Value, v.text? = some s → w.text? = some t →
        (v.ComparesAs w (a.order b) ↔ Text.InStep s t)) ∧
      ∀ first, Text.WrittenFrom first s → Text.WrittenFrom first t → Text.InStep s t := by
  obtain ⟨year, month, day, date⟩ := Text.exists_isDate hs
  obtain ⟨year', month', day', date'⟩ := Text.exists_isDate ht
  refine ⟨_, _, date.numbers, date'.numbers, fun v w hv hw => ?_, fun first => ?_⟩
  · have size : s.toList.length = t.toList.length := by
      rw [Text.isDateText_length hs, Text.isDateText_length ht]
    rw [comparesAs_iff hv hw, Text.order_dateNumbers date date', Text.compare_eq_digitOrder_iff size]
  · exact Text.inStep_of_writtenFrom (Text.opposite_dates date date')

/-- Two dates in Arabic digits. -/
theorem comparesAs_dateNumbers_iff_arabic :
    Text.isDateText "٢٠٢٤-٠١-٠٩" ∧ Text.isDateText "٢٠٢٤-٠١-١٠" ∧
    Text.WrittenFrom 0x660 "٢٠٢٤-٠١-٠٩" ∧ Text.WrittenFrom 0x660 "٢٠٢٤-٠١-١٠" ∧
    (date "٢٠٢٤-٠١-٠٩").ComparesAs (date "٢٠٢٤-٠١-١٠") .lt := by
  have first : Text.isDateText "٢٠٢٤-٠١-٠٩" := by decide
  have second : Text.isDateText "٢٠٢٤-٠١-١٠" := by decide
  have script : Text.WrittenFrom 0x660 "٢٠٢٤-٠١-٠٩" := by decide
  have script' : Text.WrittenFrom 0x660 "٢٠٢٤-٠١-١٠" := by decide
  obtain ⟨a, b, numbers, numbers', exact, step⟩ := comparesAs_dateNumbers_iff first second
  obtain rfl : (⟨2024, 1, 9⟩ : Text.DateNumbers) = a := Option.some_inj.mp (by rw [← numbers]; decide)
  obtain rfl : (⟨2024, 1, 10⟩ : Text.DateNumbers) = b := Option.some_inj.mp (by rw [← numbers']; decide)
  exact ⟨first, second, script, script', (exact _ _ rfl rfl).mpr (step _ script script')⟩

/-- A date of 1999 in Arabic digits comes after one of 2024 in the digits of ASCII. -/
theorem dates_out_of_step :
    Text.isDateText "١٩٩٩-01-01" = true ∧ Text.isDateText "2024-01-01" = true ∧
    Text.dateNumbers? "١٩٩٩-01-01" = some ⟨1999, 1, 1⟩ ∧
    Text.dateNumbers? "2024-01-01" = some ⟨2024, 1, 1⟩ ∧
    Text.DateNumbers.order ⟨1999, 1, 1⟩ ⟨2024, 1, 1⟩ = .lt ∧
    (date "١٩٩٩-01-01").compare? (date "2024-01-01") = some .gt ∧
    (date "١٩٩٩-01-01").sortOrder (date "2024-01-01") = .gt := by
  decide

end Value

end QueryShapes

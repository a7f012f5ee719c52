import QueryShapes.Text.Blank
import QueryShapes.Text.Letter
import QueryShapes.Text.Lowercase

/-!
# Lower case of words

- `forall_ascii`: what holds of all characters of ASCII, checked one by one.
- `lowerChar_settled`: no lower-case character is changed by lowering it again.
- `mem_lowerAfter`: what is lowered is settled, and lowering makes no blanks and no semicolons.
- `lower_lower`: so lower case is kept by lowering it again.
- `lowerAfter_append_space`: the form of a sigma depends on its own word, so words are lowered apart.
-/

namespace QueryShapes

/-- What holds of all characters of ASCII holds of any one of them. -/
theorem forall_ascii {p : Char → Prop} (h : ∀ n < 128, p (Char.ofNat n)) {c : Char}
    (hc : c.toNat < 128) : p c := by
  have same : Char.ofNat c.toNat = c := Char.ofNat_toNat c
  exact same ▸ h c.toNat hc

theorem ascii_of_isAlphanum {c : Char} (h : c.isAlphanum = true) : c.toNat < 128 := by
  obtain alpha | digit := Bool.or_eq_true _ _ |>.mp h
  · have ranges := Text.ranges_of_isAlpha c alpha
    omega
  · simp only [Char.isDigit, Bool.and_eq_true, decide_eq_true_eq, UInt32.le_iff_toNat_le] at digit
    exact Nat.lt_of_le_of_lt digit.2 (by decide)

theorem ascii_of_toLower {c : Char} (h : c.toLower.toNat < 128) : c.toNat < 128 := by
  unfold Char.toLower at h
  split at h
  · rename_i upper
    exact Nat.lt_of_le_of_lt (UInt32.le_iff_toNat_le.mp upper.2) (by decide)
  · exact h

namespace Text

/-! ## Single characters -/

/-- Lowering leaves the character alone, wherever it stands. -/
def Settled (c : Char) : Prop := c ≠ 'Σ' ∧ c ≠ 'İ' ∧ lowerChar c = c

instance (c : Char) : Decidable (Settled c) :=
  inferInstanceAs (Decidable (c ≠ 'Σ' ∧ c ≠ 'İ' ∧ lowerChar c = c))

/-- The characters are alike as blanks and as semicolons. -/
def SameMark (c d : Char) : Prop := isBlank d = isBlank c ∧ (d = ';' ↔ c = ';')

instance (c d : Char) : Decidable (SameMark c d) :=
  inferInstanceAs (Decidable (isBlank d = isBlank c ∧ (d = ';' ↔ c = ';')))

namespace CaseRun

/-- The code point that a capital of the run maps to. -/
def lowered (run : CaseRun) (n : Nat) : Nat := (n + run.shift).toNat

/-- No lower-case character of one run is a capital of the other. -/
def misses (run other : CaseRun) : Bool :=
  Nat.blt other.last (run.lowered run.first) || Nat.blt (run.lowered run.last) other.first ||
    ((run.step == 2 || run.first == run.last) && other.step == 2 &&
      (run.lowered run.first + other.first) % 2 == 1)

theorem lowered_eq {run : CaseRun} (positive : 0 < run.lowered run.first) {n : Nat}
    (h : run.first ≤ n) : run.lowered n = run.lowered run.first + (n - run.first) := by
  unfold lowered at positive ⊢
  have above : 0 < run.first + run.shift := Int.lt_toNat.mp positive
  omega

theorem not_contains_of_misses {run other : CaseRun} (h : run.misses other = true)
    (positive : 0 < run.lowered run.first) {n : Nat} (within : run.contains n = true) :
    other.contains (run.lowered n) = false := by
  rw [Bool.eq_false_iff]
  intro inside
  simp only [misses, contains, Bool.or_eq_true, Bool.and_eq_true, decide_eq_true_eq,
    beq_iff_eq, Nat.blt_eq] at h within inside
  obtain ⟨⟨low, high⟩, step⟩ := within
  obtain ⟨⟨low', high'⟩, step'⟩ := inside
  have here := lowered_eq positive low
  have last := lowered_eq positive (Nat.le_trans low high)
  obtain (below | above) | ⟨⟨single, two⟩, parity⟩ := h
  · omega
  · omega
  · rw [two] at step'
    obtain two' | only := single
    · rw [two'] at step
      omega
    · omega

/-- Neither a blank nor a character of ASCII up to the capitals lies between the two. -/
def clear (first last : Nat) : Bool :=
  0x5A < first && blanks.all fun span => last < span.1 || span.2 < first

/-- What is asked of a run of capitals and of the characters that they map to. -/
def sound (run : CaseRun) : Bool :=
  clear run.first run.last && clear (run.lowered run.first) (run.lowered run.last) &&
    (run.lowered run.last < 0xD800 ||
      0xDFFF < run.lowered run.first && run.lowered run.last < 0x110000) &&
    [0x3A3, 0x130].all (fun n => run.lowered run.last < n || n < run.lowered run.first) &&
    capitals.all run.misses

theorem isBlank_of_clear {first last : Nat} (h : clear first last = true) {c : Char}
    (low : first ≤ c.toNat) (high : c.toNat ≤ last) : isBlank c = false ∧ 0x5A < c.toNat := by
  simp only [clear, Bool.and_eq_true, decide_eq_true_eq, List.all_eq_true, Bool.or_eq_true] at h
  obtain ⟨beyond, apart⟩ := h
  refine ⟨?_, by omega⟩
  rw [isBlank, Bool.eq_false_iff, Ne, Ranges.contains_iff]
  rintro ⟨span, hspan, low', high'⟩
  have := apart span hspan
  omega

end CaseRun

theorem capitals_sound : ∀ run ∈ capitals, run.sound = true := by
  decide +kernel

theorem lowerChar_ascii : ∀ n < 128,
    Settled (lowerChar (Char.ofNat n)) ∧ SameMark (Char.ofNat n) (lowerChar (Char.ofNat n)) := by
  decide

theorem toLower_of_beyond : ∀ n < 128, 0x5A < (Char.ofNat n).toNat →
    (Char.ofNat n).toLower = Char.ofNat n := by
  decide

theorem ne_semicolon {c : Char} (h : 0x5A < c.toNat) : c ≠ ';' := by
  rintro rfl
  exact absurd h (by decide)

/-- The lower-case character of a capital beyond ASCII. -/
theorem lowerChar_of_capital {c : Char} {run : CaseRun} (ascii : ¬ c.toNat < 0x80)
    (found : capitals.find? (·.contains c.toNat) = some run) :
    Settled (lowerChar c) ∧ SameMark c (lowerChar c) := by
  have sound := capitals_sound run (List.mem_of_find?_eq_some found)
  simp only [CaseRun.sound, Bool.and_eq_true, Bool.or_eq_true, decide_eq_true_eq,
    List.all_eq_true, List.forall_mem_cons] at sound
  obtain ⟨⟨⟨⟨clear, clear'⟩, valid⟩, notSigma, notDotted, _⟩, apart⟩ := sound
  have within : run.contains c.toNat = true := by simpa using List.find?_some found
  have bounds := within
  simp only [CaseRun.contains, Bool.and_eq_true, decide_eq_true_eq] at bounds
  have positive : 0 < run.lowered run.first := by
    simp only [CaseRun.clear, Bool.and_eq_true, decide_eq_true_eq] at clear'
    omega
  have here := CaseRun.lowered_eq positive bounds.1.1
  have last := CaseRun.lowered_eq positive (Nat.le_trans bounds.1.1 bounds.1.2)
  have image : lowerChar c = Char.ofNat (run.lowered c.toNat) := by
    rw [lowerChar, if_neg ascii, found]
    rfl
  have code : (lowerChar c).toNat = run.lowered c.toNat := by
    have isValid : (run.lowered c.toNat).isValidChar := by
      unfold Nat.isValidChar
      omega
    rw [image, Char.ofNat, dif_pos isValid]
    rfl
  obtain ⟨blank, beyond⟩ := CaseRun.isBlank_of_clear clear bounds.1.1 bounds.1.2
  obtain ⟨blank', beyond'⟩ :=
    CaseRun.isBlank_of_clear (c := lowerChar c) clear' (by omega) (by omega)
  refine ⟨⟨?_, ?_, ?_⟩, blank'.trans blank.symm, ?_⟩
  · intro same
    have := congrArg Char.toNat same
    rw [code] at this
    change _ = 0x3A3 at this
    omega
  · intro same
    have := congrArg Char.toNat same
    rw [code] at this
    change _ = 0x130 at this
    omega
  · generalize lowerChar c = d at code beyond' ⊢
    by_cases low : d.toNat < 0x80
    · rw [lowerChar, if_pos low]
      exact forall_ascii (p := fun d => 0x5A < d.toNat → d.toLower = d) toLower_of_beyond low beyond'
    · have free : capitals.find? (·.contains d.toNat) = none := by
        rw [code, List.find?_eq_none]
        intro other hother
        rw [CaseRun.not_contains_of_misses (apart other hother) positive within]
        exact Bool.false_ne_true
      rw [lowerChar, if_neg low, free]
  · exact iff_of_false (ne_semicolon beyond') (ne_semicolon beyond)

theorem lowerChar_settled {c : Char} (notSigma : c ≠ 'Σ') (notDotted : c ≠ 'İ') :
    Settled (lowerChar c) ∧ SameMark c (lowerChar c) := by
  by_cases ascii : c.toNat < 0x80
  · exact forall_ascii (p := fun c => Settled (lowerChar c) ∧ SameMark c (lowerChar c))
      lowerChar_ascii ascii
  · cases found : capitals.find? (·.contains c.toNat) with
    | some run => exact lowerChar_of_capital ascii found
    | none =>
      have same : lowerChar c = c := by rw [lowerChar, if_neg ascii, found]
      rw [same]
      exact ⟨⟨notSigma, notDotted, same⟩, rfl, Iff.rfl⟩

/-! ## Texts -/

/-- What stands for a character in lower case, given its neighbours. -/
theorem lowerAfter_cons (before : List Char) (c : Char) (rest : List Char) :
    ∃ mapped, lowerAfter before (c :: rest) = mapped ++ lowerAfter (c :: before) rest ∧
      mapped ≠ [] ∧ (∀ d ∈ mapped, Settled d ∧ SameMark c d) ∧ (c = ';' → mapped = [';']) := by
  refine ⟨_, rfl, ?_⟩
  split
  · rename_i sigma
    rw [sigma]
    split <;> exact ⟨by simp, List.forall_mem_singleton.mpr (by decide), by decide⟩
  · split
    · rename_i dotted
      rw [dotted]
      refine ⟨by simp, ?_, by decide⟩
      rw [List.forall_mem_cons, List.forall_mem_singleton]
      decide
    · rename_i notSigma notDotted
      refine ⟨by simp, ?_, ?_⟩
      · simpa using lowerChar_settled notSigma notDotted
      · rintro rfl
        rfl

theorem mem_lowerAfter {before text : List Char} {d : Char} (h : d ∈ lowerAfter before text) :
    Settled d ∧ ∃ c ∈ text, SameMark c d := by
  induction text generalizing before with
  | nil => cases h
  | cons c rest ih =>
    obtain ⟨mapped, same, _, each, _⟩ := lowerAfter_cons before c rest
    rw [same] at h
    obtain here | later := List.mem_append.mp h
    · exact ⟨(each d here).1, c, List.mem_cons_self, (each d here).2⟩
    · obtain ⟨settled, c', hc', mark⟩ := ih later
      exact ⟨settled, c', List.mem_cons_of_mem _ hc', mark⟩

theorem lowerAfter_of_settled {text : List Char} (settled : ∀ c ∈ text, Settled c)
    (before : List Char) : lowerAfter before text = text := by
  induction text generalizing before with
  | nil => rfl
  | cons c rest ih =>
    obtain ⟨notSigma, notDotted, same⟩ := settled c List.mem_cons_self
    rw [lowerAfter, if_neg notSigma, if_neg notDotted, same,
      ih fun d hd => settled d (List.mem_cons_of_mem _ hd)]
    rfl

theorem lower_lower (text : List Char) : lower (lower text) = lower text :=
  lowerAfter_of_settled (fun _ hd => (mem_lowerAfter hd).1) []

theorem count_lowerAfter (before text : List Char) :
    (lowerAfter before text).count ';' = text.count ';' := by
  induction text generalizing before with
  | nil => rfl
  | cons c rest ih =>
    obtain ⟨mapped, same, _, each, mark⟩ := lowerAfter_cons before c rest
    rw [same, List.count_append, ih, List.count_cons]
    by_cases h : c = ';'
    · simp [mark h, h, Nat.add_comm]
    · have absent : ';' ∉ mapped := fun hd => h ((each ';' hd).2.2.mp rfl)
      simp [List.count_eq_zero_of_not_mem absent, h]

theorem lower_ne_nil {text : List Char} (h : text ≠ []) : lower text ≠ [] := by
  obtain ⟨c, rest, rfl⟩ := List.exists_cons_of_ne_nil h
  obtain ⟨mapped, same, nonempty, _, _⟩ := lowerAfter_cons [] c rest
  rw [lower, same]
  exact List.append_ne_nil_of_left_ne_nil nonempty _

theorem lowerAfter_append (before text more : List Char) :
    ∃ begun, lowerAfter before (text ++ more) = begun ++ lowerAfter (text.reverse ++ before) more := by
  induction text generalizing before with
  | nil => exact ⟨[], rfl⟩
  | cons c rest ih =>
    obtain ⟨mapped, same, _⟩ := lowerAfter_cons before c (rest ++ more)
    obtain ⟨begun, later⟩ := ih (c :: before)
    exact ⟨mapped ++ begun, by simp [same, later]⟩

theorem lowerAfter_append_ascii (before : List Char) {text : List Char}
    (ascii : ∀ c ∈ text, c.toNat < 0x80) (more : List Char) :
    lowerAfter before (text ++ more) =
      text.map Char.toLower ++ lowerAfter (text.reverse ++ before) more := by
  induction text generalizing before with
  | nil => rfl
  | cons c rest ih =>
    obtain ⟨here, later⟩ := List.forall_mem_cons.mp ascii
    have notSigma : c ≠ 'Σ' := by
      rintro rfl
      exact absurd here (by decide)
    have notDotted : c ≠ 'İ' := by
      rintro rfl
      exact absurd here (by decide)
    rw [List.cons_append, lowerAfter, if_neg notSigma, if_neg notDotted, ih (c :: before) later,
      lowerChar, if_pos here]
    simp

/-- The last character of a text marks the end of its lower case as well. -/
theorem lower_concat (text : List Char) (c : Char) :
    ∃ begun d, lower (text ++ [c]) = begun ++ [d] ∧ SameMark c d := by
  obtain ⟨begun, whole⟩ := lowerAfter_append [] text [c]
  obtain ⟨mapped, same, nonempty, each, _⟩ := lowerAfter_cons (text.reverse ++ []) c []
  have split := List.dropLast_concat_getLast nonempty
  refine ⟨begun ++ mapped.dropLast, mapped.getLast nonempty, ?_, (each _ (List.getLast_mem _)).2⟩
  rw [lower, whole, same, List.append_assoc, split]
  exact congrArg (begun ++ ·) (List.append_nil mapped)

/-! ## Sides of a space -/

/-- A sigma does not look beyond the nearest space. -/
theorem nextIsCased_space (near far : List Char) :
    nextIsCased (near ++ ' ' :: far) = nextIsCased near := by
  unfold nextIsCased
  induction near with
  | nil =>
    have stops : caseIgnorable.contains ' ' = false := by decide +kernel
    have uncased : cased.contains ' ' = false := by decide +kernel
    simp [stops, uncased]
  | cons c near ih =>
    rw [List.cons_append, List.dropWhile_cons, List.dropWhile_cons]
    split
    · exact ih
    · rfl

theorem lowerAfter_space (before far text : List Char) :
    lowerAfter (before ++ ' ' :: far) text = lowerAfter before text := by
  induction text generalizing before with
  | nil => rfl
  | cons c rest ih =>
    have later := ih (c :: before)
    rw [List.cons_append] at later
    rw [lowerAfter, lowerAfter, nextIsCased_space, later]

/-- The texts on the two sides of a space are lowered apart. -/
theorem lowerAfter_append_space (before word rest : List Char) :
    lowerAfter before (word ++ ' ' :: rest) = lowerAfter before word ++ ' ' :: lower rest := by
  induction word generalizing before with
  | nil =>
    have alone : lowerAfter (' ' :: before) rest = lower rest := lowerAfter_space [] before rest
    exact congrArg (' ' :: ·) alone
  | cons c word ih =>
    rw [List.cons_append, lowerAfter, lowerAfter, ih, nextIsCased_space]
    simp

end Text

end QueryShapes

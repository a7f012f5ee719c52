import QueryShapes.Proofs.ReachedRelations
import QueryShapes.Proofs.SelectKind

/-!
# Texts that begin alike

What is told from a raw text, its kind and the relation that a scan names, is told from its beginning.

- `Scan.Settles`: a scan finds a name in that beginning of a text.
- `Scan.nameWithin?_append`: then it finds the same name whatever follows.
- `StatementKind.ofText_eq_of_front`: two texts of queries with such a beginning are of one kind.
- `TextsAlike.of_front`: so an engine tells them apart by their queries only.
-/

namespace QueryShapes

/-! ## The name that a scan finds -/

namespace Scan

/-- The text without a quote at its head. -/
def behindQuote : List Char → List Char
  | '\x60' :: rest | '"' :: rest => rest
  | rest => rest

theorem behindQuote_append {text : List Char} (h : text ≠ []) (rest : List Char) :
    behindQuote (text ++ rest) = behindQuote text ++ rest := by
  obtain ⟨c, text, rfl⟩ := List.exists_cons_of_ne_nil h
  by_cases tick : c = '\x60'
  · subst tick
    rfl
  · by_cases quote : c = '"'
    · subst quote
      rfl
    · simp [behindQuote, tick, quote]

theorem behindQuote_suffix (text : List Char) : behindQuote text <:+ text := by
  unfold behindQuote
  split
  · exact List.suffix_cons _ _
  · exact List.suffix_cons _ _
  · exact List.suffix_rfl

theorem nameAfterBlanks?_eq (text : List Char) : nameAfterBlanks? text =
    if text.head?.any Text.isBlank then name? (behindQuote (text.dropWhile Text.isBlank))
    else none := by
  unfold nameAfterBlanks? behindQuote
  split
  · split <;> simp_all
  · rfl

theorem takeWhile_append_of_ends {p : Char → Bool} {text : List Char} (nonempty : text ≠ [])
    (ends : text.getLast?.any p = false) (rest : List Char) :
    (text ++ rest).takeWhile p = text.takeWhile p := by
  obtain ⟨begun, c, rfl⟩ := (List.eq_nil_or_concat text).resolve_left nonempty
  have stops : p c = false := by simpa using ends
  simp [List.takeWhile_append, stops]

theorem name?_append {text : List Char} (nonempty : text ≠ [])
    (ends : text.getLast?.any continuesName = false) (rest : List Char) :
    name? (text ++ rest) = name? text := by
  rw [name?, name?, List.head?_append_of_ne_nil _ nonempty, takeWhile_append_of_ends nonempty ends]

/-- Where something stands behind the blanks and the quote, it settles the name. -/
theorem nameAfterBlanks?_append {text : List Char}
    (reached : behindQuote (text.dropWhile Text.isBlank) ≠ [])
    (ends : text.getLast?.any continuesName = false) (rest : List Char) :
    nameAfterBlanks? (text ++ rest) = nameAfterBlanks? text := by
  have solid : text.dropWhile Text.isBlank ≠ [] := by
    intro blank
    rw [blank] at reached
    exact reached rfl
  have nonempty : text ≠ [] := by
    rintro rfl
    exact solid rfl
  have dropped : (text ++ rest).dropWhile Text.isBlank = text.dropWhile Text.isBlank ++ rest := by
    rw [List.dropWhile_append]
    simp [solid]
  obtain ⟨before, split⟩ : behindQuote (text.dropWhile Text.isBlank) <:+ text :=
    (behindQuote_suffix _).trans (List.dropWhile_suffix _)
  have ends' : (behindQuote (text.dropWhile Text.isBlank)).getLast?.any continuesName = false := by
    rwa [← split, List.getLast?_append_of_ne_nil _ reached] at ends
  rw [nameAfterBlanks?_eq, nameAfterBlanks?_eq, dropped, behindQuote_append solid,
    name?_append reached ends', List.head?_append_of_ne_nil _ nonempty]

theorem behindQuote_ne_nil_of_mem {text : List Char} {c : Char} (h : c ∈ text)
    (blank : Text.isBlank c = false) (tick : c ≠ '\x60') (quote : c ≠ '"') :
    behindQuote (text.dropWhile Text.isBlank) ≠ [] := by
  have kept : c ∈ text.dropWhile Text.isBlank := by
    rw [← List.takeWhile_append_dropWhile (p := Text.isBlank) (l := text)] at h
    obtain early | late := List.mem_append.mp h
    · exact absurd (List.mem_takeWhile_imp early) (by simp [blank])
    · exact late
  have later {d : Char} {rest : List Char} (other : c ≠ d) (here : c ∈ d :: rest) : rest ≠ [] :=
    List.ne_nil_of_mem (List.mem_of_ne_of_mem other here)
  generalize text.dropWhile Text.isBlank = rest at kept
  unfold behindQuote
  split
  · exact later tick kept
  · exact later quote kept
  · exact List.ne_nil_of_mem kept

theorem behindQuote_ne_nil_of_named {text name : List Char} (h : nameAfterBlanks? text = some name) :
    behindQuote (text.dropWhile Text.isBlank) ≠ [] := by
  rw [nameAfterBlanks?_eq] at h
  split at h
  · intro empty
    rw [empty] at h
    cases h
  · cases h

/-- What the scan tries at each place outside of words. -/
def nameHere? (text : List Char) : Option (List Char) := (afterFrom? text).bind nameAfterBlanks?

theorem nameWithin?_cons (insideWord : Bool) (c : Char) (rest : List Char) :
    nameWithin? insideWord (c :: rest) =
      (if insideWord then none else nameHere? (c :: rest)).or
        (nameWithin? (Text.isWordChar c) rest) := by
  rw [nameWithin?]
  unfold nameHere?
  cases (if insideWord = true then none else (afterFrom? (c :: rest)).bind nameAfterBlanks?) <;> rfl

theorem afterFrom?_eq_some {text rest : List Char} (h : afterFrom? text = some rest) :
    ∃ word, text = word ++ rest ∧ word.map Char.toLower = "from".toList := by
  unfold afterFrom? at h
  split at h
  · split at h
    · rename_i spells
      cases h
      exact ⟨_, rfl, spells⟩
    · cases h
  · cases h

theorem afterFrom?_append {text : List Char} (long : 4 ≤ text.length) (rest : List Char) :
    afterFrom? (text ++ rest) = (afterFrom? text).map (· ++ rest) := by
  match text, long with
  | f :: r :: o :: m :: text, _ =>
    simp only [List.cons_append, afterFrom?]
    split <;> rfl

/-- A name is found right after the word `from`, somewhere. -/
theorem exists_from {text name : List Char} {insideWord : Bool}
    (h : nameWithin? insideWord text = some name) : ∃ before word rest,
      text = before ++ (word ++ rest) ∧ word.map Char.toLower = "from".toList ∧
        nameAfterBlanks? rest = some name := by
  induction text generalizing insideWord with
  | nil => cases h
  | cons c text ih =>
    rw [nameWithin?_cons, Option.or_eq_some_iff] at h
    obtain here | ⟨_, later⟩ := h
    · split at here
      · cases here
      · obtain ⟨rest, after, named⟩ := Option.bind_eq_some_iff.mp here
        obtain ⟨word, split, spells⟩ := afterFrom?_eq_some after
        exact ⟨[], word, rest, split, spells, named⟩
    · obtain ⟨before, word, rest, rfl, spells, named⟩ := ih later
      exact ⟨c :: before, word, rest, rfl, spells, named⟩

theorem nameHere?_append {text : List Char} (long : 4 ≤ text.length)
    (reached : ∀ rest, afterFrom? text = some rest →
      behindQuote (rest.dropWhile Text.isBlank) ≠ [])
    (ends : text.getLast?.any continuesName = false) (more : List Char) :
    nameHere? (text ++ more) = nameHere? text := by
  rw [nameHere?, nameHere?, afterFrom?_append long]
  cases after : afterFrom? text with
  | none => rfl
  | some rest =>
    obtain ⟨word, split, _⟩ := afterFrom?_eq_some after
    have nonempty : rest ≠ [] := by
      rintro rfl
      exact reached [] after rfl
    rw [split, List.getLast?_append_of_ne_nil _ nonempty] at ends
    exact nameAfterBlanks?_append (reached rest after) ends more

theorem length_of_spells {word : List Char} (spells : word.map Char.toLower = "from".toList) :
    word.length = 4 := by
  simpa using congrArg List.length spells

/-- The second of two words `from` begins behind the first one. -/
theorem head_mem_of_spells {c : Char} {text before word word' rest rest' : List Char}
    (split : text = before ++ (word ++ rest)) (split' : c :: text = word' ++ rest')
    (spells : word.map Char.toLower = "from".toList)
    (spells' : word'.map Char.toLower = "from".toList) : ∀ f ∈ word.head?, f ∈ rest' := by
  match word, word' with
  | f :: word, _ :: inside =>
    intro _ head
    obtain rfl := Option.some_inj.mp head
    have same : f.toLower = 'f' := (List.cons.inj spells).1
    have others : inside.map Char.toLower = "rom".toList := (List.cons.inj spells').2
    obtain ⟨_, within⟩ := List.cons.inj split'
    rw [split, List.cons_append] at within
    obtain ⟨more, rfl, later⟩ | ⟨more, _, rfl⟩ := List.append_eq_append_iff.mp within
    · cases more with
      | nil =>
        rw [List.nil_append] at later
        exact later ▸ List.mem_cons_self
      | cons d more =>
        obtain ⟨rfl, _⟩ := List.cons.inj later
        have mem : f.toLower ∈ "rom".toList := others ▸ List.mem_map_of_mem (by simp)
        rw [same] at mem
        exact absurd mem (by decide)
    · exact List.mem_append_right _ List.mem_cons_self

/-- A name that is found in a text, and that goes no further than the text, is found first whatever
follows. -/
theorem nameWithin?_append {front name : List Char} {insideWord : Bool}
    (found : nameWithin? insideWord front = some name)
    (ends : front.getLast?.any continuesName = false) (rest : List Char) :
    nameWithin? insideWord (front ++ rest) = some name := by
  induction front generalizing insideWord with
  | nil => cases found
  | cons c front ih =>
    rw [List.cons_append, nameWithin?_cons]
    rw [nameWithin?_cons, Option.or_eq_some_iff] at found
    obtain here | ⟨nowhere, later⟩ := found
    · cases insideWord with
      | true => cases here
      | false =>
        obtain ⟨left, after, named⟩ := Option.bind_eq_some_iff.mp here
        obtain ⟨word, split, spells⟩ := afterFrom?_eq_some after
        have long : 4 ≤ (c :: front).length := by
          rw [split, List.length_append, length_of_spells spells]
          omega
        have reached (rest) (after' : afterFrom? (c :: front) = some rest) :
            behindQuote (rest.dropWhile Text.isBlank) ≠ [] :=
          Option.some_inj.mp (after.symm.trans after') ▸ behindQuote_ne_nil_of_named named
        have same : nameHere? (c :: (front ++ rest)) = some name :=
          (nameHere?_append long reached ends rest).trans here
        simp [same]
    · obtain ⟨before, word, left, split, spells, named⟩ := exists_from later
      have long : 4 ≤ (c :: front).length := by
        rw [split, List.length_cons, List.length_append, List.length_append, length_of_spells spells]
        omega
      -- The later `from` stands behind the place, so what comes after the place does not stop short.
      have reached (rest) (after : afterFrom? (c :: front) = some rest) :
          behindQuote (rest.dropWhile Text.isBlank) ≠ [] := by
        obtain ⟨word', split', spells'⟩ := afterFrom?_eq_some after
        match word, spells with
        | f :: _, spells =>
          have letter : f.toLower ∈ "from".toList := spells ▸ List.mem_map_of_mem List.mem_cons_self
          have only := startsOnlyNames_of_startsPlain (startsPlain_of_toLower letter)
          simp only [startsOnlyNames, Bool.and_eq_true, Bool.not_eq_true', bne_iff_ne] at only
          exact behindQuote_ne_nil_of_mem (head_mem_of_spells split split' spells spells' f rfl)
            (by simp [only]) (by simp [only]) (by simp [only])
      have ends' : front.getLast?.any continuesName = false := by
        have nonempty : front ≠ [] := by
          rintro rfl
          cases later
        rwa [List.getLast?_cons_of_ne_nil nonempty] at ends
      rw [ih later ends']
      cases insideWord with
      | true => rfl
      | false =>
        have same : nameHere? (c :: (front ++ rest)) = none :=
          (nameHere?_append long reached ends rest).trans nowhere
        simp [same]

/-- A scan finds this name in the text, and the name goes no further than the text. -/
structure Settles (front name : List Char) : Prop where
  found : nameWithin? false front = some name
  ends : front.getLast?.any continuesName = false

theorem Settles.relation?_eq {front name rest : List Char} {text : String}
    (settles : Settles front name) (split : text.toList = front ++ rest) :
    relation? text = some (String.ofList (name.map Char.toLower)) := by
  rw [relation?, split, nameWithin?_append settles.found settles.ends]
  rfl

end Scan

/-! ## The kind of a text -/

namespace StatementKind

open Text

/-- A beginning without spaces, but for its end, lies in a word and the space behind it. -/
theorem after?_isSome_of_word {beginning : List Char} (tight : ' ' ∉ beginning.dropLast)
    (word rest : List Char) : (after? beginning (word ++ ' ' :: rest)).isSome =
      (after? beginning (word ++ [' '])).isSome := by
  induction beginning generalizing word with
  | nil => rfl
  | cons b beginning ih =>
    cases beginning with
    | nil => cases word <;> simp only [List.nil_append, List.cons_append, after?] <;> split <;> rfl
    | cons b' beginning =>
      rw [List.dropLast_cons_cons, List.mem_cons, not_or] at tight
      cases word with
      | nil => simp [after?, Ne.symm tight.1]
      | cons c word =>
        simp only [List.cons_append, after?]
        split
        · exact ih tight.2 word
        · rfl

/-- Whether a text is read shows in its first word. -/
theorem isRead_word (word rest : List Char) :
    isRead (word ++ ' ' :: rest) = isRead (word ++ [' ']) := by
  have longer (rest : List Char) : (word ++ ' ' :: rest == "select".toList) = false := by
    rw [beq_eq_false_iff_ne]
    intro same
    have space : ' ' ∈ "select".toList := same ▸ List.mem_append_right _ List.mem_cons_self
    exact absurd space (by decide)
  have kept {beginning : List Char} (tight : ' ' ∉ beginning.dropLast) :=
    after?_isSome_of_word tight word rest
  rw [isRead, isRead, longer, longer, kept (by decide), kept (by decide)]

/-- What the first two characters of `SELECT` can be. -/
theorem upperChar_append_s {c : Char} {more : List Char}
    (h : Sql.upperChar c ++ more = "SELECT".toList) :
    c ∈ ['s', 'S', 'ſ'] ∧ more = "ELECT".toList := by
  unfold Sql.upperChar at h
  split at h
  · rename_i ascii
    obtain ⟨upper, rest⟩ := List.cons.inj h
    refine ⟨?_, rest⟩
    exact forall_ascii (p := fun c => c.toUpper = 'S' → c ∈ ['s', 'S', 'ſ']) (by decide) ascii upper
  · rename_i beyond
    split at h
    case h_1 => exact ⟨by decide, (List.cons.inj h).2⟩
    case h_11 =>
      obtain ⟨rfl, _⟩ := List.cons.inj h
      exact absurd (by decide) beyond
    all_goals exact absurd h (by simp)

theorem upperChar_append_e {c : Char} {more : List Char}
    (h : Sql.upperChar c ++ more = "ELECT".toList) : c ∈ ['e', 'E'] := by
  unfold Sql.upperChar at h
  split at h
  · rename_i ascii
    exact forall_ascii (p := fun c => c.toUpper = 'E' → c ∈ ['e', 'E']) (by decide) ascii
      (List.cons.inj h).1
  · rename_i beyond
    split at h
    case h_11 =>
      obtain ⟨rfl, _⟩ := List.cons.inj h
      exact absurd (by decide) beyond
    all_goals exact absurd h (by simp)

theorem lowerChar_first {c : Char} (h : c ∈ ['s', 'S', 'ſ']) :
    c ≠ 'Σ' ∧ c ≠ 'İ' ∧ lowerChar c ≠ 'd' := by
  simp only [List.mem_cons, List.not_mem_nil, or_false] at h
  obtain rfl | rfl | rfl := h <;> decide +kernel

theorem lowerChar_second {c : Char} (h : c ∈ ['e', 'E']) :
    c ≠ 'Σ' ∧ c ≠ 'İ' ∧ lowerChar c = 'e' := by
  simp only [List.mem_cons, List.not_mem_nil, or_false] at h
  obtain rfl | rfl := h <;> decide +kernel

/-- The normal form of a text that starts with the `SELECT` of its query. -/
theorem normal_of_select {text before word rest : List Char}
    (place : Sql.SelectAt text before word rest) (blank : ∀ c ∈ before, isBlank c = true) :
    ∃ c more, c ≠ 'd' ∧ normal text = c :: 'e' :: more := by
  have split : text = before ++ (word ++ []) ++ rest := by
    rw [place.split]
    simp
  have stops : (word ++ []).getLast?.any isClosing = false := by
    rw [List.append_nil]
    exact place.stops []
  obtain ⟨tail, whole, _⟩ := normal_of_word blank place.isWord [] stops rest
  rw [← split] at whole
  have spelled := place.spelled
  match word, spelled with
  | [], spelled => cases spelled
  | c :: word, spelled =>
    obtain ⟨first, spelled⟩ := upperChar_append_s spelled
    match word, spelled with
    | [], spelled => cases spelled
    | d :: word, spelled =>
      obtain ⟨notSigma, notDotted, other⟩ := lowerChar_first first
      obtain ⟨notSigma', notDotted', same⟩ := lowerChar_second (upperChar_append_e spelled)
      rw [lower, List.cons_append, List.cons_append, lowerAfter, lowerAfter, if_neg notSigma,
        if_neg notDotted, if_neg notSigma', if_neg notDotted', same] at whole
      exact ⟨lowerChar c, _, other, whole⟩

/-- Inspections start with `show`, `describe` or `desc`. -/
theorem ofNormal_of_begun {c : Char} (other : c ≠ 'd') (more : List Char) :
    ofNormal (c :: 'e' :: more) =
      if isLiveness (c :: 'e' :: more) then .liveness
      else if isRead (c :: 'e' :: more) then .read else .mutation := by
  have different {text : List Char} : c :: 'e' :: more ≠ 's' :: 'h' :: text := by
    intro same
    exact absurd (List.cons.inj (List.cons.inj same).2).1 (by decide)
  have listing : isListing (c :: 'e' :: more) = false := by
    rw [isListing, Bool.or_eq_false_iff, beq_eq_false_iff_ne, beq_eq_false_iff_ne]
    exact ⟨different, different⟩
  have described : described? (c :: 'e' :: more) = none := by
    have shown (text : List Char) : after? ('s' :: 'h' :: text) (c :: 'e' :: more) = none := by
      simp [after?]
    have asked (text : List Char) : after? ('d' :: text) (c :: 'e' :: more) = none := by
      rw [after?, if_neg other.symm]
    have unnamed {word : String} (h : after? word.toList (c :: 'e' :: more) = none) :
        ((after? word.toList (c :: 'e' :: more)).bind unquoted?).map String.ofList = none := by
      rw [h]
      rfl
    rw [described?, List.findSome?_eq_none_iff]
    simp only [descriptionWords, List.forall_mem_cons, List.not_mem_nil, false_implies,
      implies_true, and_true]
    exact ⟨unnamed (asked _), unnamed (asked _), unnamed (shown _), unnamed (shown _)⟩
  rw [ofNormal, listing, described]
  rfl

theorem ofNormal_of_mutation {text : List Char} (h : ofNormal text = .mutation) :
    ofNormal text = if isLiveness text then .liveness
      else if isRead text then .read else .mutation := by
  have inspected := h
  unfold ofNormal at inspected
  split at inspected
  · cases inspected
  · split at inspected
    · cases inspected
    · split at inspected
      · cases inspected
      · split at inspected
        · cases inspected
        · simp [*]

/-- The text of a query is no inspection. -/
theorem ofText_of_query {text : String} {query : Query} (read : Query.ofText? text = .ok query) :
    ofText text = if isLiveness (normal text.toList) then .liveness
      else if isRead (normal text.toList) then .read else .mutation := by
  obtain ⟨before, word, rest, place⟩ := Query.ofText?_select read
  by_cases blank : ∀ c ∈ before, isBlank c = true
  · obtain ⟨c, more, other, begun⟩ := normal_of_select place blank
    rw [ofText, begun, ofNormal_of_begun other]
  · have solid : ∃ c ∈ before, isBlank c = false := by simpa using blank
    exact ofNormal_of_mutation (((Query.kind_of_select read).2 _ _ _ place).2 solid)

/-! ### Normal forms of texts that begin alike -/

theorem isClosing_of_startsName {c : Char} (h : Scan.startsName c = true) : isClosing c = false := by
  simp only [Scan.startsName, Bool.or_eq_true, beq_iff_eq] at h
  obtain ((alpha | rfl) | rfl) | rfl := h
  · have plain : Scan.startsPlain c = true := by simp [Scan.startsPlain, alpha]
    exact forall_ascii (p := fun c => Scan.startsPlain c = true → isClosing c = false) (by decide)
      (Scan.ascii_of_continuesPlain (Scan.continuesPlain_of_startsPlain plain)) plain
  · decide
  · decide +kernel
  · decide +kernel

/-- Between the word and its name stands a blank. -/
theorem split_of_nameAfterBlanks? {text name : List Char}
    (h : Scan.nameAfterBlanks? text = some name) : ∃ blank between c rest,
      text = blank :: (between ++ c :: rest) ∧ isBlank blank = true ∧ isClosing c = false := by
  rw [Scan.nameAfterBlanks?_eq] at h
  split at h
  · rename_i begins
    obtain ⟨before, split⟩ : Scan.behindQuote (text.dropWhile isBlank) <:+ text :=
      (Scan.behindQuote_suffix _).trans (List.dropWhile_suffix _)
    unfold Scan.name? at h
    split at h
    · rename_i starts
      generalize Scan.behindQuote (text.dropWhile isBlank) = left at split starts
      match left, starts with
      | c :: rest, starts =>
        have solid : isClosing c = false := isClosing_of_startsName (by simpa using starts)
        cases before with
        | nil =>
          have blank : isBlank c = true := by simpa [← split] using begins
          exact absurd (isClosing_of_isBlank blank) (by simp [solid])
        | cons blank between =>
          exact ⟨blank, between, c, rest, split.symm, by simpa [← split] using begins, solid⟩
    · cases h
  · cases h

theorem lower_concat_m {word : List Char} (spells : word.map Char.toLower = "from".toList)
    (before : List Char) :
    ∃ ws w, words (before ++ word) = ws ++ [w] ∧ (lower w).getLast? = some 'm' := by
  obtain rfl | ⟨begun, m, rfl⟩ := word.eq_nil_or_concat
  · cases spells
  · have last : m.toLower = 'm' := by simpa using congrArg List.getLast? spells
    have ascii : m.toNat < 128 := ascii_of_toLower (by rw [last]; decide)
    have solid : isBlank m = false :=
      forall_ascii (p := fun c => c.toLower = 'm' → isBlank c = false) (by decide) ascii last
    obtain ⟨ws, w, split⟩ := words_concat solid (before ++ begun)
    refine ⟨ws, w ++ [m], by simpa using split, ?_⟩
    obtain ⟨begun', lowered⟩ := lowerAfter_append [] w [m]
    rw [lower, lowered, lowerAfter_ascii _ _ (by simpa using ascii)]
    simp [last]

/-- The words of the normal form up to the `from` that the scan stops at are those of the front. -/
theorem normal_of_settles {front name : List Char} (settles : Scan.Settles front name) :
    ∃ ws w, w.getLast? = some 'm' ∧ ∀ rest, ∃ next more,
      normal (front ++ rest) = unwords (ws ++ w :: next :: more) ∧
      ∀ v ∈ ws ++ w :: next :: more, IsWord v := by
  obtain ⟨before, word, left, rfl, spells, named⟩ := Scan.exists_from settles.found
  obtain ⟨blank, between, c, tail, rfl, isBlank, solid⟩ := split_of_nameAfterBlanks? named
  obtain ⟨ws, w, split, last⟩ := lower_concat_m spells before
  refine ⟨ws.map lower, lower w, last, fun rest => ?_⟩
  have kept : unmarked (before ++ (word ++ blank :: (between ++ c :: tail)) ++ rest) =
      (before ++ word) ++ blank :: (between ++ c :: unmarked (tail ++ rest)) := by
    have stops : (before ++ word ++ blank :: between ++ [c]).getLast?.any isClosing = false := by
      rwa [List.getLast?_concat]
    simpa using unmarked_of_stops stops (tail ++ rest)
  have others : words (between ++ c :: unmarked (tail ++ rest)) ≠ [] := by
    intro none
    have flat := flatten_words (between ++ c :: unmarked (tail ++ rest))
    have here : Text.isBlank c = false :=
      Bool.eq_false_iff.mpr fun blank => by simp [isClosing_of_isBlank blank] at solid
    simp [none, here] at flat
  obtain ⟨next, more, here⟩ := List.exists_cons_of_ne_nil others
  have parted := words_append_blank isBlank (before ++ word)
    (between ++ c :: unmarked (tail ++ rest))
  rw [split, here] at parted
  refine ⟨lower next, more.map lower, ?_, ?_⟩
  · rw [normal_eq, kept, parted, lower_unwords]
    simp
  · intro v hv
    have same : ws.map lower ++ lower w :: lower next :: more.map lower =
        (ws ++ [w] ++ next :: more).map lower := by simp
    rw [same, ← parted] at hv
    obtain ⟨u, hu, rfl⟩ := List.mem_map.mp hv
    exact (isWord_of_mem_words hu).lower

theorem eq_append_of_after? {beginning text rest : List Char}
    (h : after? beginning text = some rest) : text = beginning ++ rest := by
  fun_induction after? beginning text with
  | case1 =>
    cases h
    rfl
  | case2 => cases h
  | case3 beginning c text ih => rw [ih h, List.cons_append]
  | case4 => cases h

/-- The words of a sign of life, the last one apart. -/
theorem words_of_isLiveness {text : List Char} (h : isLiveness text = true) :
    ∃ begun last, words text = begun ++ [last] ∧ ∀ w ∈ begun, w.getLast? ≠ some 'm' := by
  rw [isLiveness, Bool.or_eq_true, beq_iff_eq] at h
  obtain rfl | labelled := h
  · exact ⟨["select".toList], "1".toList, by decide, by decide⟩
  · obtain ⟨name, after, named⟩ : ∃ name, after? "select 1 as ".toList text = some name ∧
        isName name = true := by
      cases after : after? "select 1 as ".toList text <;> rw [after] at labelled
      · cases labelled
      · exact ⟨_, rfl, labelled⟩
    have split : text = unwords ["select".toList, "1".toList, "as".toList, name] := by
      rw [eq_append_of_after? after]
      simp [unwords_cons_cons, unwords_singleton]
    have each : ∀ w ∈ ["select".toList, "1".toList, "as".toList, name], IsWord w := by
      have given : ∀ w ∈ ["select".toList, "1".toList, "as".toList], IsWord w :=
        isWord_of_all (by decide)
      intro w hw
      obtain hw | hw := List.mem_append.mp (show w ∈ [_, _, _] ++ [name] from hw)
      · exact given w hw
      · exact List.mem_singleton.mp hw ▸ isWord_of_isName named
    refine ⟨["select".toList, "1".toList, "as".toList], name, ?_, by decide⟩
    rw [split, words_unwords each]
    rfl

theorem isLiveness_unwords {ws more : List (List Char)} {w next : List Char}
    (each : ∀ v ∈ ws ++ w :: next :: more, IsWord v) (last : w.getLast? = some 'm') :
    isLiveness (unwords (ws ++ w :: next :: more)) = false := by
  rw [Bool.eq_false_iff]
  intro alive
  obtain ⟨begun, final, split, others⟩ := words_of_isLiveness alive
  rw [words_unwords each] at split
  have before : w ∈ begun := by
    have dropped := congrArg List.dropLast split
    rw [List.dropLast_concat, List.dropLast_append_of_ne_nil (by simp),
      List.dropLast_cons_cons] at dropped
    simp [← dropped]
  exact others w before last

/-- Texts of queries are of one kind if they share what settles the scan. -/
theorem ofText_eq_of_front {text text' : String} {query query' : Query}
    {front name rest rest' : List Char} (read : Query.ofText? text = .ok query)
    (read' : Query.ofText? text' = .ok query') (settles : Scan.Settles front name)
    (split : text.toList = front ++ rest) (split' : text'.toList = front ++ rest') :
    ofText text = ofText text' := by
  obtain ⟨ws, w, last, begun⟩ := normal_of_settles settles
  obtain ⟨first, others, start⟩ :=
    List.exists_cons_of_ne_nil (List.append_ne_nil_of_right_ne_nil ws (List.cons_ne_nil w []))
  have kind {text : String} {query : Query} {rest : List Char}
      (read : Query.ofText? text = .ok query) (split : text.toList = front ++ rest) :
      ofText text = if isRead (first ++ [' ']) then .read else .mutation := by
    obtain ⟨next, more, whole, each⟩ := begun rest
    obtain ⟨second, final, later⟩ := List.exists_cons_of_ne_nil
      (List.append_ne_nil_of_right_ne_nil others (List.cons_ne_nil next more))
    have same : ws ++ w :: next :: more = first :: second :: final := by
      rw [← later, ← List.cons_append, ← start, List.append_assoc, List.singleton_append]
    rw [ofText_of_query read, split, whole, isLiveness_unwords each last, same, unwords_cons_cons,
      isRead_word]
    rfl
  rw [kind read split, kind read' split']

end StatementKind

/-! ## Both -/

/-- The two texts are of one kind, and a scan names the same relation in both: besides their queries
that is all that an engine takes from them. -/
structure TextsAlike (text text' : String) : Prop where
  kind : StatementKind.ofText text = StatementKind.ofText text'
  scanned : Scan.relation? text = Scan.relation? text'

theorem TextsAlike.of_front {text text' : String} {query query' : Query} {front name : List Char}
    (read : Query.ofText? text = .ok query) (read' : Query.ofText? text' = .ok query')
    (settles : Scan.Settles front name) (begins : front <+: text.toList)
    (begins' : front <+: text'.toList) : TextsAlike text text' := by
  obtain ⟨rest, split⟩ := begins
  obtain ⟨rest', split'⟩ := begins'
  refine ⟨StatementKind.ofText_eq_of_front read read' settles split.symm split'.symm, ?_⟩
  rw [settles.relation?_eq split.symm, settles.relation?_eq split'.symm]

end QueryShapes

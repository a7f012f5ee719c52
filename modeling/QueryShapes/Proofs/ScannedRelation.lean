import QueryShapes.Engine.Scan
import QueryShapes.Proofs.FromClause
import QueryShapes.Proofs.Lexing
import QueryShapes.Proofs.Lists
import QueryShapes.Proofs.LowerCase

/-!
# The relation that is scanned

A read that no shape answers gives the rows of a relation that is found in the text as it stands,
while the query has been read from its tokens.

- `Sql.FromClause`: the part of a text from the `FROM` of its query on.
- `Scan.Passes`: no name is found on the way to a place.
- `Sql.PlainClause`: the word, blanks, and a single name of ASCII letters, digits and underscores.
- `relation?_eq_first_table`: where the scan passes to a plain clause, it finds the first table of
  the query.
- `relation?_ne_first_table`: where the clause is of another kind, or the scan stops earlier, it can find
  something else or nothing.
-/

namespace QueryShapes

/-! ## Characters of plain names -/

namespace Scan

def startsPlain (c : Char) : Bool := c.isAlpha || c == '_'

def continuesPlain (c : Char) : Bool := c.isAlphanum || c == '_'

theorem ascii_of_continuesPlain {c : Char} (h : continuesPlain c = true) : c.toNat < 128 := by
  simp only [continuesPlain, Bool.or_eq_true, beq_iff_eq] at h
  obtain alphanum | rfl := h
  · exact ascii_of_isAlphanum alphanum
  · decide

theorem continuesPlain_of_startsPlain {c : Char} (h : startsPlain c = true) :
    continuesPlain c = true := by
  simp only [startsPlain, continuesPlain, Char.isAlphanum, Bool.or_eq_true] at h ⊢
  exact h.imp_left .inl

theorem ascii_of_isGap {c : Char} (h : Sql.isGap c = true) : c.toNat < 128 := by
  simp only [Sql.isGap, Bool.or_eq_true, Bool.and_eq_true, beq_iff_eq, decide_eq_true_eq] at h
  obtain rfl | ⟨_, h⟩ := h
  · decide
  · exact Nat.lt_of_le_of_lt (UInt32.le_iff_toNat_le.mp h) (by decide)

/-- A character that starts a plain name starts nothing else for either reader. -/
def startsOnlyNames (c : Char) : Bool :=
  startsName c && Sql.startsName c && !Sql.isGap c && !Text.isBlank c && c != '\'' && c != '"' &&
    c != '\x60' && !c.isDigit && c != '.' && c != '-' && c != '/' && c != '?' && c != '@'

theorem startsOnlyNames_of_startsPlain {c : Char} (h : startsPlain c = true) :
    startsOnlyNames c = true :=
  forall_ascii (p := fun c => startsPlain c = true → startsOnlyNames c = true) (by decide)
    (ascii_of_continuesPlain (continuesPlain_of_startsPlain h)) h

theorem continues_of_continuesPlain {c : Char} (h : continuesPlain c = true) :
    continuesName c = true ∧ Sql.continuesName c = true ∧ c ≠ '\\' ∧ c ≠ '\x60' ∧ c ≠ '"' :=
  forall_ascii (p := fun c => continuesPlain c = true → continuesName c = true ∧
    Sql.continuesName c = true ∧ c ≠ '\\' ∧ c ≠ '\x60' ∧ c ≠ '"') (by decide)
    (ascii_of_continuesPlain h) h

theorem stops_of_isGap {c : Char} (h : Sql.isGap c = true) :
    Text.isBlank c = true ∧ Sql.continuesName c = false :=
  forall_ascii (p := fun c => Sql.isGap c = true → Text.isBlank c = true ∧
    Sql.continuesName c = false) (by decide) (ascii_of_isGap h) h

theorem startsPlain_of_toLower {c : Char} (h : c.toLower ∈ "from".toList) :
    startsPlain c = true := by
  have ascii : c.toLower.toNat < 128 := by
    have all : "from".toList.all (·.toNat < 128) = true := by decide
    exact of_decide_eq_true (List.all_eq_true.mp all _ h)
  exact forall_ascii (p := fun c => c.toLower ∈ "from".toList → startsPlain c = true)
    (by decide) (ascii_of_toLower ascii) h

/-- What the scan takes into a name the reader of tokens does too. -/
theorem continuesName_sql {c : Char} (h : continuesName c = true) : Sql.continuesName c = true := by
  simp only [continuesName, startsName, Bool.or_eq_true, beq_iff_eq] at h
  obtain (((alpha | rfl) | rfl) | rfl) | digit := h
  · have plain : continuesPlain c = true := by simp [continuesPlain, Char.isAlphanum, alpha]
    exact (continues_of_continuesPlain plain).2.1
  · decide
  · decide
  · decide
  · simp [Sql.continuesName, digit]

end Scan

/-! ## Tokens of plain names -/

namespace Sql

theorem Lexes.of_gaps {gaps text : List Char} {tokens : List Token}
    (blank : ∀ c ∈ gaps, isGap c = true) (h : Lexes (gaps ++ text) tokens []) :
    Lexes text tokens [] := by
  induction gaps generalizing tokens with
  | nil => exact h
  | cons c gaps ih =>
    obtain ⟨token?, remaining, others, read, rfl, later⟩ := h.cons_inv
    rw [step?, if_pos (blank c List.mem_cons_self)] at read
    cases read
    exact ih (fun d hd => blank d (List.mem_cons_of_mem _ hd)) later

theorem takeQuoted?_plain {quote : Char} {escapes : Bool} {name tail : List Char}
    (plain : ∀ c ∈ name, c ≠ quote ∧ c ≠ '\\') (closed : tail.head? ≠ some quote) :
    takeQuoted? quote escapes (name ++ quote :: tail) = some (name, tail) := by
  induction name with
  | nil =>
    cases tail with
    | nil => simp [takeQuoted?]
    | cons c tail =>
      have other : c ≠ quote := by simpa using closed
      simp [takeQuoted?, other]
  | cons c name ih =>
    obtain ⟨other, unescaped⟩ := plain c List.mem_cons_self
    have rest := ih fun d hd => plain d (List.mem_cons_of_mem _ hd)
    cases name with
    | nil => simp_all [takeQuoted?]
    | cons d name => simp_all [takeQuoted?]

/-- A plain character starts a word, unless it introduces a text in quotes. -/
theorem step?_plain {c : Char} {rest remaining : List Char} {token? : Option Token}
    (starts : Scan.startsPlain c = true) (read : step? c rest = some (token?, remaining)) :
    (rest.head? = some '\'' ∧ ∃ tag text, token? = some (.tagged tag text)) ∨
      token? = some (.word ⟨String.ofList (c :: rest.takeWhile continuesName), none⟩) ∧
        remaining = rest.dropWhile continuesName := by
  have only := Scan.startsOnlyNames_of_startsPlain starts
  simp only [Scan.startsOnlyNames, Bool.and_eq_true, Bool.not_eq_true', bne_iff_ne] at only
  simp only [step?, takeToken?] at read
  simp [only] at read
  split at read
  · split at read
    · obtain ⟨_, tagged, ⟨⟩⟩ := Option.map_eq_some_iff.mp read
      obtain ⟨_, _, rfl⟩ := Option.map_eq_some_iff.mp tagged
      exact .inl ⟨rfl, _, _, rfl⟩
    · cases read
      exact .inr ⟨rfl, rfl⟩
  · cases read
    exact .inr ⟨rfl, rfl⟩

/-- The quotes that both readers know around names. -/
def quotes : List Char := ['\x60', '"']

theorem step?_quoted {quote : Char} (quotes : quote ∈ quotes) {name tail : List Char}
    (plain : ∀ c ∈ name, Scan.continuesPlain c = true) (closed : tail.head? ≠ some quote) :
    ∃ token, step? quote (name ++ quote :: tail) = some (some token, tail) ∧
      ∀ rest, Rule.name.run? (token :: rest) = some (⟨String.ofList name, some quote⟩, rest) := by
  have taken (escapes : Bool) : takeQuoted? quote escapes (name ++ quote :: tail) =
      some (name, tail) := by
    refine takeQuoted?_plain (fun c hc => ?_) closed
    obtain ⟨_, _, unescaped, backquote, doubleQuote⟩ :=
      Scan.continues_of_continuesPlain (plain c hc)
    simp only [Sql.quotes, List.mem_cons, List.not_mem_nil, or_false] at quotes
    obtain rfl | rfl := quotes
    · exact ⟨backquote, unescaped⟩
    · exact ⟨doubleQuote, unescaped⟩
  simp only [Sql.quotes, List.mem_cons, List.not_mem_nil, or_false] at quotes
  obtain rfl | rfl := quotes
  · refine ⟨.word ⟨String.ofList name, some '\x60'⟩, ?_, fun _ => rfl⟩
    simp [step?, isGap, takeToken?, taken]
  · refine ⟨.string '"' (String.ofList name), ?_, fun _ => rfl⟩
    simp [step?, isGap, takeToken?, taken]

/-! ## Clauses -/

/-- A name of ASCII letters, digits and underscores that does not start with a digit. -/
def PlainName (name : List Char) : Prop :=
  name.head?.any Scan.startsPlain = true ∧ ∀ c ∈ name, Scan.continuesPlain c = true

/-- A name as it is written, bare or in quotes, with the text behind it. -/
inductive Writes (name : List Char) : List Char → List Char → Prop
  | bare {tail : List Char} : tail.head?.any continuesName = false → Writes name (name ++ tail) tail
  | quoted {quote : Char} {tail : List Char} : quote ∈ quotes → tail.head? ≠ some quote →
    Writes name (quote :: (name ++ quote :: tail)) tail

/-- No period is the next token. -/
def Unqualified (tail : List Char) : Prop :=
  ∀ tokens, Lexes tail tokens [] → tokens.head? ≠ some (.symbol ".")

/-- The word `FROM`, blanks, and a plain name that stands alone. -/
inductive PlainClause (name : List Char) : List Char → Prop
  | intro {f r o m : Char} {gaps written tail : List Char} :
    [f, r, o, m].map Char.toLower = "from".toList → gaps ≠ [] → (∀ c ∈ gaps, isGap c = true) →
    PlainName name → Writes name written tail → Unqualified tail →
    PlainClause name (f :: r :: o :: m :: (gaps ++ written))

/-- The part of a text from the `FROM` on that follows the select list of its query. -/
def FromClause (text : String) (clause : List Char) : Prop :=
  ∃ taken word rest c more remaining, tokens? text = some (taken ++ word :: rest) ∧
    TablesAt (taken ++ word :: rest) (word :: rest) ∧ word.keyword = "FROM" ∧
    Lexes text.toList taken clause ∧ clause = c :: more ∧
    step? c more = some (some word, remaining) ∧ Lexes remaining rest []

theorem path_first {tokens left : List Token} {path : List Name}
    (h : Rule.path.run? tokens = some (path, left)) :
    ∃ n rest, Rule.name.run? tokens = some (n, rest) ∧
      (rest.head? ≠ some (.symbol ".") → path = [n]) := by
  change (Reading.separatedWithin (Rule.symbol ".") Rule.name (tokens.length + 1)).run? tokens = _ at h
  obtain ⟨n, rest, named, h⟩ := Reading.run?_bind_eq_some.mp h
  refine ⟨n, rest, named, fun alone => ?_⟩
  obtain ⟨item, _, rfl, isPeriod, _⟩ | h := Rule.run?_if_eq_some h
  · exact absurd (by simpa using isPeriod) alone
  · cases h
    rfl

theorem path_of_writes {name written tail : List Char} (plain : PlainName name)
    (writes : Writes name written tail) (alone : Unqualified tail) {tokens left : List Token}
    {path : List Name} (lexes : Lexes written tokens [])
    (read : Rule.path.run? tokens = some (path, left)) :
    ∃ quote, path = [⟨String.ofList name, quote⟩] := by
  obtain ⟨n, rest, named, single⟩ := path_first read
  obtain ⟨starts, continues⟩ := plain
  cases writes with
  | bare stops =>
    cases name with
    | nil => cases starts
    | cons c name =>
      rw [List.cons_append] at lexes
      obtain ⟨token?, remaining, others, taken, rfl, later⟩ := lexes.cons_inv
      obtain ⟨_, tag, text, rfl⟩ | ⟨rfl, rfl⟩ := step?_plain starts taken
      · cases named
      · have within : ∀ d ∈ name, continuesName d = true := fun d hd =>
          (Scan.continues_of_continuesPlain (continues d (List.mem_cons_of_mem _ hd))).2.1
        obtain ⟨takes, drops⟩ := takeWhile_stops within stops
        rw [drops] at later
        cases named
        rw [takes] at single
        exact ⟨none, single (alone _ later)⟩
  | quoted known closed =>
    obtain ⟨token?, remaining, others, taken, rfl, later⟩ := lexes.cons_inv
    obtain ⟨token, taken', names⟩ := step?_quoted known continues closed
    cases taken.symm.trans taken'
    cases named.symm.trans (names others)
    exact ⟨_, single (alone _ later)⟩

/-- After the word of a plain clause come its blanks. -/
theorem remaining_of_from (word : List Char) {gaps written more remaining : List Char} {c : Char}
    {token : Token} (spells : word.map Char.toLower = "from".toList) (some_gap : gaps ≠ [])
    (blank : ∀ d ∈ gaps, isGap d = true) (starts : word ++ (gaps ++ written) = c :: more)
    (taken : step? c more = some (some token, remaining)) (isFrom : token.keyword = "FROM") :
    remaining = gaps ++ written := by
  have plain : ∀ d ∈ word, Scan.startsPlain d = true := by
    intro d hd
    have letter : d.toLower ∈ "from".toList := spells ▸ List.mem_map_of_mem hd
    exact Scan.startsPlain_of_toLower letter
  cases word with
  | nil => cases spells
  | cons d word =>
    obtain ⟨rfl, rfl⟩ := List.cons.inj starts
    obtain ⟨_, tag, text, tagged⟩ | ⟨_, rfl⟩ := step?_plain (plain d List.mem_cons_self) taken
    · cases Option.some_inj.mp tagged
      exact absurd isFrom (by simp [Token.keyword])
    · have within : ∀ e ∈ word, continuesName e = true := fun e he =>
        (Scan.continues_of_continuesPlain (Scan.continuesPlain_of_startsPlain
          (plain e (List.mem_cons_of_mem _ he)))).2.1
      refine (takeWhile_stops within ?_).2
      cases gaps with
      | nil => exact absurd rfl some_gap
      | cons e gaps => simpa using (Scan.stops_of_isGap (blank e List.mem_cons_self)).2

end Sql

/-! ## What the scan finds -/

namespace Scan

/-- On the way through `before` the scan finds no name, and it comes out of it at the start of a
word. -/
def Passes (clause : List Char) : (insideWord : Bool) → (before : List Char) → Prop
  | insideWord, [] => insideWord = false
  | insideWord, c :: before =>
    (insideWord = true ∨ (afterFrom? (c :: (before ++ clause))).bind nameAfterBlanks? = none) ∧
      Passes clause (Text.isWordChar c) before

instance decidablePasses (clause : List Char) :
    (insideWord : Bool) → (before : List Char) → Decidable (Passes clause insideWord before)
  | insideWord, [] => inferInstanceAs (Decidable (insideWord = false))
  | _, c :: before =>
    have := decidablePasses clause (Text.isWordChar c) before
    inferInstanceAs (Decidable (_ ∧ _))

theorem nameWithin?_of_passes {clause before : List Char} {insideWord : Bool}
    (h : Passes clause insideWord before) :
    nameWithin? insideWord (before ++ clause) = nameWithin? false clause := by
  induction before generalizing insideWord with
  | nil =>
    obtain rfl := h
    rfl
  | cons c before ih =>
    obtain ⟨nothing, onward⟩ := h
    have here : (if insideWord then none
        else (afterFrom? (c :: (before ++ clause))).bind nameAfterBlanks?) = none := by
      obtain rfl | nothing := nothing
      · rfl
      · rw [nothing, ite_self]
    rw [List.cons_append, nameWithin?]
    simp only [here]
    exact ih onward

theorem name?_plain {name tail : List Char} (plain : Sql.PlainName name)
    (stops : tail.head?.any continuesName = false) : name? (name ++ tail) = some name := by
  obtain ⟨starts, continues⟩ := plain
  cases name with
  | nil => cases starts
  | cons c name =>
    have only := startsOnlyNames_of_startsPlain starts
    have first : startsName c = true := by
      simp only [startsOnlyNames, Bool.and_eq_true] at only
      simp [only]
    have within : ∀ d ∈ c :: name, continuesName d = true := fun d hd =>
      (continues_of_continuesPlain (continues d hd)).1
    have taken := (takeWhile_stops within stops).1
    rw [name?, taken]
    simp [first]

theorem nameAfterBlanks?_plain {name gaps written tail : List Char} (plain : Sql.PlainName name)
    (writes : Sql.Writes name written tail) (some_gap : gaps ≠ [])
    (blank : ∀ c ∈ gaps, Sql.isGap c = true) :
    nameAfterBlanks? (gaps ++ written) = some name := by
  have blanks : ∀ c ∈ gaps, Text.isBlank c = true := fun c hc => (stops_of_isGap (blank c hc)).1
  have first : (gaps ++ written).head?.any Text.isBlank = true := by
    cases gaps with
    | nil => exact absurd rfl some_gap
    | cons c gaps => exact blanks c List.mem_cons_self
  rw [nameAfterBlanks?, if_pos first]
  cases writes with
  | @bare tail stops =>
    have ends : tail.head?.any continuesName = false := by
      cases tail with
      | nil => rfl
      | cons d tail => exact Bool.eq_false_iff.mpr (mt continuesName_sql (by simpa using stops))
    have finds := name?_plain plain ends
    cases name with
    | nil => cases plain.1
    | cons c name =>
      have only := startsOnlyNames_of_startsPlain plain.1
      simp only [startsOnlyNames, Bool.and_eq_true, Bool.not_eq_true', bne_iff_ne] at only
      have written : (c :: name ++ tail).head?.any Text.isBlank = false := by simp [only]
      rw [(takeWhile_stops blanks written).2]
      split
      · simp_all
      · simp_all
      · exact finds
  | @quoted quote tail known closed =>
    simp only [Sql.quotes, List.mem_cons, List.not_mem_nil, or_false] at known
    obtain rfl | rfl := known
    · have written : ('\x60' :: (name ++ '\x60' :: tail)).head?.any Text.isBlank = false := rfl
      rw [(takeWhile_stops blanks written).2]
      exact name?_plain plain rfl
    · have written : ('"' :: (name ++ '"' :: tail)).head?.any Text.isBlank = false := rfl
      rw [(takeWhile_stops blanks written).2]
      exact name?_plain plain rfl

theorem nameWithin?_plain {name clause : List Char} (plain : Sql.PlainClause name clause) :
    nameWithin? false clause = some name := by
  cases plain with | @intro f r o m gaps written tail spells some_gap blank plain writes _ =>
  have found := nameAfterBlanks?_plain plain writes some_gap blank
  have after : afterFrom? (f :: r :: o :: m :: (gaps ++ written)) = some (gaps ++ written) :=
    if_pos spells
  simp [nameWithin?, after, found]

end Scan

/-! ## Both readers -/

namespace Sql

theorem exists_fromClause {text : String} {tokens rest : List Token} {word : Token}
    (lexed : tokens? text = some tokens) (tables : TablesAt tokens (word :: rest))
    (isFrom : word.keyword = "FROM") :
    ∃ before clause, text.toList = before ++ clause ∧ FromClause text clause := by
  obtain ⟨taken, rfl⟩ := tables.suffix
  have whole := Lexes.of_tokensWithin? lexed
  obtain ⟨c, more, remaining, reached, read, later⟩ := whole.split
  obtain ⟨before, split⟩ := reached.suffix
  exact ⟨before, c :: more, split.symm, taken, word, rest, c, more, remaining, lexed, tables, isFrom,
    reached, rfl, read, later⟩

/-- The tokens behind a plain clause name one table. -/
theorem path_of_plainClause {text : String} {name clause : List Char} {tokens after left : List Token}
    {word : Token} {path : List Name} (plain : PlainClause name clause)
    (clauseAt : FromClause text clause) (lexed : tokens? text = some tokens)
    (tables : TablesAt tokens (word :: after)) (read : Rule.path.run? after = some (path, left)) :
    ∃ quote, path = [⟨String.ofList name, quote⟩] := by
  obtain ⟨taken, word', rest, c, more, remaining, lexed', tables', isFrom, _, starts, step, later⟩ :=
    clauseAt
  obtain rfl := Option.some_inj.mp (lexed.symm.trans lexed')
  obtain ⟨rfl, rfl⟩ := List.cons.inj (tables.unique tables')
  cases plain with | @intro f r o m gaps written tail spells some_gap blank plain writes alone =>
  obtain rfl := remaining_of_from [f, r, o, m] spells some_gap blank starts step isFrom
  exact path_of_writes plain writes alone (later.of_gaps blank) read

theorem lowercase_plain {name : List Char} (plain : PlainName name) :
    Text.lowercase (String.ofList name) = String.ofList (name.map Char.toLower) := by
  rw [Text.lowercase, String.toList_ofList,
    Text.lower_ascii name fun c hc => Scan.ascii_of_continuesPlain (plain.2 c hc)]

end Sql

namespace Scan

/-- In a text that a query was read from, the `FROM` of that query stands somewhere. If the scan finds
nothing before, and a plain clause there, it finds the query's first table. -/
theorem relation?_eq_first_table {text : String} {query : Query}
    (read : Query.ofText? text = .ok query) :
    (∃ before clause, text.toList = before ++ clause ∧ Sql.FromClause text clause) ∧
    ∀ before clause name, text.toList = before ++ clause → Sql.FromClause text clause →
      Passes clause false before → Sql.PlainClause name clause →
      ∃ first others, query.sources = first :: others ∧ relation? text = some first.table := by
  obtain ⟨tokens, word, after, path, left, first, others, lexed, tables, isFrom, pathRead, listed,
    named⟩ := Query.ofText?_tables read
  refine ⟨Sql.exists_fromClause lexed tables isFrom, ?_⟩
  intro before clause name split clauseAt passes plain
  refine ⟨first, others, listed, ?_⟩
  obtain ⟨quote, rfl⟩ := Sql.path_of_plainClause plain clauseAt lexed tables pathRead
  have plainName : Sql.PlainName name := by
    cases plain
    assumption
  have table : first.table = Text.lowercase (String.ofList name) := named
  rw [relation?, split, nameWithin?_of_passes passes, nameWithin?_plain plain, table,
    Sql.lowercase_plain plainName]
  rfl

/-- A word that ends in `from` is passed. -/
theorem relation?_eq_first_table_logs :
    ∃ query first others, Query.ofText? "SELECT id AS read_from FROM logs" = .ok query ∧
      query.sources = first :: others ∧
      relation? "SELECT id AS read_from FROM logs" = some first.table := by
  obtain ⟨query, accepted⟩ : ∃ query,
      (Query.ofText? "SELECT id AS read_from FROM logs").toOption = some query :=
    Option.isSome_iff_exists.mp (by decide +kernel)
  have clauseAt : Sql.FromClause "SELECT id AS read_from FROM logs" "FROM logs".toList :=
    ⟨[.word ⟨"SELECT", none⟩, .word ⟨"id", none⟩, .word ⟨"AS", none⟩, .word ⟨"read_from", none⟩],
      .word ⟨"FROM", none⟩, [.word ⟨"logs", none⟩], 'F', "ROM logs".toList, " logs".toList,
      by decide +kernel, ⟨[], _, rfl, by decide +kernel⟩, rfl,
      Sql.Lexes.of_lexed? (show Sql.lexed? 8 _ = _ by decide +kernel), rfl, by decide +kernel,
      Sql.Lexes.of_lexed? (show Sql.lexed? 2 _ = _ by decide +kernel)⟩
  have plain : Sql.PlainClause ['l', 'o', 'g', 's']
      ('F' :: 'R' :: 'O' :: 'M' :: ([' '] ++ (['l', 'o', 'g', 's'] ++ []))) := by
    refine .intro rfl (by decide) (List.all_eq_true.mp rfl) ⟨rfl, List.all_eq_true.mp rfl⟩
      (.bare rfl) ?_
    intro tokens lexes
    cases lexes
    simp
  obtain ⟨first, others, listed, found⟩ := (relation?_eq_first_table (ok_of_toOption accepted)).2
    "SELECT id AS read_from ".toList _ _ (by decide) clauseAt (by decide +kernel) plain
  exact ⟨query, first, others, ok_of_toOption accepted, listed, found⟩

/-- The scan of a text misses the first table of the query that is read from it. -/
def Misses (text : String) : Prop :=
  ∃ query first others, Query.ofText? text = .ok query ∧ query.sources = first :: others ∧
    relation? text ≠ some first.table

def misses (text : String) : Bool :=
  (Query.ofText? text).toOption.any fun query => query.sources.head?.any fun first =>
    relation? text != some first.table

theorem misses_of {text : String} (h : misses text) : Misses text := by
  obtain ⟨query, read, h⟩ := (Option.any_eq_true _ _).mp h
  obtain ⟨first, head, h⟩ := (Option.any_eq_true _ _).mp h
  obtain ⟨others, listed⟩ := List.head?_eq_some_iff.mp head
  exact ⟨query, first, others, ok_of_toOption read, listed, bne_iff_ne.mp h⟩

/-- What is missed: a table behind a schema or a comment, in single quotes, behind no blank, of a name
that is not plain or that a comment comes before the period of, and any table where an alias or a
comment misleads the scan. -/
theorem relation?_ne_first_table :
    Misses "SELECT * FROM shop.logs" ∧ Misses "SELECT * FROM /* all */ logs" ∧
    Misses "SELECT * FROM 'logs'" ∧ Misses "SELECT * FROM\x60logs\x60" ∧
    Misses "SELECT * FROM \"web logs\"" ∧ Misses "SELECT * FROM shop -- all\n.logs" ∧
    Misses "SELECT id AS \"from weather\" FROM logs" ∧
    Misses "-- from weather\nSELECT * FROM logs" := by
  refine ⟨misses_of ?_, misses_of ?_, misses_of ?_, misses_of ?_, misses_of ?_, misses_of ?_,
    misses_of ?_, misses_of ?_⟩ <;> decide +kernel

end Scan

end QueryShapes

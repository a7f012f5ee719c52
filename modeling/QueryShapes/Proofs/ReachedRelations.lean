import QueryShapes.Proofs.AcceptedStore
import QueryShapes.Proofs.LoneTable
import QueryShapes.Proofs.NormalText
import QueryShapes.Proofs.ScannedRelation

/-!
# Relations that are reached by their names

A name passes through several readers: the kinds of statements and the scan know it in lower case only,
the store knows it as it was given.

- `Engine.Lists`: `SHOW TABLES` gives the name.
- `Engine.Reaches`: `DESCRIBE` gives the schema of a relation, and `SELECT *` gives its rows.
- `isName_of_description`: what is described is named in lower case.
- `listed_reached`: so every relation of such a name is reached, and no other one is described.
-/

namespace QueryShapes

/-! ## Kinds of statements about a name -/

namespace StatementKind

open Text

theorem isAlpha_eq (c : Char) : c.isAlpha = (c.isUpper || c.isLower) := rfl

/-- The characters of names stay as they are in every reader. -/
theorem kept_of_continuesName {c : Char} (h : continuesName c = true) :
    Scan.continuesPlain c = true ∧ c.toLower = c ∧ isClosing c = false ∧ isQuote c = false := by
  have plain : Scan.continuesPlain c = true := by
    simp only [continuesName, startsName, Scan.continuesPlain, Char.isAlphanum, isAlpha_eq,
      Bool.or_eq_true] at h ⊢
    tauto
  refine ⟨plain, forall_ascii (p := fun c => continuesName c = true →
    c.toLower = c ∧ isClosing c = false ∧ isQuote c = false) (by decide)
    (Scan.ascii_of_continuesPlain plain) h⟩

theorem isName_cons_iff {c : Char} {rest : List Char} :
    isName (c :: rest) = true ↔ startsName c = true ∧ ∀ d ∈ c :: rest, continuesName d = true := by
  simp only [isName, Bool.and_eq_true, List.all_eq_true, List.forall_mem_cons]
  refine ⟨fun ⟨starts, continues⟩ => ⟨starts, ?_, continues⟩, fun h => ⟨h.1, h.2.2⟩⟩
  simp [continuesName, starts]

theorem continues_of_isName {name : List Char} (h : isName name = true) :
    ∀ c ∈ name, continuesName c = true := by
  cases name with
  | nil => cases h
  | cons c rest => exact (isName_cons_iff.mp h).2

theorem plainName_of_isName {name : List Char} (h : isName name = true) : Sql.PlainName name := by
  refine ⟨?_, fun c hc => (kept_of_continuesName (continues_of_isName h c hc)).1⟩
  cases name with
  | nil => cases h
  | cons c rest =>
    have starts := (isName_cons_iff.mp h).1
    simp only [startsName, Bool.or_eq_true] at starts
    simp only [List.head?_cons, Option.any_some, Scan.startsPlain, isAlpha_eq, Bool.or_eq_true]
    tauto

theorem map_toLower_of_isName {name : List Char} (h : isName name = true) :
    name.map Char.toLower = name :=
  (List.map_congr_left fun c hc => (kept_of_continuesName (continues_of_isName h c hc)).2.1).trans
    (List.map_id name)

theorem isWord_of_isName {name : List Char} (h : isName name = true) : IsWord name := by
  refine ⟨?_, fun c hc => ?_⟩
  · rintro rfl
    cases h
  · exact Bool.eq_false_iff.mpr fun blank => Bool.eq_false_iff.mp
      (kept_of_continuesName (continues_of_isName h c hc)).2.2.1 (isClosing_of_isBlank blank)

/-- The normal form of words before a name. -/
theorem normal_words_name {ws : List (List Char)} (each : ∀ w ∈ ws, IsWord w) {name : List Char}
    (h : isName name = true) :
    normal (unwords (ws ++ [name])) = unwords (ws.map lower ++ [name]) := by
  have words : ∀ w ∈ ws ++ [name], IsWord w := by
    intro w hw
    obtain hw | hw := List.mem_append.mp hw
    · exact each w hw
    · exact List.mem_singleton.mp hw ▸ isWord_of_isName h
  have stops : (unwords (ws ++ [name])).getLast?.any isClosing = false := by
    obtain ⟨begun, c, rfl⟩ := (List.eq_nil_or_concat name).resolve_left (isWord_of_isName h).1
    rw [List.concat_eq_append] at h ⊢
    obtain ⟨text, whole⟩ := unwords_concat ws begun c
    have solid := (kept_of_continuesName (continues_of_isName h c (by simp))).2.2.1
    simp [whole, solid]
  have same : lower name = name := by
    rw [lower_ascii name fun c hc => Scan.ascii_of_continuesPlain
      (kept_of_continuesName (continues_of_isName h c hc)).1, map_toLower_of_isName h]
  have whole : unmarked (unwords (ws ++ [name])) = unwords (ws ++ [name]) := by
    have trimmed := unmarked_of_stops stops []
    rwa [List.append_nil, show unmarked [] = [] from rfl, List.append_nil] at trimmed
  rw [normal_eq, whole, words_unwords words, lower_unwords, List.map_append, List.map_singleton, same]

theorem unquoted?_of_isName {name : List Char} (h : isName name = true) :
    unquoted? name = some name := by
  have bare : ∀ c ∈ name, isQuote c = false := fun c hc =>
    (kept_of_continuesName (continues_of_isName h c hc)).2.2.2
  cases name with
  | nil => cases h
  | cons c rest =>
    have first := bare c List.mem_cons_self
    have last := List.getLast?_eq_some_getLast (List.cons_ne_nil c rest)
    have closed := bare _ (List.getLast_mem (List.cons_ne_nil c rest))
    simp only [unquoted?, first, last, closed, h, Bool.false_eq_true, if_false, if_true]

theorem ofText_describe {name : String} (h : isName name.toList = true) :
    ofText ("DESCRIBE " ++ name) = .description name := by
  have written : ("DESCRIBE " ++ name).toList = unwords (["DESCRIBE".toList] ++ [name.toList]) := by
    rw [List.singleton_append, unwords_cons_cons, unwords_singleton, String.toList_append]
    rfl
  have word : ∀ w ∈ ["DESCRIBE".toList], IsWord w := isWord_of_all rfl
  have lowered : unwords (["DESCRIBE".toList].map lower ++ [name.toList]) =
      "describe ".toList ++ name.toList := by
    rw [List.map_singleton, List.singleton_append, unwords_cons_cons, unwords_singleton]
    rfl
  have alive : isLiveness ("describe ".toList ++ name.toList) = false := rfl
  have listing : isListing ("describe ".toList ++ name.toList) = false := rfl
  have described : described? ("describe ".toList ++ name.toList) = some name := by
    have after : after? "describe ".toList ("describe ".toList ++ name.toList) = some name.toList :=
      after?_append _ _
    simp only [described?, descriptionWords, List.findSome?_cons, after, Option.bind_some,
      unquoted?_of_isName h, Option.map_some, String.ofList_toList]
  rw [ofText, written, normal_words_name word h, lowered, ofNormal, alive, listing, described]
  rfl

theorem ofText_selectAll {name : String} (h : isName name.toList = true) :
    ofText ("SELECT * FROM " ++ name) = .read := by
  have written : ("SELECT * FROM " ++ name).toList =
      unwords (["SELECT".toList, ['*'], "FROM".toList] ++ [name.toList]) := by
    simp only [List.cons_append, List.nil_append, unwords_cons_cons, unwords_singleton,
      String.toList_append]
    rfl
  have words : ∀ w ∈ ["SELECT".toList, ['*'], "FROM".toList], IsWord w :=
    isWord_of_all rfl
  have lowered : unwords (["SELECT".toList, ['*'], "FROM".toList].map lower ++ [name.toList]) =
      "select * from ".toList ++ name.toList := by
    simp only [List.map_cons, List.map_nil, List.cons_append, List.nil_append, unwords_cons_cons,
      unwords_singleton]
    rfl
  have alive : isLiveness ("select * from ".toList ++ name.toList) = false := rfl
  have listing : isListing ("select * from ".toList ++ name.toList) = false := rfl
  have described : described? ("select * from ".toList ++ name.toList) = none := rfl
  have reads : isRead ("select * from ".toList ++ name.toList) = true := rfl
  rw [ofText, written, normal_words_name words h, lowered, ofNormal, alive, listing, described, reads]
  rfl

theorem isName_of_unquoted? {text name : List Char} (h : unquoted? text = some name) :
    isName name = true := by
  unfold unquoted? at h
  obtain ⟨named, same⟩ := Option.ite_none_right_eq_some.mp h
  exact Option.some_inj.mp same ▸ named

/-- Whatever is described has a name in lower case. -/
theorem isName_of_description {text relation : String}
    (h : ofText text = .description relation) : isName relation.toList = true := by
  unfold ofText ofNormal at h
  split at h
  · cases h
  split at h
  · cases h
  split at h
  · rename_i found
    obtain rfl : _ = relation := StatementKind.description.inj h
    obtain ⟨word, _, taken⟩ := List.exists_of_findSome?_eq_some found
    obtain ⟨name, unquoted, rfl⟩ := Option.map_eq_some_iff.mp taken
    obtain ⟨rest, _, named⟩ := Option.bind_eq_some_iff.mp unquoted
    rw [String.toList_ofList]
    exact isName_of_unquoted? named
  · split at h <;> cases h

end StatementKind

/-! ## Reading and scanning a selection of everything -/

namespace Sql

/-- A plain name is one token at most. -/
theorem Lexes.length_plain {name : List Char} (plain : PlainName name) {tokens : List Token}
    (h : Lexes name tokens []) : tokens.length ≤ 1 := by
  obtain ⟨starts, continues⟩ := plain
  cases name with
  | nil => cases starts
  | cons c name =>
    have within : ∀ d ∈ name, continuesName d = true := fun d hd =>
      (Scan.continues_of_continuesPlain (continues d (List.mem_cons_of_mem _ hd))).2.1
    obtain ⟨token?, remaining, others, taken, rfl, later⟩ := h.cons_inv
    obtain ⟨quoted, _⟩ | ⟨rfl, rfl⟩ := step?_plain starts taken
    · have quote : continuesName '\'' = true := within _ (List.mem_of_mem_head? quoted)
      cases quote
    · rw [List.dropWhile_eq_nil_iff.mpr within] at later
      cases later
      simp

theorem tokens_selectAll {name : String} (plain : PlainName name.toList) {tokens : List Token}
    (lexed : tokens? ("SELECT * FROM " ++ name) = some tokens) :
    ∃ rest, tokens = .word ⟨"SELECT", none⟩ :: .symbol "*" :: .word ⟨"FROM", none⟩ :: rest ∧
      rest.length ≤ 1 := by
  have read := Lexes.of_tokensWithin? lexed
  rw [String.toList_append] at read
  have known : lexed? 6 ("SELECT * FROM ".toList ++ name.toList) =
      some ([.word ⟨"SELECT", none⟩, .symbol "*", .word ⟨"FROM", none⟩], name.toList) := rfl
  obtain ⟨rest, rfl, ends⟩ := Lexes.after_lexed? known read
  exact ⟨rest, rfl, Lexes.length_plain plain ends⟩

end Sql

theorem Query.ofText?_selectAll {name : String} (plain : Sql.PlainName name.toList) {query : Query}
    (h : Query.ofText? ("SELECT * FROM " ++ name) = .ok query) :
    (∃ source, query.sources = [source]) ∧ query.filter = [] := by
  refine ofText?_lone h fun tokens word after lexed place isFrom => ?_
  obtain ⟨rest, rfl, short⟩ := Sql.tokens_selectAll plain lexed
  rcases List.suffix_cons_iff.mp place with same | place
  · cases same
    exact absurd isFrom (by decide)
  rcases List.suffix_cons_iff.mp place with same | place
  · cases same
    exact absurd isFrom (by decide)
  rcases List.suffix_cons_iff.mp place with same | place
  · cases same
    exact short
  · have length := place.length_le
    rw [List.length_cons] at length
    omega

set_option maxRecDepth 4000 in
/-- The scan finds a name in lower case as it stands. -/
theorem Scan.relation?_selectAll {name : String} (h : StatementKind.isName name.toList = true) :
    relation? ("SELECT * FROM " ++ name) = some name := by
  have plain := StatementKind.plainName_of_isName h
  have written : ("SELECT * FROM " ++ name).toList = ['S', 'E', 'L', 'E', 'C', 'T', ' ', '*', ' '] ++
      'F' :: 'R' :: 'O' :: 'M' :: ([' '] ++ (name.toList ++ [])) := by
    rw [String.toList_append, List.append_nil]
    rfl
  have clause : Sql.PlainClause name.toList
      ('F' :: 'R' :: 'O' :: 'M' :: ([' '] ++ (name.toList ++ []))) := by
    refine .intro rfl (by decide) (List.all_eq_true.mp rfl) plain (.bare rfl) ?_
    intro tokens lexes
    cases lexes
    simp
  have passes : Passes ('F' :: 'R' :: 'O' :: 'M' :: ([' '] ++ (name.toList ++ []))) false
      ['S', 'E', 'L', 'E', 'C', 'T', ' ', '*', ' '] := by
    have outside : Text.isWordChar ' ' = false := by decide
    refine ⟨.inr rfl, .inl ?_, .inl ?_, .inl ?_, .inl ?_, .inl ?_, .inl ?_, .inr rfl, .inr rfl,
      outside⟩ <;> decide
  rw [relation?, written, nameWithin?_of_passes passes, nameWithin?_plain clause, Option.map_some,
    StatementKind.map_toLower_of_isName h, String.ofList_toList]

/-! ## Relations of an accepted store -/

namespace Engine

/-- The rows that a statement is answered with, whatever the parameters. -/
def Answers (engine : Engine) (text : String) (rows : List Row) : Prop :=
  ∀ newId parameters, engine.execute newId text parameters = .ok (.rows rows)

/-- `SHOW TABLES` gives the name. -/
def Lists (engine : Engine) (name : String) : Prop :=
  ∃ rows, engine.Answers "SHOW TABLES" rows ∧ ∃ row ∈ rows, row.get? "table_name" = some (.text name)

/-- By the name, `DESCRIBE` gives the schema of the relation, and `SELECT *` its rows in storage
order. -/
def Reaches (engine : Engine) (name : String) (relation : Relation) : Prop :=
  engine.Answers ("DESCRIBE " ++ name) relation.schema.toRows ∧
    engine.Answers ("SELECT * FROM " ++ name) relation.rows

theorem lists_iff {engine : Engine} {name : String} :
    engine.Lists name ↔ name ∈ engine.store.names := by
  have kind : StatementKind.ofText "SHOW TABLES" = .listing := by decide
  have answers : engine.Answers "SHOW TABLES" engine.listing := by
    intro newId parameters
    rw [execute, kind]
  have named (other : String) :
      (Row.ofList [("table_name", .text other)]).get? "table_name" = some (.text other) := rfl
  constructor
  · rintro ⟨rows, given, row, hrow, gives⟩
    have same : Envelope.rows rows = .rows engine.listing :=
      Except.ok.inj ((given "" []).symm.trans (answers "" []))
    rw [Envelope.rows.inj same] at hrow
    obtain ⟨other, hother, rfl⟩ := List.mem_map.mp hrow
    rw [named other] at gives
    exact Value.text.inj (Option.some_inj.mp gives) ▸ hother
  · intro listed
    exact ⟨engine.listing, answers, _, List.mem_map_of_mem listed, named name⟩

theorem read_selectAll {store : Store} {name : String} {relation : Relation}
    (h : StatementKind.isName name.toList = true) (found : store.relation? name = some relation) :
    (ofStore store).read ("SELECT * FROM " ++ name) = .ok relation.rows := by
  have scanned : Scan.rows store ("SELECT * FROM " ++ name) = relation.rows := by
    rw [Scan.rows, Scan.relation?_selectAll h, Option.bind_some, Store.rows?, found]
    rfl
  unfold read
  cases parsed : Query.ofText? ("SELECT * FROM " ++ name) with
  | error rejection => exact congrArg Except.ok scanned
  | ok query =>
    obtain ⟨⟨source, sources⟩, unfiltered⟩ :=
      Query.ofText?_selectAll (StatementKind.plainName_of_isName h) parsed
    have passed : firstAnswer? query (ofStore store).store (ofStore store).shapes = .ok none :=
      firstAnswer?_of_all_pass (passes_lone sources unfiltered store)
    simp only [passed]
    exact congrArg Except.ok scanned

/-- A relation is reached by a name in lower case. -/
theorem reaches_of_isName {store : Store} {name : String} {relation : Relation}
    (h : StatementKind.isName name.toList = true) (found : store.relation? name = some relation) :
    (ofStore store).Reaches name relation := by
  refine ⟨fun newId parameters => ?_, fun newId parameters => ?_⟩
  · have schema : store.schemaOf name = relation.schema := by
      rw [Store.schemaOf, found]
      rfl
    rw [execute, StatementKind.ofText_describe h]
    exact congrArg (fun schema : Schema => Except.ok (Envelope.rows schema.toRows)) schema
  · rw [execute, StatementKind.ofText_selectAll h, read_selectAll h found]
    rfl

/-- Every relation that is listed under a name of lower-case letters, digits and underscores, which
does not start with a digit, is reached by it. Under any other name a relation is listed but not
described: the statement asks about a different name, or is of a different kind. -/
theorem listed_reached {relations : List Relation} {store : Store} {name : String}
    (accepted : Store.ofRelations relations = .ok store) (listed : (ofStore store).Lists name) :
    (StatementKind.isName name.toList = true → ∃ relation ∈ relations, relation.name = name ∧
      (∀ other ∈ relations, other.name = name → other = relation) ∧
      (ofStore store).Reaches name relation) ∧
    (StatementKind.isName name.toList = false →
      StatementKind.ofText ("DESCRIBE " ++ name) ≠ .description name) := by
  constructor
  · intro named
    have held := (Store.accepted_iff.mp accepted).2
    obtain ⟨relation, stored, rfl⟩ := List.mem_map.mp (lists_iff.mp listed)
    have member : relation ∈ relations := held ▸ stored
    have found := Store.relation?_of_accepted accepted member
    exact ⟨relation, member, rfl, fun other hother same =>
      Store.eq_of_accepted accepted hother member same, reaches_of_isName named found⟩
  · intro unnamed described
    rw [StatementKind.isName_of_description described] at unnamed
    cases unnamed

theorem listed_reached_logs :
    Store.ofRelations Sample.relations = .ok Sample.store ∧
    (ofStore Sample.store).Lists "logs" ∧ StatementKind.isName "logs".toList = true ∧
    ∃ relation ∈ Sample.relations, relation.name = "logs" ∧
      (ofStore Sample.store).Reaches "logs" relation := by
  have listed : (ofStore Sample.store).Lists "logs" := lists_iff.mpr (by decide)
  have named : StatementKind.isName "logs".toList = true := by decide
  obtain ⟨relation, member, same, _, reached⟩ :=
    (listed_reached Sample.sample_accepted listed).1 named
  exact ⟨Sample.sample_accepted, listed, named, relation, member, same, reached⟩

end Engine

/-- One row under a name with a capital. -/
def Sample.capitalized : Relation := relation "Logs" ["id"] [[int 1]]

namespace Engine

set_option maxRecDepth 4000 in
/-- A name with a capital is accepted and listed, but both statements look for `logs`. -/
theorem listed_not_reached :
    Store.ofRelations [Sample.capitalized] = .ok ⟨[Sample.capitalized]⟩ ∧
    (ofStore ⟨[Sample.capitalized]⟩).Lists "Logs" ∧
    (ofStore ⟨[Sample.capitalized]⟩).Answers "DESCRIBE Logs" [] ∧
    (ofStore ⟨[Sample.capitalized]⟩).Answers "SELECT * FROM Logs" [] ∧
    ¬∃ relation ∈ [Sample.capitalized], relation.name = "Logs" ∧
      (ofStore ⟨[Sample.capitalized]⟩).Reaches "Logs" relation := by
  have listed : (ofStore ⟨[Sample.capitalized]⟩).Lists "Logs" := lists_iff.mpr (by decide)
  have described : (ofStore ⟨[Sample.capitalized]⟩).Answers "DESCRIBE Logs" [] := by
    have kind : StatementKind.ofText "DESCRIBE Logs" = .description "logs" := by decide
    intro newId parameters
    rw [execute, kind]
    rfl
  have scanned : (ofStore ⟨[Sample.capitalized]⟩).Answers "SELECT * FROM Logs" [] := by
    have kind : StatementKind.ofText "SELECT * FROM Logs" = .read := by decide
    have none : ((ofStore ⟨[Sample.capitalized]⟩).read "SELECT * FROM Logs").toOption.map
        List.length = some 0 := by decide
    obtain ⟨rows, read, empty⟩ := Option.map_eq_some_iff.mp none
    obtain rfl := List.length_eq_zero_iff.mp empty
    intro newId parameters
    rw [execute, kind]
    exact congrArg (Except.map Envelope.rows) (ok_of_toOption read)
  refine ⟨by rfl, listed, described, scanned, ?_⟩
  rintro ⟨relation, member, _, _, selected⟩
  obtain rfl := List.mem_singleton.mp member
  have rows : [] = Sample.capitalized.rows :=
    Envelope.rows.inj (Except.ok.inj ((scanned "" []).symm.trans (selected "" [])))
  cases rows

end Engine

end QueryShapes
